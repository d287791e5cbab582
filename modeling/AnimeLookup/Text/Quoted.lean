import AnimeLookup.Text.Unprintable

/-!
# Quoting a text in a message

An error message shows the text it is about in quotation marks, so that blanks at its ends and
unusual characters can be seen.  The quotation mark and the backslash are escaped, the common
control characters have their short names, and a character that has no glyph of its own, or that
would attach to the one before it, is shown by its code point.
-/

set_option autoImplicit false

namespace AnimeLookup.Text

/-- The code point of a character in braces, in hexadecimal. -/
def codePoint (c : Char) : List Char := ['\\', 'u', '\x7b'] ++ Nat.toDigits 16 c.toNat ++ ['\x7d']

/-- The way a character is shown between quotation marks. -/
def quoteChar (c : Char) : List Char :=
  match c with
  | '"' => ['\\', '"']
  | '\\' => ['\\', '\\']
  | '\n' => ['\\', 'n']
  | '\r' => ['\\', 'r']
  | '\t' => ['\\', 't']
  | '\x00' => ['\\', '0']
  | _ => if isUnprintable c then codePoint c else [c]

/-- **A text in quotation marks.** -/
def quoted (s : String) : String := String.ofList ('"' :: s.toList.flatMap quoteChar ++ ['"'])

end AnimeLookup.Text
