import AnimeLookup.Json.Basic
import AnimeLookup.Json.Token

/-!
# Writing JSON

A value is written in one of two layouts: on one line without blanks, or with every item and
member on a line of its own, indented by two spaces for each level.  Empty arrays and objects take
no line of their own in either.

Strings are written with the fewest escapes: the quotation mark, the backslash, and the control
characters, of which five have a short form.  What the reader cannot turn into a text or an integer
is written as the plainest thing that it reads back the same way.
-/

set_option autoImplicit false

namespace AnimeLookup.Json

open Text

/-! ## Strings -/

/-- A hexadecimal digit. -/
def hexDigit (n : Nat) : Char := Nat.digitChar n

/-- The way a character is written in a string. -/
def writeChar (c : Char) : List Char :=
  match c with
  | '"' => ['\\', '"']
  | '\\' => ['\\', '\\']
  | '\n' => ['\\', 'n']
  | '\r' => ['\\', 'r']
  | '\t' => ['\\', 't']
  | '\x08' => ['\\', 'b']
  | '\x0c' => ['\\', 'f']
  | _ =>
    if c.toNat < 0x20 then ['\\', 'u', '0', '0', hexDigit (c.toNat / 16), hexDigit (c.toNat % 16)]
    else [c]

/-- A string in quotation marks.  Content that is no text is written as half of a surrogate pair. -/
def writeString : Option String → List Char
  | some s => '"' :: s.toList.flatMap writeChar ++ ['"']
  | none => "\"\\ud800\"".toList

/-! ## Layout -/

/-- How a value is laid out. -/
inductive Layout where
  /-- On one line, without blanks. -/
  | compact
  /-- With a line for every item and member. -/
  | pretty
  deriving DecidableEq

/-- What separates the items at the given depth. -/
def Layout.lineBreak : Layout → Nat → List Char
  | .compact, _ => []
  | .pretty, depth => '\n' :: List.replicate (2 * depth) ' '

/-- What follows the colon behind a key. -/
def Layout.gap : Layout → List Char
  | .compact => []
  | .pretty => [' ']

mutual

/-- The text of a value at the given depth. -/
def writeAt (layout : Layout) (depth : Nat) : Json → List Char
  | .null => ['n', 'u', 'l', 'l']
  | .bool true => ['t', 'r', 'u', 'e']
  | .bool false => ['f', 'a', 'l', 's', 'e']
  | .integer n => decimalInt n
  | .inexact => ['0', '.', '0']
  | .string s => writeString s
  | .array [] => ['[', ']']
  | .array (v :: rest) =>
    '[' :: layout.lineBreak (depth + 1) ++ writeAt layout (depth + 1) v ++
      writeItems layout depth rest
  | .object [] => ['\x7b', '\x7d']
  | .object ((key, v) :: rest) =>
    '\x7b' :: layout.lineBreak (depth + 1) ++ writeString key ++ ':' :: layout.gap ++
      writeAt layout (depth + 1) v ++ writeMembers layout depth rest

/-- The text of the further items of an array, and its end. -/
def writeItems (layout : Layout) (depth : Nat) : List Json → List Char
  | [] => layout.lineBreak depth ++ [']']
  | v :: rest =>
    ',' :: layout.lineBreak (depth + 1) ++ writeAt layout (depth + 1) v ++
      writeItems layout depth rest

/-- The text of the further members of an object, and its end. -/
def writeMembers (layout : Layout) (depth : Nat) : List (Option String × Json) → List Char
  | [] => layout.lineBreak depth ++ ['\x7d']
  | (key, v) :: rest =>
    ',' :: layout.lineBreak (depth + 1) ++ writeString key ++ ':' :: layout.gap ++
      writeAt layout (depth + 1) v ++ writeMembers layout depth rest

end

/-- **The text of a value.** -/
def write (layout : Layout) (v : Json) : List Char := writeAt layout 0 v

/-- The text of a value on one line. -/
def compact (v : Json) : String := String.ofList (v.write .compact)

/-- The text of a value with a line for every item and member. -/
def pretty (v : Json) : String := String.ofList (v.write .pretty)

end AnimeLookup.Json
