import AnimeLookup.Text.Numeral
import AnimeLookup.Toml.Basic

/-!
# Strings in TOML

TOML has four ways to write a string.  Between quotation marks, escapes are understood; between
apostrophes, everything stands for itself.  Either kind may be written on one line, or between
triple marks on several.

On several lines, a line break directly behind the opening mark does not count, any other is a line
feed however it is written, and up to two marks in a row are part of the string.  With escapes, a
backslash at the end of a line joins the lines, dropping all blanks up to the next character.

The readers start behind the opening mark.  They walk the text character by character; where
several characters mean one, the rest of them are passed over by `skip`.
-/

set_option autoImplicit false

namespace AnimeLookup.Toml

open Text (readHex)

/-! ## Escapes -/

/-- The character with a code point in hexadecimal. -/
def charOfHex (digits : List Char) : Option Char :=
  (readHex digits).bind fun n ↦ if n.isValidChar then some (Char.ofNat n) else none

/-- Behind a backslash: the character that is meant, and how many characters write it. -/
def escapeAt : List Char → Option (Char × Nat)
  | 'b' :: _ => some ('\x08', 1)
  | 't' :: _ => some ('\t', 1)
  | 'n' :: _ => some ('\n', 1)
  | 'f' :: _ => some ('\x0c', 1)
  | 'r' :: _ => some ('\r', 1)
  | '"' :: _ => some ('"', 1)
  | '\\' :: _ => some ('\\', 1)
  | 'u' :: rest => if 4 ≤ rest.length then (charOfHex (rest.take 4)).map (·, 5) else none
  | 'U' :: rest => if 8 ≤ rest.length then (charOfHex (rest.take 8)).map (·, 9) else none
  | _ => none

/-- How many blanks and line breaks the text starts with. -/
def blankLinesLength : List Char → Nat
  | [] => 0
  | c :: rest =>
    if isBlank c || c = '\n' || (c = '\r' && rest.head? == some '\n') then
      blankLinesLength rest + 1
    else 0

/-- Behind a backslash: how many characters it joins away, if it stands at the end of a line. -/
def joinedLength (s : List Char) : Option Nat :=
  if (lineBreakLength (skipBlanks s)).isSome then some (blankLinesLength s) else none

/-! ## On one line -/

/-- The string up to the closing quotation mark, with `skip` characters to be passed over. -/
def basicAfter : Nat → List Char → Option (List Char × List Char)
  | _, [] => none
  | skip + 1, _ :: rest => basicAfter skip rest
  | 0, c :: rest =>
    if c = '"' then some ([], rest)
    else if c = '\\' then
      match escapeAt rest with
      | some (d, n) => push d (basicAfter n rest)
      | none => none
    else if isPlain c then push c (basicAfter 0 rest)
    else none

/-- The string up to the closing apostrophe. -/
def literal : List Char → Option (List Char × List Char)
  | [] => none
  | c :: rest =>
    if c = '\'' then some ([], rest)
    else if isPlain c then push c (literal rest)
    else none

/-! ## On several lines -/

/-- At a run of at least three marks: those that are still part of the string, and the text behind
the three that close it. -/
def closeTriple (mark : Char) (s : List Char) : List Char × List Char :=
  let extra := min ((s.takeWhile (· = mark)).length - 3) 2
  (List.replicate extra mark, s.drop (extra + 3))

/-- The string up to the closing triple mark, with `skip` characters to be passed over, where
`escapes` says whether a backslash is one. -/
def tripleAfter (mark : Char) (escapes : Bool) : Nat → List Char → Option (List Char × List Char)
  | _, [] => none
  | skip + 1, _ :: rest => tripleAfter mark escapes skip rest
  | 0, c :: rest =>
    if c = mark && [mark, mark].isPrefixOf rest then some (closeTriple mark (c :: rest))
    else if c = '\\' && escapes then
      match joinedLength rest with
      | some n => tripleAfter mark escapes n rest
      | none =>
        match escapeAt rest with
        | some (d, n) => push d (tripleAfter mark escapes n rest)
        | none => none
    else
      match lineBreakLength (c :: rest) with
      | some n => push '\n' (tripleAfter mark escapes (n - 1) rest)
      | none => if isPlain c then push c (tripleAfter mark escapes 0 rest) else none

/-- The string on several lines behind its opening mark. -/
def triple (mark : Char) (escapes : Bool) (s : List Char) : Option (List Char × List Char) :=
  tripleAfter mark escapes ((lineBreakLength s).getD 0) s

/-! ## Any string -/

/-- A string on one line, from its opening mark on. -/
def lineString : Reader String
  | '"' :: rest => (basicAfter 0 rest).map fun (s, rest) ↦ (String.ofList s, rest)
  | '\'' :: rest => (literal rest).map fun (s, rest) ↦ (String.ofList s, rest)
  | _ => none

/-- **A string**, from its opening mark on. -/
def anyString : Reader String
  | '"' :: '"' :: '"' :: rest => (triple '"' true rest).map fun (s, rest) ↦ (String.ofList s, rest)
  | '\'' :: '\'' :: '\'' :: rest =>
    (triple '\'' false rest).map fun (s, rest) ↦ (String.ofList s, rest)
  | s => lineString s

end AnimeLookup.Toml
