import AnimeLookup.Text.Numeral
import AnimeLookup.Toml.Basic

/-!
# Writing TOML

A configuration is written as a list of sections: a header, and under it an entry on each line.  A
string is written in the first of these ways that shows it without escapes: between quotation
marks, between apostrophes, between triple quotation marks, between triple apostrophes.  If none of
them does, it is written with escapes, between triple marks if it has line breaks.

Which of them do depends on a few facts about the string: whether it has line breaks, backslashes
or other control characters, and how long its longest runs of either mark are.
-/

set_option autoImplicit false

namespace AnimeLookup.Toml

open Text

/-! ## Strings -/

/-- The length of the longest run of a character, where `current` of them have just been
passed. -/
def longestRunOf (mark : Char) (current : Nat) : List Char → Nat
  | [] => current
  | c :: rest =>
    if c = mark then longestRunOf mark (current + 1) rest
    else max current (longestRunOf mark 0 rest)

/-- The ways to write a string. -/
inductive Style where
  /-- Between quotation marks. -/
  | basic
  /-- Between apostrophes. -/
  | literal
  /-- Between triple quotation marks. -/
  | tripleBasic
  /-- Between triple apostrophes. -/
  | tripleLiteral
  deriving DecidableEq

/-- Whether a character needs an escape wherever it stands: a control character other than a tab
or a line feed. -/
def needsEscape (c : Char) : Bool :=
  c != '\t' && c != '\n' && (c.toNat < 0x20 || c.toNat == 0x7F)

/-- The way in which a string is written. -/
def Style.of (s : List Char) : Style :=
  let escapes := s.any needsEscape
  let backslash := s.contains '\\'
  let newline := s.contains '\n'
  let quotes := longestRunOf '"' 0 s
  let apostrophes := longestRunOf '\'' 0 s
  if !escapes && !backslash && quotes == 0 && !newline then .basic
  else if !escapes && apostrophes == 0 && !newline then .literal
  else if !escapes && !backslash && quotes ≤ 2 then .tripleBasic
  else if !escapes && apostrophes ≤ 2 then .tripleLiteral
  else if newline then .tripleBasic
  else .basic

/-- An upper-case hexadecimal digit. -/
def upperHexDigit (n : Nat) : Char := (Nat.digitChar n).toUpper

/-- The way a character other than a quotation mark is written with escapes, where a line feed is
written as itself if `lines` allows several lines. -/
def escapeChar (lines : Bool) (c : Char) : List Char :=
  match c with
  | '\x08' => ['\\', 'b']
  | '\t' => ['\\', 't']
  | '\n' => if lines then ['\n'] else ['\\', 'n']
  | '\x0c' => ['\\', 'f']
  | '\r' => ['\\', 'r']
  | '\\' => ['\\', '\\']
  | _ =>
    if c.toNat < 0x20 || c.toNat == 0x7F then
      ['\\', 'u', '0', '0', upperHexDigit (c.toNat / 16), upperHexDigit (c.toNat % 16)]
    else [c]

/-- A string with escapes, where `quotes` quotation marks have just been written as themselves.
Between triple marks, two in a row may be. -/
def escapeAfter (lines : Bool) (quotes : Nat) : List Char → List Char
  | [] => []
  | c :: rest =>
    if c = '"' then
      if quotes < (if lines then 2 else 0) then c :: escapeAfter lines (quotes + 1) rest
      else '\\' :: '"' :: escapeAfter lines 0 rest
    else escapeChar lines c ++ escapeAfter lines 0 rest

/-- A line break behind an opening triple mark, if the string has line breaks of its own. -/
def leadingBreak (s : List Char) : List Char := if s.contains '\n' then ['\n'] else []

/-- A string, written in the given way. -/
def Style.write (style : Style) (s : List Char) : List Char :=
  match style with
  | .basic => '"' :: escapeAfter false 0 s ++ ['"']
  | .literal => '\'' :: s ++ ['\'']
  | .tripleBasic => ['"', '"', '"'] ++ leadingBreak s ++ escapeAfter true 0 s ++ ['"', '"', '"']
  | .tripleLiteral => ['\'', '\'', '\''] ++ leadingBreak s ++ s ++ ['\'', '\'', '\'']

/-- **A string, as it is written.** -/
def writeString (s : String) : List Char := (Style.of s.toList).write s.toList

/-! ## Sections -/

/-- A value that an entry can have. -/
inductive Scalar where
  /-- A string. -/
  | string (s : String)
  /-- A natural number. -/
  | nat (n : Nat)
  /-- A truth value. -/
  | bool (b : Bool)
  deriving DecidableEq

/-- The value that a scalar is. -/
def Scalar.toToml : Scalar → Toml
  | string s => .string s
  | nat n => .integer n
  | bool b => .bool b

/-- A scalar, as it is written. -/
def Scalar.write : Scalar → List Char
  | string s => writeString s
  | nat n => decimal n
  | bool true => "true".toList
  | bool false => "false".toList

/-- Whether a scalar can be written: a number has to fit into 64 bits with a sign. -/
def Scalar.isWritable : Scalar → Bool
  | nat n => n ≤ largestInteger
  | _ => true

/-- A section: a table of scalars. -/
structure Section where
  /-- Its name, which needs no marks. -/
  name : String
  /-- Its entries, whose keys need no marks. -/
  entries : List (String × Scalar)
  deriving DecidableEq

namespace Section

/-- An entry on a line of its own. -/
def writeEntry (entry : String × Scalar) : List Char :=
  entry.1.toList ++ " = ".toList ++ entry.2.write ++ ['\n']

/-- A section, as it is written. -/
def write (s : Section) : List Char :=
  '[' :: s.name.toList ++ [']', '\n'] ++ s.entries.flatMap writeEntry

/-- Whether a section can be written. -/
def isWritable (s : Section) : Bool := s.entries.all (·.2.isWritable)

/-- The table that a section is. -/
def toToml (s : Section) : Toml := .table (s.entries.map fun (k, v) ↦ (k, v.toToml))

end Section

/-- The sections behind the first one, with an empty line before each. -/
def writeFollowing (sections : List Section) : List Char :=
  sections.flatMap fun s ↦ '\n' :: s.write

/-- **Sections, as they are written**, unless one of them cannot be. -/
def write (sections : List Section) : Option (List Char) :=
  if sections.all Section.isWritable then
    match sections with
    | [] => some []
    | s :: rest => some (s.write ++ writeFollowing rest)
  else none

end AnimeLookup.Toml
