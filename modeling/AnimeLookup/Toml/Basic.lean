/-!
# TOML values

Configuration files are TOML documents.  `Toml` keeps what a configuration can tell apart.  No
setting is a floating-point number or a date, so of those only the fact is kept, which is enough to
refuse them.

A table is the list of its entries, with each key once.  Nothing depends on their order.
-/

set_option autoImplicit false

namespace AnimeLookup

/-- A TOML value. -/
inductive Toml where
  /-- A string. -/
  | string (s : String)
  /-- An integer. -/
  | integer (n : Int)
  /-- A floating-point number. -/
  | float
  /-- A truth value. -/
  | bool (b : Bool)
  /-- A date, a time, or both. -/
  | datetime
  /-- A list of values. -/
  | array (items : List Toml)
  /-- Values by key. -/
  | table (entries : List (String × Toml))
  deriving Inhabited

namespace Toml

/-- The largest integer: one of 64 bits with a sign. -/
def largestInteger : Nat := 9223372036854775807

/-- What a reader of a part of a document finds, and the text behind that part. -/
abbrev Reader (α : Type) := List Char → Option (α × List Char)

/-- A character in front of what has been read. -/
def push (c : Char) : Option (List Char × List Char) → Option (List Char × List Char)
  | some (s, rest) => some (c :: s, rest)
  | none => none

/-! ## Blanks, comments and line ends -/

/-- Whether a character is a blank within a line. -/
def isBlank (c : Char) : Bool := c = ' ' || c = '\t'

/-- The text behind the blanks it starts with. -/
def skipBlanks (s : List Char) : List Char := s.dropWhile isBlank

/-- Whether a character may stand in a string or a comment as itself: a tab, or no control
character. -/
def isPlain (c : Char) : Bool := c = '\t' || (0x20 ≤ c.toNat && c.toNat != 0x7F)

/-- How many characters the line break has with which the text starts, if it does. -/
def lineBreakLength : List Char → Option Nat
  | '\n' :: _ => some 1
  | '\r' :: '\n' :: _ => some 2
  | _ => none

/-- The text behind the end of a line, which may be the end of the text. -/
def endLine (s : List Char) : Option (List Char) :=
  if s.isEmpty then some [] else (lineBreakLength s).map (s.drop ·)

/-- The text behind the rest of a line on which nothing more than a comment stands. -/
def finishLine (s : List Char) : Option (List Char) :=
  match skipBlanks s with
  | '#' :: rest => endLine (rest.dropWhile isPlain)
  | rest => endLine rest

/-- The text behind blanks, line breaks and comments, where `inComment` says whether it starts
within a comment. -/
def skipGap (inComment : Bool) : List Char → List Char
  | [] => []
  | c :: rest =>
    if c = '\n' || (c = '\r' && rest.head? == some '\n') then skipGap false rest
    else if inComment then
      if isPlain c then skipGap true rest else c :: rest
    else if isBlank c then skipGap false rest
    else if c = '#' then skipGap true rest
    else c :: rest

end Toml

end AnimeLookup
