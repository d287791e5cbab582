import AnimeLookup.Text.Blank
import AnimeLookup.Text.WordChar

/-!
# The query made from a title

Before a title is searched for, three kinds of additions are taken off it, because catalogs do not
know them: a season number in shorthand at its end (`Title S2`), a second name between tildes
(`Title ~Other Name~`), and an aside at its end (`Title (English Name)`).  `preprocess` takes
them off in this order, and trims.

The last two are recognised by their content, which is made of word characters and white space
only.  So `You Are (Not) Alone` keeps its parentheses, which are not at the end, and a title with a
lone tilde keeps it.
-/

set_option autoImplicit false

namespace AnimeLookup.Title

open Text

/-- Whether a text may be a second name or an aside: word characters and white space, and at
least one of them. -/
def isPlainPhrase (s : List Char) : Bool :=
  !s.isEmpty && s.all fun c ↦ isWordChar c || isBlank c

/-! ## The season suffix -/

/-- Whether a season number in shorthand can follow the character. -/
def opensSeason (c : Char) : Bool := isBlank c || c = '.'

/-- **The text without the season suffix**: a blank or dot, a capital `S` and one or two digits,
at the very end. -/
def stripSeasonSuffix (s : List Char) : List Char :=
  match s.reverse with
  | d :: 'S' :: w :: stem => if d.isDigit && opensSeason w then stem.reverse else s
  | d :: e :: 'S' :: w :: stem =>
    if d.isDigit && e.isDigit && opensSeason w then stem.reverse else s
  | _ => s

/-! ## Names between tildes -/

/-- Behind an opening tilde: how many characters there are up to and including the closing one, if
they are a plain phrase. -/
def otherNameLength (s : List Char) : Option Nat :=
  let name := s.takeWhile (· ≠ '~')
  if isPlainPhrase name && name.length < s.length then some (name.length + 1) else none

/-- `dropOtherNames`, with `skip` characters of a name still to be passed over and the white space
`blanks` directly before the rest. -/
def dropOtherNamesAfter (skip : Nat) (blanks : List Char) : List Char → List Char
  | [] => blanks
  | c :: rest =>
    match skip with
    | n + 1 => dropOtherNamesAfter n [] rest
    | 0 =>
      if c = '~' then
        match otherNameLength rest with
        | some n => dropOtherNamesAfter n [] rest
        | none => blanks ++ c :: dropOtherNamesAfter 0 [] rest
      else if isBlank c then dropOtherNamesAfter 0 (blanks ++ [c]) rest
      else blanks ++ c :: dropOtherNamesAfter 0 [] rest

/-- **The text without the names between tildes**, each with the white space before it.  From the
left, a tilde and the next one enclose a name if what is between them is a plain phrase; a tilde
that opens no name stays, and the next one is tried. -/
def dropOtherNames (s : List Char) : List Char := dropOtherNamesAfter 0 [] s

/-! ## The trailing aside -/

/-- **The text without the aside at its very end**: a plain phrase in parentheses. -/
def dropTrailingAside (s : List Char) : List Char :=
  match s.reverse with
  | ')' :: rest =>
    let phrase := rest.takeWhile (· ≠ '(')
    match rest.drop phrase.length with
    | '(' :: stem => if isPlainPhrase phrase then stem.reverse else s
    | _ => s
  | _ => s

/-! ## The query -/

/-- **The query made from a title.** -/
def preprocess (s : List Char) : List Char :=
  trim (dropTrailingAside (trim (dropOtherNames (stripSeasonSuffix s))))

end AnimeLookup.Title
