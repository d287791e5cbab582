import AnimeLookup.Text.Blank
import AnimeLookup.Text.Replace

/-!
# Cleaning a title

A search that finds nothing is tried again with a plainer title, and two titles that differ only
in decoration should compare equal.  Both need the same service: taking away what catalogs and
people write differently.

There are two strengths.  (An *aside* is a remark in parentheses, such as the year of a remake.)

* `lightClean` drops the first aside that follows a space, the punctuation that is written
  unpredictably (dots and hyphens become spaces, apostrophes and backticks go, an ampersand is
  spelled out), every remaining parenthesis, and the `S` of a season marker such as `S2`.  The
  result is not trimmed at its end: a title that ends in a hyphen and the same title without it
  are different works.
* `heavyClean` also moves the Japanese word for a theatrical film to an English word at the end,
  drops colons and two unusual spaces, and respells three numerals that romanisations write with
  a digit.

No function here can fail: a text in which there is nothing to clean comes back as it was.
-/

set_option autoImplicit false

namespace AnimeLookup.Title

open Text

/-! ## Asides -/

/-- **The first aside of a text**: from a `(` to the nearest `)` after it, both included. -/
def firstAside : List Char → Option (List Char)
  | [] => none
  | c :: rest => if c = '(' then through ')' (c :: rest) else firstAside rest

/-- The first aside that follows a space, with that space in front. -/
def firstSpacedAside : List Char → Option (List Char)
  | [] => none
  | c :: rest =>
    if [' ', '('].isPrefixOf (c :: rest) then through ')' (c :: rest)
    else firstSpacedAside rest

/-- The text, trimmed, without its first spaced aside; if the same aside stands there
several times, every copy goes. -/
def dropSpacedAside (s : List Char) : List Char :=
  match firstSpacedAside (trim s) with
  | some span => remove span (trim s)
  | none => trim s

/-! ## Punctuation -/

/-- What a light cleaning writes for a character. -/
def plainForm (c : Char) : List Char :=
  match c with
  | '.' | '-' => [' ']
  | '\x60' | '\'' | '(' | ')' => []
  | '&' => ['a', 'n', 'd']
  | _ => [c]

/-- The text in plain punctuation. -/
def plainPunctuation (s : List Char) : List Char := s.flatMap plainForm

/-! ## Season markers -/

/-- The digits of the first season marker, a capital `S` with digits directly behind it. -/
def seasonNumber : List Char → Option (List Char)
  | [] => none
  | c :: rest =>
    if c = 'S' ∧ (rest.takeWhile Char.isDigit) ≠ [] then some (rest.takeWhile Char.isDigit)
    else seasonNumber rest

/-- The text with its first season marker, wherever that text stands, reduced to the number. -/
def plainSeason (s : List Char) : List Char :=
  match seasonNumber s with
  | some digits => replace ('S' :: digits) digits s
  | none => s

/-! ## The light cleaning -/

/-- **The light cleaning**: aside, punctuation, season marker, in that order. -/
def lightClean (s : List Char) : List Char := plainSeason (plainPunctuation (dropSpacedAside s))

/-! ## The heavy cleaning -/

/-- The words for a theatrical film, in the two ways they are capitalised. -/
def movieWords : List (List Char) := ["Gekijyouban".toList, "gekijyouban".toList]

/-- The text with a word for a theatrical film taken out and ` Movie` put behind the rest. -/
def expandMovieWord (s word : List Char) : List Char :=
  if occurs word s then trim (remove word s ++ " Movie".toList) else s

/-- The text with the words for a theatrical film expanded, the capitalised one first. -/
def expandMovieWords (s : List Char) : List Char := movieWords.foldl expandMovieWord s

/-- The characters that only the heavy cleaning drops: the colon, the ideographic space, and the
glyph that makes a space visible. -/
def isHeavyNoise (c : Char) : Bool := c = ':' || c = '\u3000' || c = '\u2423'

/-- Numerals that romanisations write with a digit, and the words they stand for. -/
def numeralRespellings : List (List Char × List Char) :=
  [("2wei".toList, "zwei".toList), ("3rei".toList, "drei".toList), ("4ier".toList, "vier".toList)]

/-- The text with the respelled numerals in words. -/
def respellNumerals (s : List Char) : List Char :=
  numeralRespellings.foldl (fun t pair ↦ replace pair.1 pair.2 t) s

/-- **The heavy cleaning**: the light one between the expansion of the words for a film and the
removal of colons, unusual spaces and respelled numerals. -/
def heavyClean (s : List Char) : List Char :=
  respellNumerals ((lightClean (expandMovieWords s)).filter (!isHeavyNoise ·))

end AnimeLookup.Title
