import AnimeLookup.Title.Filename

/-!
# The names of releases

A release is often named `[Group] Title Words - 05 (1080p) [ABCD1234].mkv`.  `releaseTitle` takes
the title out of such a name: the extension goes, then everything in brackets, and what is left of
the first piece of free text is cut where the number of an episode begins.

Names are given in many other ways as well, and nothing in this library rests on how they are read
here.  This reader is for the program, which has to have one.
-/

set_option autoImplicit false

namespace AnimeLookup.Title

open Text

/-- The extensions of video files. -/
def videoExtensions : List (List Char) :=
  ["3gp", "avi", "divx", "flv", "m2ts", "mkv", "mov", "mp4", "mpg", "ogm", "rm", "rmvb", "ts",
    "webm", "wmv"].map String.toList

/-- The name of a file without the extension of a video file. -/
def dropExtension (name : List Char) : List Char :=
  let extension := (name.reverse.takeWhile (· ≠ '.')).reverse
  match name.reverse.drop extension.length with
  | '.' :: stem =>
    if videoExtensions.contains (extension.map Char.toLower) then stem.reverse else name
  | _ => name

/-- The bracket that closes an opening one. -/
def closingBracket (c : Char) : Option Char :=
  match c with
  | '[' => some ']'
  | '(' => some ')'
  | _ => none

/-- The pieces of a text outside brackets, where `closing` is the bracket waited for, if any, and
`piece` is the current piece so far. -/
def freePieces (closing : Option Char) (piece : List Char) : List Char → List (List Char)
  | [] => [piece]
  | c :: rest =>
    match closing with
    | some b => if c = b then freePieces none [] rest else freePieces closing piece rest
    | none =>
      match closingBracket c with
      | some b => piece :: freePieces (some b) [] rest
      | none => freePieces none (piece ++ [c]) rest

/-! ## Numbers of episodes -/

/-- The text behind the version of a release, such as `v2`, if it starts with one. -/
def dropVersion : List Char → List Char
  | v :: d :: rest => if (v = 'v' || v = 'V') && d.isDigit then rest else v :: d :: rest
  | s => s

/-- The number that a text starts with, of up to four digits, and the text behind it and behind the
version of a release. -/
def versionedNumber (s : List Char) : Option (Nat × List Char) :=
  let digits := s.takeWhile Char.isDigit
  if digits.isEmpty || 4 < digits.length then none
  else some (Nat.ofDigitChars 10 digits 0, dropVersion (s.drop digits.length))

/-- Whether a word is the number of an episode, or of several in increasing order: `05`, `05v2`,
`05-06`. -/
def isNumbered (word : List Char) : Bool :=
  match versionedNumber word with
  | some (_, []) => true
  | some (first, mark :: rest) =>
    (mark = '-' || mark = '~') &&
      match versionedNumber rest with
      | some (last, []) => first < last
      | _ => false
  | none => false

/-- Whether what follows the digits of a word makes it the number of a part of an episode, as in
`4a`, or of one that comes between two others, as in `12.5`. -/
def isPartMark (s : List Char) : Bool :=
  s = ['.', '5'] || (s.length = 1 && s.all "abcABC".toList.contains)

/-- Whether a word is the number of an episode in one of the usual forms. -/
def isEpisode (word : List Char) : Bool :=
  word.head?.any Char.isDigit &&
    (word.all Char.isDigit || isNumbered word || isPartMark (word.dropWhile Char.isDigit))

/-- Whether the text is a hyphen between blanks with the number of an episode behind it. -/
def startsEpisode : List Char → Bool
  | ' ' :: '-' :: ' ' :: rest => isEpisode (rest.takeWhile (!isBlank ·))
  | _ => false

/-- The text up to the number of an episode. -/
def dropEpisode : List Char → List Char
  | [] => []
  | c :: rest => if startsEpisode (c :: rest) then [] else c :: dropEpisode rest

/-- A piece of free text as a title: with blanks for underscores, without the number of an episode,
trimmed. -/
def titleOfPiece (piece : List Char) : List Char :=
  trim (dropEpisode (piece.map fun c ↦ if c = '_' then ' ' else c))

/-- **The title in the name of a release**, if there is anything like one.  A name that is a plain
title already is its own title. -/
def releaseTitle : NameReader := fun name ↦
  ((freePieces none [] (dropExtension name)).map titleOfPiece).find? (!·.isEmpty)

end AnimeLookup.Title
