/-!
# Paths

A path is written as the names of directories and of a file, with slashes between them.  Empty
parts and dots mean the directory that has been reached, so they can be left out, save that a path
with one of them at its end can only be that of a directory.  Two dots mean the directory above.
They cannot be left out together with the name before them: a path is followed part by part, and
that name has to be the name of a directory all the same.

`Path` is a path from the root.  Where it leads depends on what is there; that is decided by
`AnimeLookup.Files`.
-/

set_option autoImplicit false

namespace AnimeLookup

/-- Where a file or a directory is: the names that lead to it from the root.  Unlike a path, a
location has one spelling. -/
abbrev Location := List String

/-- A part of a path. -/
inductive Path.Part where
  /-- What has this name in the directory that has been reached. -/
  | down (name : String)
  /-- The directory above. -/
  | up
  deriving DecidableEq

/-- A path from the root. -/
structure Path where
  /-- The parts, in order. -/
  parts : List Path.Part
  /-- Whether it ends like the path of a directory. -/
  ofDirectory : Bool
  deriving DecidableEq

/-- The location that a part leads to. -/
def Location.follow (l : Location) : Path.Part → Location
  | .down name => l ++ [name]
  | .up => l.dropLast

namespace Path

/-- The root. -/
def root : Path := ⟨[], true⟩

/-- The path of what has a name in the directory at a path. -/
def child (path : Path) (name : String) : Path := ⟨path.parts ++ [.down name], false⟩

/-- The path of the directory in which the last part of a path is looked for. -/
def parent (path : Path) : Path := ⟨path.parts.dropLast, true⟩

/-- The beginnings of a list of parts, the longest one first. -/
def beginnings : List Part → List (List Part)
  | [] => [[]]
  | part :: rest => (beginnings rest).map (part :: ·) ++ [[]]

/-- A directory and the ones above it, up to the root. -/
def upward (directory : Path) : List Path := (beginnings directory.parts).map (⟨·, true⟩)

/-- The locations that parts lead through from a location, the last one included. -/
def passed (l : Location) : List Part → List Location
  | [] => []
  | part :: rest => l.follow part :: passed (l.follow part) rest

/-- The locations that a path leads through. -/
def locations (path : Path) : List Location := passed [] path.parts

/-! ## Reading and writing -/

/-- A text, cut at its slashes. -/
def cut : List Char → List (List Char)
  | [] => [[]]
  | c :: rest =>
    if c = '/' then [] :: cut rest
    else
      match cut rest with
      | [] => [[c]]
      | piece :: following => (c :: piece) :: following

/-- The part that a piece between slashes stands for, if it is not to be left out. -/
def Part.ofPiece (piece : List Char) : Option Part :=
  if piece = [] || piece = ['.'] then none
  else if piece = ['.', '.'] then some .up
  else some (.down (String.ofList piece))

/-- **The path that a text means in a directory.**  With a slash in front it starts at the root. -/
def ofText (directory : Path) (s : String) : Path :=
  let pieces := cut s.toList
  let start := if s.toList.head? = some '/' then root else directory
  ⟨start.parts ++ pieces.filterMap Part.ofPiece,
    (pieces.getLast?.bind Part.ofPiece).isNone⟩

/-- The name of a part. -/
def Part.text : Part → List Char
  | .down name => name.toList
  | .up => ['.', '.']

/-- The text of a path. -/
def text (path : Path) : List Char := path.parts.flatMap fun part ↦ '/' :: part.text

end Path

end AnimeLookup
