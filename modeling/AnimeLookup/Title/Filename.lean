import AnimeLookup.Text.Blank

/-!
# The title in the name of a file

Which part of the name of a file is a title is for a `NameReader` to say.  `guessTitle` shows it the
last component of a path, and takes a blank title for none.
-/

set_option autoImplicit false

namespace AnimeLookup.Title

open Text

/-- The last component of a path, trimmed.  Either kind of slash separates components. -/
def fileName (path : List Char) : List Char :=
  trim (path.reverse.takeWhile fun c ↦ c ≠ '/' && c ≠ '\\').reverse

/-- A reader of the names of files: the title in a name, if it finds one. -/
abbrev NameReader := List Char → Option (List Char)

/-- **The title in the name of a file**, if the reader finds one that is not blank. -/
def guessTitle (read : NameReader) (path : List Char) : Option (List Char) :=
  let name := fileName path
  if name.isEmpty then none else ((read name).map trim).filter (!·.isEmpty)

end AnimeLookup.Title
