import AnimeLookup.Catalog.Media
import AnimeLookup.Display.Styled

/-!
# The summary of a record

A record is shown as a heading with its title and number, followed by a line for each thing that is
known about it.  The names of the lines end at the same column.  What is not known, or is an empty
list, has no line.
-/

set_option autoImplicit false

namespace AnimeLookup.Display

open Catalog Text

/-- What is shown for a work without a title. -/
def untitled : String := "(untitled)"

/-- Names, separated by commas. -/
def commaList (names : List String) : List Char :=
  [',', ' '].intercalate (names.map String.toList)

/-- A line that says one thing.  A style includes the blanks in front of the name. -/
def labelled (label : String) (value : List Char) : List Span :=
  [{ plain := alignRight 10 label.toList ++ ": ".toList ++ value ++ ['\n']
     coloured :=
      Style.dimmed.apply (alignRight 10 label.toList) ++ ": ".toList ++ value ++ ['\n'] }]

/-- The line for something that may be unknown. -/
def labelledIfKnown {α : Type} (label : String) (write : α → List Char) (v : Option α) :
    List Span :=
  match v with
  | some a => labelled label (write a)
  | none => []

/-- The line for names, if there are any. -/
def labelledIfAny (label : String) (names : List String) : List Span :=
  if names.isEmpty then [] else labelled label (commaList names)

/-- An actor with the character, if it has a name. -/
def creditText (c : Credit) : String :=
  match c.role with
  | some role => c.name ++ " (" ++ role ++ ")"
  | none => c.name

/-- How many actors are shown at most. -/
def shownCast : Nat := 5

/-- The heading of a summary. -/
def heading (m : Media) (settings : Settings) : List Span :=
  let title := ((m.title settings).getD untitled).toList
  let number := decimal m.id.toNat
  [{ plain := title ++ " [AniList ".toList ++ number ++ "]\n".toList
     coloured :=
      Style.green.apply (Style.bold.apply title) ++ " [AniList ".toList ++ number ++ "]\n".toList }]

/-- The rating, with one decimal place. -/
def ratingText (m : Media) : List Char := m.rating.toFraction.fixed 1

/-- **The summary of a record.** -/
def record (m : Media) (settings : Settings) : List Span :=
  heading m settings ++
    labelledIfKnown "original" String.toList (m.secondTitle settings) ++
    labelledIfKnown "status" (·.name.toList) m.seriesStatus ++
    labelledIfKnown "aired" PartialDate.toText m.startDate.complete? ++
    labelledIfKnown "episodes" (decimal ·.toNat) m.episodes ++
    labelledIfKnown "rating" (fun _ ↦ ratingText m) m.averageScore ++
    labelledIfAny "genres" (m.genreNames settings) ++
    labelledIfAny "studios" m.studioNames ++
    labelledIfAny "tags" (m.tagNames settings) ++
    labelledIfAny "cast" (((m.cast settings).take shownCast).map creditText) ++
    labelledIfKnown "image" String.toList m.imageUrl

end AnimeLookup.Display
