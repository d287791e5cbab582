import AnimeLookup.Display.Record
import AnimeLookup.Title.Equivalence
import AnimeLookup.Title.Query

/-!
# The other answers to a person

A search is answered with a numbered list, a comparison with a verdict and the rule that settled
it, and a cleaning with every form of the title.  A lookup without a result, or one that was
cancelled, says so.
-/

set_option autoImplicit false

namespace AnimeLookup.Display

open Catalog Text

/-! ## Searches -/

/-- The year behind the title in a listing, if it is known. -/
def yearRemark (r : SearchResult) : List Char :=
  match r.productionYear with
  | some y => " (".toList ++ decimalInt y.toInt ++ [')']
  | none => []

/-- A line of a listing, with its number. -/
def listingLine (r : SearchResult) (number : Nat) : Span :=
  let name := (r.name.getD untitled).toList
  let provider := r.providerId.toList
  { plain := alignRight 3 (decimal number) ++ ". ".toList ++ name ++ yearRemark r ++
      " [".toList ++ provider ++ "]\n".toList
    coloured := alignRight 3 (decimal number) ++ ". ".toList ++ Style.bold.apply name ++
      yearRemark r ++ " [".toList ++ Style.dimmed.apply provider ++ "]\n".toList }

/-- **A search listing.**  It is numbered from one. -/
def listing (results : List SearchResult) : List Span :=
  (results.zipIdx 1).map fun (r, number) ↦ listingLine r number

/-! ## Nothing found, and cancelled -/

/-- The answer when nothing was found for a title. -/
def notFound (title : String) : List Span :=
  [{ plain := "No metadata found for \"".toList ++ title.toList ++ "\"\n".toList
     coloured := Style.red.apply "No metadata found".toList ++ " for \"".toList ++ title.toList ++
      "\"\n".toList }]

/-- The answer when a lookup was cancelled. -/
def cancelled : List Span :=
  [{ plain := "Cancelled\n".toList
     coloured := Style.yellow.apply "Cancelled".toList ++ ['\n'] }]

/-! ## Titles -/

/-- **The verdict on two titles.** -/
def comparison (a b : String) : List Span :=
  match Title.matchingRule a.toList b.toList with
  | some rule =>
    [{ plain := "EQUIVALENT (rule: ".toList ++ rule.toList ++ ")\n".toList
       coloured := Style.green.apply "EQUIVALENT".toList ++ " (rule: ".toList ++ rule.toList ++
        ")\n".toList }]
  | none =>
    [{ plain := "DIFFERENT\n".toList
       coloured := Style.red.apply "DIFFERENT".toList ++ ['\n'] }]

/-- A form of a title on a line of its own. -/
def formLine (label : String) (form : List Char) : List Char := label.toList ++ form ++ ['\n']

/-- **All forms of a title.** -/
def forms (title : String) : List Span :=
  let s := title.toList
  [.unstyled (formLine "preprocessed: " (Title.preprocess s) ++
    formLine "light:        " (Title.lightClean s) ++
    formLine "heavy:        " (Title.heavyClean s) ++
    formLine "numerals:     " (Title.symbolRun 'I' s) ++
    formLine "emphasis:     " (Title.symbolRun '!' s))]

end AnimeLookup.Display
