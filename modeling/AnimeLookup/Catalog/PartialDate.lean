import AnimeLookup.Text.Numeral

/-!
# Partial dates

A catalog often knows a year but no month, or a month but no day.  A `PartialDate` has whichever of
the three are known.  Its text stops at the first unknown part: a day without a month says nothing,
and a month without a year neither.
-/

set_option autoImplicit false

namespace AnimeLookup.Catalog

open Text

/-- A calendar date of which parts may be unknown. -/
structure PartialDate where
  /-- The year. -/
  year : Option Int32
  /-- The month. -/
  month : Option UInt32
  /-- The day of the month. -/
  day : Option UInt32
  deriving DecidableEq

namespace PartialDate

/-- The date of which nothing is known. -/
def unknown : PartialDate := ⟨none, none, none⟩

/-- The date if all of it is known. -/
def complete? (d : PartialDate) : Option PartialDate :=
  if d.year.isSome && d.month.isSome && d.day.isSome then some d else none

/-- A year with at least four characters, a minus sign being one of them. -/
def yearText (y : Int32) : List Char := paddedInt 4 y.toInt

/-- A month or day with at least two digits. -/
def partText (n : UInt32) : List Char := padZeros 2 (decimal n.toNat)

/-- **The text of a date**: the known parts from the year on, joined by hyphens. -/
def toText (d : PartialDate) : List Char :=
  match d.year, d.month, d.day with
  | some y, some m, some n => yearText y ++ '-' :: partText m ++ '-' :: partText n
  | some y, some m, none => yearText y ++ '-' :: partText m
  | some y, none, _ => yearText y
  | none, _, _ => "unknown".toList

/-- The date without the parts that its text does not show. -/
def shown (d : PartialDate) : PartialDate :=
  match d.year, d.month with
  | none, _ => unknown
  | some y, none => ⟨some y, none, none⟩
  | some y, some m => ⟨some y, some m, d.day⟩

/-- The text depends on the shown parts only. -/
theorem toText_shown (d : PartialDate) : d.shown.toText = d.toText := by
  obtain ⟨_ | y, _ | m, _ | n⟩ := d <;> rfl

end PartialDate

end AnimeLookup.Catalog
