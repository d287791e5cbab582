import AnimeLookup.Settings

/-!
# The titles of a work

A work has up to three titles side by side: romanised, English, and in its own script.  Which one
is shown follows from the preference and the language alone.  Exactly one of the three is looked
at, and when it is missing or empty there is no title; putting another one in its place is left to
whoever shows it.
-/

set_option autoImplicit false

namespace AnimeLookup.Catalog

/-- The titles of one work. -/
structure Titles where
  /-- The romanised title. -/
  romaji : Option String
  /-- The English title. -/
  english : Option String
  /-- The title in the work's own script. -/
  native : Option String
  deriving DecidableEq

namespace Titles

/-- No title at all. -/
def empty : Titles := ⟨none, none, none⟩

/-- The languages for which the localised title is the one in the work's own script. -/
def nativeLocales : List String := ["ja", "jap"]

/-- The title that the preference points at, whether it is empty or not. -/
def selected (t : Titles) (preference : TitlePreference) (locale : String) : Option String :=
  match preference with
  | .localized =>
    if locale = "en" then t.english
    else if nativeLocales.contains locale then t.native
    else t.romaji
  | .primaryScript => t.native
  | .primaryScriptRomanized => t.romaji

/-- **The title to show**, if the one that the preference points at is there and not empty. -/
def preferred (t : Titles) (preference : TitlePreference) (locale : String) : Option String :=
  (t.selected preference locale).filter (· ≠ "")

theorem preferred_eq_some_iff (t : Titles) (preference : TitlePreference) (locale s : String) :
    t.preferred preference locale = some s ↔
      t.selected preference locale = some s ∧ s ≠ "" := by
  rw [preferred, Option.filter_eq_some_iff]
  simp

end Titles

end AnimeLookup.Catalog
