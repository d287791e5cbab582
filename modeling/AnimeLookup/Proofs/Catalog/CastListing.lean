import AnimeLookup.Catalog.Media
import Mathlib.Data.Finset.Basic
import Mathlib.Data.List.FinRange

/-!
# The cast that is listed

A record lists its characters, and for each of them the actors who speak it.  `Media.appearances`
is that list laid out flat, one actor in one part after the other.  An appearance is listed if it
*qualifies* (`Appearance.Qualifies`), and of those that would be listed under the same names only
the first is.

What "the first" means is said by places (`firstPlaces`): those at which a key stands for the first
time.  To keep the first of each is to read the list at these places and at no others
(`firstOfEach_eq_map_firstPlaces`), so the order is the one of the record, and the picture is the
one of the first credit.

An actor speaks the work's own language or does not.  Hence the names that are listed in all
languages are those listed for the localised titles together with those listed for the titles in the
work's own script.  Only names can be compared in this way: which credit is the first for its names
may differ between the three listings, and its picture with it.
-/

set_option autoImplicit false

namespace AnimeLookup.Catalog

/-! ## The first of each -/

section First

variable {α κ : Type} [DecidableEq κ] (key : α → κ)

/-- **The places of a list at which a key stands for the first time**, in their order. -/
def firstPlaces (l : List α) : List (Fin l.length) :=
  (List.finRange l.length).filter fun i ↦ ∀ j < i, key l[j] ≠ key l[i]

/-- The places behind the first element are those of the rest, less those that have its key. -/
theorem firstPlaces_cons (a : α) (rest : List α) :
    firstPlaces key (a :: rest) =
      0 :: ((firstPlaces key rest).filter fun i ↦ key rest[i] ≠ key a).map Fin.succ := by
  have hfresh : ∀ i : Fin rest.length,
      (∀ j < i.succ, key (a :: rest)[j] ≠ key (a :: rest)[i.succ]) ↔
        key rest[i] ≠ key a ∧ ∀ j < i, key rest[j] ≠ key rest[i] := by
    intro i
    constructor
    · intro h
      exact ⟨(h 0 (Fin.succ_pos i)).symm, fun j hj ↦ h j.succ (Fin.succ_lt_succ_iff.mpr hj)⟩
    · rintro ⟨hhead, hrest⟩ j hj
      cases j using Fin.cases with
      | zero => exact hhead.symm
      | succ j => exact hrest j (Fin.succ_lt_succ_iff.mp hj)
  have hplaces : List.finRange (a :: rest).length = 0 :: (List.finRange rest.length).map Fin.succ :=
    List.finRange_succ
  rw [firstPlaces, firstPlaces, hplaces, List.filter_cons_of_pos (by simp), List.filter_map,
    List.filter_filter]
  refine congrArg (0 :: List.map Fin.succ ·) (List.filter_congr fun i _ ↦ ?_)
  rw [Function.comp_apply, ← Bool.decide_and]
  exact decide_eq_decide.mpr (hfresh i)

/-- **To keep the first of each is to read the list where a key stands for the first time.** -/
theorem firstOfEach_eq_map_firstPlaces (l : List α) :
    firstOfEach key l = (firstPlaces key l).map fun i ↦ l[i] := by
  induction l with
  | nil => rfl
  | cons a rest ih =>
    rw [firstOfEach, firstPlaces_cons, ih, List.filter_map, List.map_cons, List.map_map]
    rfl

end First

/-! ## Appearances -/

/-- An actor in the part of a character. -/
structure Appearance where
  /-- The character's name. -/
  character : Name
  /-- The actor. -/
  actor : VoiceActor

/-- **The appearances in a work**, in the order of its characters and of the actors of each. -/
def Media.appearances (m : Media) : List Appearance :=
  (m.characters.getD []).flatMap fun edge ↦ edge.voiceActors.map (Appearance.mk edge.character)

/-- Whether a language goes with the titles that are preferred: the work's own one with its own
script, romanised or not, and any other with the localised titles.  An unknown language is another
one. -/
def GoesWith (preference : TitlePreference) (language : Option String) : Prop :=
  match preference with
  | .localized => language ≠ some "JAPANESE"
  | .primaryScript | .primaryScriptRomanized => language = some "JAPANESE"

instance : (preference : TitlePreference) → (language : Option String) →
    Decidable (GoesWith preference language)
  | .localized, language => inferInstanceAs (Decidable (language ≠ some "JAPANESE"))
  | .primaryScript, language => inferInstanceAs (Decidable (language = some "JAPANESE"))
  | .primaryScriptRomanized, language => inferInstanceAs (Decidable (language = some "JAPANESE"))

namespace Appearance

/-- **An appearance that is to be listed**, unless the same names are listed before. -/
structure Qualifies (settings : Settings) (p : Appearance) : Prop where
  /-- The actor has a name. -/
  named : ∃ name, p.actor.name.full = some name ∧ name ≠ ""
  /-- Where the cast is limited, the language goes with the titles. -/
  goesWith : settings.filterPeopleByTitlePreference = true →
    GoesWith settings.titlePreference p.actor.language

theorem qualifies_iff (settings : Settings) (p : Appearance) :
    p.Qualifies settings ↔ (∃ name, p.actor.name.full = some name ∧ name ≠ "") ∧
      (settings.filterPeopleByTitlePreference = true →
        GoesWith settings.titlePreference p.actor.language) :=
  ⟨fun h ↦ ⟨h.named, h.goesWith⟩, fun h ↦ ⟨h.1, h.2⟩⟩

instance (settings : Settings) (p : Appearance) : Decidable (p.Qualifies settings) :=
  decidable_of_iff (p.actor.name.full.any (· ≠ "") = true ∧
      (settings.filterPeopleByTitlePreference = true →
        GoesWith settings.titlePreference p.actor.language)) <| by
    simp only [qualifies_iff, Option.any_eq_true, decide_eq_true_eq]

/-- What qualifies where the cast is not limited qualifies in one of the two ways of limiting it,
because its language is the work's own one or is not. -/
theorem qualifies_unlimited_iff (settings : Settings) (p : Appearance) :
    p.Qualifies { settings with filterPeopleByTitlePreference := false } ↔
      p.Qualifies { settings with
          filterPeopleByTitlePreference := true, titlePreference := .localized } ∨
        p.Qualifies { settings with
          filterPeopleByTitlePreference := true, titlePreference := .primaryScript } := by
  have hlanguage :
      GoesWith .localized p.actor.language ∨ GoesWith .primaryScript p.actor.language :=
    ne_or_eq p.actor.language (some "JAPANESE")
  simp only [qualifies_iff, forall_const, ← and_or_left, hlanguage, and_true, Bool.false_eq_true,
    IsEmpty.forall_iff]

/-- The credit for an appearance, with the larger picture of the actor if there is one. -/
def credit (p : Appearance) : Credit where
  name := p.actor.name.full.getD ""
  role := p.character.full
  imageUrl := p.actor.image.large.or p.actor.image.medium

end Appearance

/-- The names under which a credit is listed. -/
def Credit.names (c : Credit) : String × Option String := (c.name, c.role)

/-! ## The credits of a record -/

theorem isPreferred_iff (preference : TitlePreference) (actor : VoiceActor) :
    actor.isPreferred preference = true ↔ GoesWith preference actor.language := by
  rw [VoiceActor.isPreferred]
  cases preference <;> simp [GoesWith]

/-- **An appearance that qualifies is credited in full, and no other is credited.** -/
theorem credit_of_appearance (settings : Settings) (p : Appearance) :
    (if !settings.filterPeopleByTitlePreference ||
        p.actor.isPreferred settings.titlePreference then p.actor.credit p.character else none) =
      if p.Qualifies settings then some p.credit else none := by
  have hlanguage : (!settings.filterPeopleByTitlePreference ||
      p.actor.isPreferred settings.titlePreference) = true ↔
        (settings.filterPeopleByTitlePreference = true →
          GoesWith settings.titlePreference p.actor.language) := by
    rw [← isPreferred_iff, Bool.or_eq_true, Bool.not_eq_true', ← Bool.not_eq_true]
    exact imp_iff_not_or.symm
  by_cases h : p.Qualifies settings
  · obtain ⟨name, hname, hne⟩ := h.named
    rw [if_pos (hlanguage.mpr h.goesWith), if_pos h, VoiceActor.credit, Appearance.credit, hname,
      Option.filter_some_pos (by simpa using hne)]
    rfl
  · rw [if_neg h]
    split
    · -- The language is right, so it is the name that is missing.
      rename_i hright
      rw [VoiceActor.credit, Option.map_eq_none_iff, Option.filter_eq_none_iff]
      intro name hname hne
      exact h ⟨⟨name, hname, of_decide_eq_true hne⟩, hlanguage.mp hright⟩
    · rfl

namespace Media

/-- **The credits of the appearances that qualify**, in their order. -/
def qualifying (m : Media) (settings : Settings) : List Credit :=
  (m.appearances.filter (·.Qualifies settings)).map Appearance.credit

theorem credits_eq_qualifying (m : Media) (settings : Settings) :
    m.credits settings = m.qualifying settings := by
  rw [credits, qualifying, appearances, List.filter_flatMap, List.map_flatMap]
  refine congrArg (List.flatMap · _) (funext fun edge ↦ ?_)
  rw [List.filterMap_filter, List.filter_map, List.map_map, ← List.filterMap_eq_map,
    List.filterMap_filter]
  refine List.filterMap_congr fun actor _ ↦ ?_
  simpa using credit_of_appearance settings ⟨edge.character, actor⟩

/-- The names under which a cast is listed. -/
def castNames (m : Media) (settings : Settings) : List (String × Option String) :=
  (m.cast settings).map Credit.names

theorem cast_eq (m : Media) (settings : Settings) :
    m.cast settings = firstOfEach Credit.names (m.qualifying settings) := by
  rw [cast, credits_eq_qualifying]
  rfl

/-- **No names are lost**, and none are made up. -/
theorem mem_castNames_iff {m : Media} {settings : Settings} {names : String × Option String} :
    names ∈ m.castNames settings ↔
      ∃ p ∈ m.appearances, p.Qualifies settings ∧ p.credit.names = names := by
  have hqualifying : (∃ c ∈ m.qualifying settings, c.names = names) ↔
      ∃ p ∈ m.appearances, p.Qualifies settings ∧ p.credit.names = names := by
    simp [qualifying, and_assoc]
  rw [← hqualifying, castNames, cast_eq, List.mem_map]
  constructor
  · rintro ⟨c, hc, rfl⟩
    exact ⟨c, mem_of_mem_firstOfEach hc, rfl⟩
  · rintro ⟨c, hc, rfl⟩
    exact exists_mem_firstOfEach hc

/-- **The cast as it is listed.**  It consists of the credits that qualify, read where an actor's
name stands for the first time with that character's name.  No names are listed twice, and all that
qualify are listed.  The names listed without a limit are those listed with a limit, for the
localised titles or for the titles in the work's own script. -/
theorem cast_listed (m : Media) (settings : Settings) :
    m.cast settings = (firstPlaces Credit.names (m.qualifying settings)).map
        (fun i ↦ (m.qualifying settings)[i]) ∧
      (m.castNames settings).Nodup ∧
      (∀ names, names ∈ m.castNames settings ↔
        ∃ p ∈ m.appearances, p.Qualifies settings ∧ p.credit.names = names) ∧
      (m.castNames { settings with filterPeopleByTitlePreference := false }).toFinset =
        (m.castNames { settings with
          filterPeopleByTitlePreference := true, titlePreference := .localized }).toFinset ∪
        (m.castNames { settings with
          filterPeopleByTitlePreference := true, titlePreference := .primaryScript }).toFinset := by
  refine ⟨?_, ?_, fun _ ↦ mem_castNames_iff, ?_⟩
  · rw [cast_eq, firstOfEach_eq_map_firstPlaces]
  · rw [castNames, cast_eq, List.nodup_iff_pairwise_ne, List.pairwise_map]
    exact pairwise_firstOfEach _ _
  · ext names
    rw [Finset.mem_union, List.mem_toFinset, List.mem_toFinset, List.mem_toFinset,
      mem_castNames_iff, mem_castNames_iff, mem_castNames_iff, ← exists_or]
    simp only [Appearance.qualifies_unlimited_iff settings, or_and_right, and_or_left]

end Media

end AnimeLookup.Catalog
