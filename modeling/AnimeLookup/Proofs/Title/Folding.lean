import AnimeLookup.Proofs.Text.Replacement
import AnimeLookup.Proofs.Text.SmallLetters
import AnimeLookup.Proofs.Text.Trimming
import AnimeLookup.Title.Equivalence

/-!
# Folded titles

What can stand in a folded title, and what the forms that rules compare do to one.

A folded title has no space, so every rewriting of a pattern with a space in it leaves it as it is
(`replace_of_space`).  Six rules look for such patterns, and this is what becomes of them:
three compare the folded titles themselves, two are repetitions, and one compares a title with a
longer one.

Trimmed texts with a space between them are folded each by itself (`fold_append_space`).  What
stands in front of a text or behind it does not matter for its aside, unless it has parentheses of
its own (`withoutAsideOf_prepend`, `withoutAsideOf_append`).
-/

set_option autoImplicit false

namespace AnimeLookup.Title

open Text

theorem mem_fold {c : Char} {s : List Char} (h : c ∈ fold s) :
    c ∈ lowercase s ∧ c ≠ ' ' ∧ c ≠ '.' := by
  rw [fold, List.mem_filter, decide_eq_true_iff] at h
  have hmem := List.mem_filter.mp (mem_of_mem_trim h.1)
  exact ⟨hmem.1, of_decide_eq_true hmem.2, h.2⟩

theorem space_not_mem_fold (s : List Char) : ' ' ∉ fold s := fun h ↦ (mem_fold h).2.1 rfl

theorem not_mem_fold_of_isUpper {c : Char} (h : c.isUpper = true) (s : List Char) :
    c ∉ fold s := fun hc ↦ not_mem_lowercase_of_isUpper h s (mem_fold hc).1

theorem ne_space_of_not_isBlank {c : Char} (h : isBlank c = false) : decide (c ≠ ' ') = true :=
  decide_eq_true fun hc ↦ Bool.false_ne_true (h.symm.trans (hc ▸ isBlank_space))

/-- **Trimmed texts with a space between them are folded each by itself.** -/
theorem fold_append_space {s t : List Char} (hs : Trimmed s) (ht : Trimmed t) :
    fold (s ++ ' ' :: t) = fold s ++ fold t := by
  have hspaceless : ∀ {u : List Char}, Trimmed u → Trimmed ((lowercase u).filter (· ≠ ' ')) :=
    fun hu ↦ hu.lowercase.filter fun _ ↦ ne_space_of_not_isBlank
  rw [fold, fold, fold, lowercase_append_space, List.filter_append,
    List.filter_cons_of_neg (by decide), trim_eq_self_iff.mpr ((hspaceless hs).append (hspaceless ht)),
    trim_eq_self_iff.mpr (hspaceless hs), trim_eq_self_iff.mpr (hspaceless ht), List.filter_append]

/-! ## Patterns with a space -/

section Spaceless

variable {s : List Char} (h : ' ' ∉ s)

include h

/-- A text without spaces has no pattern with one. -/
theorem replace_of_space {pattern : List Char} (hp : ' ' ∈ pattern) (new : List Char) :
    replace pattern new s = s :=
  replace_eq_self_of_not_mem new hp h

theorem spacedTwoAsSecondSeason_of_spaceless : spacedTwoAsSecondSeason s = s :=
  replace_of_space h (by decide) _

/-- Taking an aside out brings no space in. -/
theorem space_not_mem_withoutAside {t : List Char} (ht : withoutAsideOf s s = some t) :
    ' ' ∉ t := by
  obtain ⟨span, -, rfl⟩ := Option.map_eq_some_iff.mp ht
  exact fun hmem ↦ h (mem_of_mem_remove hmem)

theorem map_replace_withoutAside {pattern : List Char} (hp : ' ' ∈ pattern) (new : List Char) :
    (withoutAsideOf s s).map (replace pattern new) = withoutAsideOf s s := by
  cases ht : withoutAsideOf s s with
  | none => rfl
  | some t => exact congrArg some (replace_of_space (space_not_mem_withoutAside h ht) hp new)

theorem doubleSpacedTwo_of_spaceless : doubleSpacedTwo s = withoutAsideOf s s :=
  map_replace_withoutAside h (by decide) _

end Spaceless

/-! ## Asides -/

theorem firstAside_eq_none {s : List Char} (h : '(' ∉ s) : firstAside s = none := by
  induction s with
  | nil => rfl
  | cons c rest ih =>
    rw [List.mem_cons, not_or] at h
    rw [firstAside, if_neg (Ne.symm h.1), ih h.2]

/-- An aside begins where it is opened. -/
theorem exists_of_firstAside {s span : List Char} (h : firstAside s = some span) :
    ∃ rest, span = '(' :: rest := by
  induction s with
  | nil => exact absurd h (by simp [firstAside])
  | cons c rest ih =>
    rw [firstAside] at h
    split at h
    · rename_i hc
      obtain ⟨more, hmore⟩ := exists_of_through h
      exact ⟨more, hmore.trans (hc ▸ rfl)⟩
    · exact ih h

theorem getLast?_firstAside {s span : List Char} (h : firstAside s = some span) :
    span.getLast? = some ')' := by
  induction s with
  | nil => exact absurd h (by simp [firstAside])
  | cons c rest ih =>
    rw [firstAside] at h
    split at h
    · exact getLast?_through h
    · exact ih h

section Around

variable {t : List Char}

theorem firstAside_append (hopen : '(' ∉ t) (hclose : ')' ∉ t) (s : List Char) :
    firstAside (s ++ t) = firstAside s := by
  induction s with
  | nil => exact firstAside_eq_none hopen
  | cons c rest ih =>
    rw [List.cons_append, firstAside, firstAside, ih, ← List.cons_append,
      through_append_of_not_mem hclose]

/-- An aside is looked for in a text, and taken out of another one, as if nothing followed. -/
theorem withoutAsideOf_append (hopen : '(' ∉ t) (hclose : ')' ∉ t) {v : List Char} (hv : ')' ∉ v)
    (s u : List Char) : withoutAsideOf (s ++ t) (u ++ v) = (withoutAsideOf s u).map (· ++ v) := by
  rw [withoutAsideOf, withoutAsideOf, firstAside_append hopen hclose]
  cases haside : firstAside s with
  | none => rfl
  | some span =>
    have hlast := getLast?_firstAside haside
    rw [Option.map_some, Option.map_some, Option.map_some,
      remove_append u (noneAcross_of_getLast? hlast hv),
      remove_eq_self_of_not_mem (List.mem_of_getLast? hlast) hv]

theorem firstAside_prepend (h : '(' ∉ t) (s : List Char) : firstAside (t ++ s) = firstAside s := by
  induction t with
  | nil => rfl
  | cons c rest ih =>
    rw [List.mem_cons, not_or] at h
    rw [List.cons_append, firstAside, if_neg (Ne.symm h.1), ih h.2]

/-- An aside is looked for in a text, and taken out of another one, as if nothing came before. -/
theorem withoutAsideOf_prepend (h : '(' ∉ t) (s u : List Char) :
    withoutAsideOf (t ++ s) (t ++ u) = (withoutAsideOf s u).map (t ++ ·) := by
  rw [withoutAsideOf, withoutAsideOf, firstAside_prepend h]
  cases haside : firstAside s with
  | none => rfl
  | some span =>
    obtain ⟨rest, rfl⟩ := exists_of_firstAside haside
    rw [Option.map_some, Option.map_some, Option.map_some]
    exact congrArg some (replace_append_of_not_mem [] u h)

end Around

end AnimeLookup.Title
