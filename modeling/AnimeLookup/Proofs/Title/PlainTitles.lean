import AnimeLookup.Proofs.Title.Acceptance
import AnimeLookup.Proofs.Title.RunNumerals
import AnimeLookup.Proofs.Title.SeasonDigits

/-!
# Plain titles

Most rules of the chain are about numbers, asides and spelled-out seasons.  On titles that have
none of these they add nothing to the two cleanings, so they cannot take different works for the
same one.

A folded title is *plain* (`Plain`) if it has no digit and no parenthesis that opens, and if no
numeral stands before the word for a season (`ndseason`, `rdseason`).  What the forms that the
rules compare do to a plain title is one of two things:

* the form is not there: no aside, no season digit, no season in shorthand;
* the form tells the titles apart as they are, because it leaves them alone or because it can be
  undone, as in the case of the two that count runs of a symbol.

`accepts_of_plain` goes through what rules find with these facts, and `equivalent_iff_of_plain` is
what it comes to for the comparison in both orders.
-/

set_option autoImplicit false

namespace AnimeLookup.Title

open Text

/-- **A folded title without the marks that the special rules look for.** -/
structure Plain (s : List Char) : Prop where
  /-- There is no ASCII digit. -/
  digitless : ∀ c ∈ s, c.isDigit = false
  /-- No aside is opened. -/
  parenless : '(' ∉ s
  /-- There is no rest of a `2nd Season`. -/
  ndless : ¬ "ndseason".toList <:+: s
  /-- There is no rest of a `3rd Season`. -/
  rdless : ¬ "rdseason".toList <:+: s

instance (s : List Char) : Decidable (Plain s) :=
  decidable_of_iff ((s.all (!·.isDigit) && !s.contains '(' && !occurs "ndseason".toList s &&
      !occurs "rdseason".toList s) = true) <| by
    simp only [Bool.and_eq_true, List.all_eq_true, Bool.not_eq_true', and_assoc,
      ← Bool.not_eq_true (List.contains _ _), ← Bool.not_eq_true (occurs _ _), occurs_iff,
      List.contains_iff_mem]
    exact ⟨fun ⟨hdigit, hparen, hnd, hrd⟩ ↦ ⟨hdigit, hparen, hnd, hrd⟩,
      fun ⟨hdigit, hparen, hnd, hrd⟩ ↦ ⟨hdigit, hparen, hnd, hrd⟩⟩

/-- The two folded titles agree after one of the cleanings. -/
def CleanAlike (a b : List Char) : Prop :=
  lightClean (fold a) = lightClean (fold b) ∨ heavyClean (fold a) = heavyClean (fold b)

theorem CleanAlike.of_fold_eq {a b : List Char} (h : fold a = fold b) : CleanAlike a b :=
  .inl (congrArg lightClean h)

theorem CleanAlike.symm {a b : List Char} (h : CleanAlike a b) : CleanAlike b a :=
  Or.imp Eq.symm Eq.symm h

/-! ## Forms that are not there -/

/-- A season in shorthand ends in a digit. -/
theorem seasonShorthand_eq_none {s : List Char} (h : ∀ c ∈ s.getLast?, c.isDigit = false) :
    seasonShorthand s = none := by
  rw [← List.head?_reverse] at h
  rw [seasonShorthand]
  generalize s.reverse = r at h
  split
  · rename_i stem digits hparts
    have hdigits : digits.all Char.isDigit = false := by
      split at hparts
      · obtain ⟨-, rfl⟩ := Prod.mk.inj (Option.some.inj hparts)
        simp [h _ rfl]
      · obtain ⟨-, rfl⟩ := Prod.mk.inj (Option.some.inj hparts)
        simp [h _ rfl]
      · exact absurd hparts (by simp)
    rw [hdigits, Bool.false_and, Bool.false_and, if_neg Bool.false_ne_true]
  · rfl

/-! ## What the rules make of plain titles -/

section Forms

variable {a b : List Char} (ha : Plain (fold a)) (hb : Plain (fold b))

include ha in
theorem not_mem_of_plain {c : Char} (hc : c.isDigit = true) : c ∉ fold a :=
  fun hmem ↦ Bool.false_ne_true ((ha.digitless c hmem).symm.trans hc)

include ha in
theorem withoutAsideOf_of_plain (t : List Char) : withoutAsideOf (fold a) t = none := by
  rw [withoutAsideOf, firstAside_eq_none ha.parenless, Option.map_none]

include ha in
theorem seasonDigit_of_plain : seasonDigit (fold a) = none := by
  refine List.findSome?_eq_none_iff.mpr fun line hline ↦ ?_
  have hsub := (sublist_of_mem_splitOn hline).subset
  have hdigit : ∀ d : Char, d.isDigit = true → ¬ ['s', d] <:+: line := fun d hd hin ↦
    not_mem_of_plain ha hd (hsub (hin.subset (List.mem_cons_of_mem 's' List.mem_cons_self)))
  rw [lastSeasonDigit_eq_none_iff fun h ↦ space_not_mem_fold a (hsub h), Marked, not_or]
  exact ⟨hdigit '0' (by decide), hdigit '9' (by decide)⟩

include ha in
theorem twoAsSecondSeason_of_plain : twoAsSecondSeason (fold a) = fold a :=
  replace_eq_self_of_not_mem _ List.mem_cons_self (not_mem_of_plain ha (by decide))

include ha hb in
/-- A folded title has the numeral one in small letters only, so its runs can be read back. -/
theorem fold_eq_of_romanRun (h : symbolRun 'I' (fold a) = symbolRun 'I' (fold b)) :
    fold a = fold b := by
  have hsmall : ∀ s, ∀ d ∈ fold s, sameUpToCase 'I' d = true → d = 'i' := fun s d hd hsame ↦
    ((sameUpToCase_I_iff d).mp hsame).resolve_left fun hI ↦
      not_mem_fold_of_isUpper (by decide) s (hI ▸ hd)
  exact symbolRun_inj (by decide) ha.digitless hb.digitless (hsmall a) (hsmall b) h

include ha hb in
theorem fold_eq_of_emphasisRun (h : symbolRun '!' (fold a) = symbolRun '!' (fold b)) :
    fold a = fold b :=
  symbolRun_inj (by decide) ha.digitless hb.digitless
    (fun d _ ↦ (sameUpToCase_bang_iff d).mp) (fun d _ ↦ (sameUpToCase_bang_iff d).mp) h

end Forms

/-! ## The chain on plain titles -/

section Chain

variable {a b : List Char} (ha : Plain (fold a)) (hb : Plain (fold b))

include ha in
theorem remove_ordinalRest_of_plain {pattern : List Char} (h : pattern ∈ ordinalRests) :
    remove pattern (fold a) = fold a := by
  simp only [ordinalRests, List.mem_cons, List.not_mem_nil, or_false] at h
  rcases h with rfl | rfl
  · exact replace_eq_self [] ha.ndless
  · exact replace_eq_self [] ha.rdless

include ha hb in
/-- Apart from the cleanings, the forms that are compared tell plain titles apart. -/
theorem cleanAlike_of_comparedForm {form : List Char → List Char} (hform : form ∈ comparedForms)
    (h : form (fold a) = form (fold b)) : CleanAlike a b := by
  have hrest : ∀ {pattern : List Char}, pattern ∈ ordinalRests →
      remove pattern (fold a) = remove pattern (fold b) → CleanAlike a b := by
    intro pattern hpattern heq
    rw [remove_ordinalRest_of_plain ha hpattern, remove_ordinalRest_of_plain hb hpattern] at heq
    exact .of_fold_eq heq
  simp only [comparedForms, List.mem_cons, List.not_mem_nil, or_false] at hform
  rcases hform with rfl | rfl | rfl | rfl | rfl | rfl | rfl
  · exact .inl h
  · exact .inr h
  · rw [twoAsSecondSeason_of_plain ha, twoAsSecondSeason_of_plain hb] at h
    exact .of_fold_eq h
  · exact .of_fold_eq (fold_eq_of_romanRun ha hb h)
  · exact .of_fold_eq (fold_eq_of_emphasisRun ha hb h)
  · exact hrest (by simp [ordinalRests]) h
  · exact hrest (by simp [ordinalRests]) h

include ha hb in
/-- **No rule is wrong about plain titles**: what it accepts agrees after one of the cleanings. -/
theorem accepts_of_plain : ∀ r ∈ rules, r.accepts (Pair.of a b) = true → CleanAlike a b := by
  intro r hr haccepts
  have hdigit := seasonDigit_of_plain ha
  -- Either the folded titles are the same, or what would have been found is not there.
  cases agree_of_accepts r hr haccepts with
  | same h => exact .of_fold_eq h
  | inForm hform h => exact cleanAlike_of_comparedForm ha hb hform h
  | withoutRest hpattern h =>
    exact .of_fold_eq ((remove_ordinalRest_of_plain ha hpattern).symm.trans h)
  | seasonDigits _ hu _ => exact absurd (hu.symm.trans hdigit) (by simp)
  | seasonDigitOfFirst h => exact absurd (h.symm.trans hdigit) (by simp)
  | asides _ hu _ => exact absurd (hu.symm.trans (withoutAsideOf_of_plain ha _)) (by simp)
  | asideOfFirst _ h => exact absurd (h.symm.trans (withoutAsideOf_of_plain ha _)) (by simp)
  | asideOfSecond h => exact absurd (h.symm.trans (withoutAsideOf_of_plain hb _)) (by simp)
  | spelledOut hu _ =>
    have hnone : seasonShorthand (fold a) = none :=
      seasonShorthand_eq_none fun c hc ↦ ha.digitless c (List.mem_of_getLast? hc)
    exact absurd (hu.symm.trans hnone) (by simp)

end Chain

/-! ## The comparison of plain titles -/

theorem firstRule_isSome_iff (chain : List Rule) (a b : List Char) :
    (firstRule chain a b).isSome = true ↔ ∃ r ∈ chain, r.accepts (Pair.of a b) = true := by
  rw [firstRule, Option.isSome_map, List.find?_isSome]

/-- Titles are equivalent if a rule accepts them in one of the two orders. -/
theorem equivalent_iff_exists {a b : List Char} (ha : a ≠ []) (hb : b ≠ []) :
    equivalent a b = true ↔ ∃ r ∈ rules,
      r.accepts (Pair.of a b) = true ∨ r.accepts (Pair.of b a) = true := by
  have hempty : (a.isEmpty || b.isEmpty) = false := by simp [ha, hb]
  rw [equivalent, matchingRule, matchingRuleOf, hempty, if_neg Bool.false_ne_true,
    Option.isSome_or, Bool.or_eq_true, firstRule_isSome_iff, firstRule_isSome_iff]
  simp only [and_or_left, exists_or]

/-- A rule that accepts titles in one order makes them equivalent in both. -/
theorem equivalent_of_accepts {a b : List Char} (ha : a ≠ []) (hb : b ≠ []) {r : Rule}
    (hr : r ∈ rules) (h : r.accepts (Pair.of a b) = true) :
    equivalent a b = true ∧ equivalent b a = true :=
  ⟨(equivalent_iff_exists ha hb).mpr ⟨r, hr, .inl h⟩,
    (equivalent_iff_exists hb ha).mpr ⟨r, hr, .inr h⟩⟩

/-- **Plain titles are compared by the cleanings alone.**  They are equivalent exactly if they
agree after the light or the heavy cleaning, and no rule accepts them otherwise, in either order. -/
theorem equivalent_iff_of_plain {a b : List Char} (ha : a ≠ []) (hb : b ≠ [])
    (hpa : Plain (fold a)) (hpb : Plain (fold b)) :
    (equivalent a b = true ↔
        lightClean (fold a) = lightClean (fold b) ∨ heavyClean (fold a) = heavyClean (fold b)) ∧
      ∀ r ∈ rules, r.accepts (Pair.of a b) = true ∨ r.accepts (Pair.of b a) = true →
        lightClean (fold a) = lightClean (fold b) ∨ heavyClean (fold a) = heavyClean (fold b) := by
  have hrule : ∀ r ∈ rules, r.accepts (Pair.of a b) = true ∨ r.accepts (Pair.of b a) = true →
      CleanAlike a b := by
    rintro r hr (h | h)
    · exact accepts_of_plain hpa hpb r hr h
    · exact (accepts_of_plain hpb hpa r hr h).symm
  refine ⟨(equivalent_iff_exists ha hb).trans ⟨?_, ?_⟩, hrule⟩
  · rintro ⟨r, hr, h⟩
    exact hrule r hr h
  · rintro (hlight | hheavy)
    · exact ⟨⟨"light_clean", sameForm lightClean⟩, by simp [rules], .inl (beq_iff_eq.mpr hlight)⟩
    · exact ⟨⟨"heavy_clean", sameForm heavyClean⟩, by simp [rules], .inl (beq_iff_eq.mpr hheavy)⟩

/-- Two sequels with Roman numerals are told apart, and a colon makes no difference. -/
theorem equivalent_plain_sequels :
    Plain (fold "Overlord II".toList) ∧ Plain (fold "Overlord III".toList) ∧
      Plain (fold "Overlord: II".toList) ∧
      ¬ equivalent "Overlord II".toList "Overlord III".toList = true ∧
      equivalent "Overlord: II".toList "Overlord II".toList = true := by
  have hsecond : Plain (fold "Overlord II".toList) := by decide +kernel
  have hthird : Plain (fold "Overlord III".toList) := by decide +kernel
  have hcolon : Plain (fold "Overlord: II".toList) := by decide +kernel
  refine ⟨hsecond, hthird, hcolon, fun h ↦ ?_, ?_⟩
  · have halike := (equivalent_iff_of_plain (by decide) (by decide) hsecond hthird).1.mp h
    exact absurd halike (by decide +kernel)
  · exact (equivalent_iff_of_plain (by decide) (by decide) hcolon hsecond).1.mpr
      (.inr (by decide +kernel))

end AnimeLookup.Title
