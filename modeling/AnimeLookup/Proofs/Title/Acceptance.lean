import AnimeLookup.Proofs.Title.RuleChain

/-!
# What a rule has found

A rule that accepts two titles has found something about the folded titles, and there are fewer
kinds of findings than there are rules.  `Agree` lists them.  The rules that look for a space find
none, so they are among the others; most of the rest take a form of both titles and compare the two
(`comparedForms`); and those for asides differ in the form they take them out of (`asideForms`).

`agree_of_accepts` goes through the chain once and for all.  To show that titles of some kind are
told apart it is then enough to exclude the findings one by one.
-/

set_option autoImplicit false

namespace AnimeLookup.Title

open Text

theorem bothEqual_iff (x y : Option (List Char)) :
    bothEqual x y = true ↔ ∃ u, x = some u ∧ y = some u := by
  cases x with
  | none => exact iff_of_false (by simp [bothEqual]) (by simp)
  | some u =>
    cases y with
    | none => exact iff_of_false (by simp [bothEqual]) (by simp)
    | some v =>
      rw [bothEqual, beq_iff_eq]
      refine ⟨fun h ↦ ⟨u, rfl, congrArg some h.symm⟩, ?_⟩
      rintro ⟨t, hu, hv⟩
      exact (Option.some.inj hu).trans (Option.some.inj hv).symm

theorem bothEqual_some_iff (x : Option (List Char)) (v : List Char) :
    bothEqual x (some v) = true ↔ x = some v := by
  rw [bothEqual_iff]
  exact ⟨fun ⟨u, hx, hv⟩ ↦ hx.trans hv.symm, fun h ↦ ⟨v, h, rfl⟩⟩

/-! ## Findings -/

/-- The patterns that are taken out of a title with an ordinal season. -/
def ordinalRests : List (List Char) := ["ndseason".toList, "rdseason".toList]

/-- **The forms that are taken of both titles and compared.** -/
def comparedForms : List (List Char → List Char) :=
  [lightClean, heavyClean, twoAsSecondSeason, symbolRun 'I', symbolRun '!',
    remove "ndseason".toList, remove "rdseason".toList]

/-- **The forms that asides are taken out of.** -/
def asideForms : List (List Char → List Char) := [twoAsSecondSeason, id]

theorem id_mem_asideForms : id ∈ asideForms := by simp [asideForms]

/-- **What a rule of the given name finds when it accepts** two titles, of which `u` and `v` are the
folded forms. -/
inductive Agree (u v : List Char) (name : String) : Prop
  /-- The titles are the same. -/
  | same (h : u = v)
  /-- A form of the titles is the same. -/
  | inForm {form : List Char → List Char} (hform : form ∈ comparedForms) (h : form u = form v)
  /-- The first title is the second one with the rest of an ordinal season. -/
  | withoutRest {pattern : List Char} (hpattern : pattern ∈ ordinalRests)
    (h : remove pattern u = v)
  /-- The titles are the same up to their season digits. -/
  | seasonDigits (hname : name = "season_digit_pair") {t : List Char}
    (hu : seasonDigit u = some t) (hv : seasonDigit v = some t)
  /-- The first title is the second one up to its season digit. -/
  | seasonDigitOfFirst (h : seasonDigit u = some v)
  /-- The titles are the same up to their asides. -/
  | asides {form : List Char → List Char} (hform : form ∈ asideForms) {t : List Char}
    (hu : withoutAsideOf u (form u) = some t) (hv : withoutAsideOf v (form v) = some t)
  /-- The first title is the second one up to its aside. -/
  | asideOfFirst {form : List Char → List Char} (hform : form ∈ asideForms)
    (h : withoutAsideOf u (form u) = some v)
  /-- The second title is the first one up to its aside. -/
  | asideOfSecond (h : withoutAsideOf v v = some u)
  /-- The second title spells out the season that the first one has in shorthand. -/
  | spelledOut {stem : List Char} {k : Nat} (hu : seasonShorthand u = some (stem, k))
    (hv : v ∈ seasonSpellings stem k)

/-! ## The chain -/

section Chain

variable {a b : List Char} {name : String}

theorem Agree.of_sameForm {form : List Char → List Char} (hform : form ∈ comparedForms)
    (h : sameForm form (Pair.of a b) = true) : Agree (fold a) (fold b) name :=
  .inForm hform (eq_of_beq h)

theorem Agree.of_sameWithoutAside (form : List Char → List Char) (hform : form ∈ asideForms)
    (h : sameOptionalForm (fun s ↦ withoutAsideOf s (form s)) (Pair.of a b) = true) :
    Agree (fold a) (fold b) name := by
  obtain ⟨t, hu, hv⟩ := (bothEqual_iff _ _).mp h
  exact .asides hform hu hv

theorem Agree.of_withoutAsideIsOther (form : List Char → List Char) (hform : form ∈ asideForms)
    (h : formIsOther (fun s ↦ withoutAsideOf s (form s)) (Pair.of a b) = true) :
    Agree (fold a) (fold b) name :=
  .asideOfFirst hform ((bothEqual_some_iff _ _).mp h)

/-- **Whatever a rule accepts, it has found one of a few things.** -/
theorem agree_of_accepts :
    ∀ r ∈ rules, r.accepts (Pair.of a b) = true → Agree (fold a) (fold b) r.name := by
  simp only [rules, List.forall_mem_cons]
  -- One entry for each rule, in their order.
  refine ⟨fun h ↦ .same (congrArg fold (eq_of_beq h)),
    fun h ↦ .of_sameForm (by simp [comparedForms]) h,
    fun h ↦ .of_sameForm (by simp [comparedForms]) h,
    fun h ↦ .same (fold_eq_of_dashToSpace h),
    fun h ↦ .same (fold_eq_of_spacedTwo h),
    fun h ↦ .of_sameForm (by simp [comparedForms]) h,
    fun h ↦ .of_sameForm (by simp [comparedForms]) h,
    fun h ↦ .of_sameForm (by simp [comparedForms]) h,
    fun h ↦ .of_sameForm (by simp [comparedForms]) h,
    fun h ↦ .withoutRest List.mem_cons_self (eq_of_beq h),
    fun h ↦ ?seasonDigits,
    fun h ↦ .seasonDigitOfFirst ((bothEqual_some_iff _ _).mp h),
    fun h ↦ .of_sameForm (by simp [comparedForms]) h,
    fun h ↦ .withoutRest (List.mem_cons_of_mem _ List.mem_cons_self) (eq_of_beq h),
    fun h ↦ .of_sameWithoutAside twoAsSecondSeason (by simp [asideForms]) h,
    fun h ↦ .of_withoutAsideIsOther twoAsSecondSeason (by simp [asideForms]) h,
    fun h ↦ ?spacedTwo,
    fun h ↦ ?spacedTwoOneSided,
    fun h ↦ .of_sameWithoutAside id id_mem_asideForms h,
    fun h ↦ .of_withoutAsideIsOther id id_mem_asideForms h,
    fun h ↦ ?otherSpelledOut,
    fun h ↦ absurd h (ne_true_of_eq_false (setAgainst_eq_false _ _)),
    fun h ↦ ?doubleSpaced,
    fun h ↦ ?shorthand,
    fun _ hr ↦ absurd hr List.not_mem_nil⟩
  case seasonDigits =>
    obtain ⟨t, hu, hv⟩ := (bothEqual_iff _ _).mp h
    exact .seasonDigits rfl hu hv
  case spacedTwo =>
    rw [sameOptionalForm, Pair.of, withoutAside_spacedTwo, withoutAside_spacedTwo] at h
    exact .of_sameWithoutAside id id_mem_asideForms h
  case spacedTwoOneSided =>
    rw [formIsOther, Pair.of, withoutAside_spacedTwo] at h
    exact .of_withoutAsideIsOther id id_mem_asideForms h
  case otherSpelledOut =>
    rw [otherSpelledOut, Pair.of, map_replace_withoutAside (space_not_mem_fold _) (by decide)] at h
    exact .asideOfSecond ((bothEqual_some_iff _ _).mp h)
  case doubleSpaced =>
    rw [formIsOther, Pair.of, doubleSpacedTwo_of_spaceless (space_not_mem_fold _)] at h
    exact .of_withoutAsideIsOther id id_mem_asideForms h
  case shorthand =>
    rw [shorthandSpelledOut] at h
    split at h
    · rename_i stem k hu
      rw [Bool.and_eq_true, List.contains_iff_mem] at h
      exact .spelledOut hu h.2
    · exact absurd h Bool.false_ne_true

/-- The rule about season digits accepts whatever agrees in them. -/
theorem accepts_of_seasonDigits {t : List Char} (ha : seasonDigit (fold a) = some t)
    (hb : seasonDigit (fold b) = some t) : ∃ r ∈ rules, r.accepts (Pair.of a b) = true :=
  ⟨⟨"season_digit_pair", sameOptionalForm seasonDigit⟩, by simp [rules],
    (bothEqual_iff _ _).mpr ⟨t, ha, hb⟩⟩

end Chain

end AnimeLookup.Title
