import AnimeLookup.Proofs.Title.Folding

/-!
# The rules that decide

The chain has 24 rules, and six of them never decide anything.  They look for a space in a folded
title, where there is none, and what is left of them is a comparison that an earlier rule makes as
well, or one that nothing passes.

Leaving a rule out of a chain changes no answer as long as the titles it accepts are accepted
earlier, in the same order of the two titles.  `Covered` is this condition for several rules at
once, and `find?_filter_of_covered` the conclusion.  `covered_rules` is then a matter of six
implications, one for each of the rules that are left out.

`matchingRule_reachable` puts this together with the converse: the other eighteen are all needed,
and `specimens` has a pair of titles for each.
-/

set_option autoImplicit false

namespace AnimeLookup.Title

open Text

/-! ## Leaving rules out of a chain -/

section Chains

variable {α : Type}

/-- Every rule of a chain that is not kept accepts only what a rule before it accepts, where
`before` are the rules that come before the chain. -/
inductive Covered (accepts kept : α → Bool) : List α → List α → Prop
  | nil {before : List α} : Covered accepts kept before []
  | keep {before rest : List α} {r : α} (hkept : kept r = true)
      (h : Covered accepts kept (r :: before) rest) : Covered accepts kept before (r :: rest)
  | leave {before rest : List α} {r : α} (hr : accepts r = true → ∃ r' ∈ before, accepts r' = true)
      (h : Covered accepts kept (r :: before) rest) : Covered accepts kept before (r :: rest)

/-- **Rules that are covered can be left out.** -/
theorem find?_filter_of_covered {accepts kept : α → Bool} {before l : List α}
    (h : Covered accepts kept before l) (hbefore : ∀ r ∈ before, accepts r = false) :
    (l.filter kept).find? accepts = l.find? accepts := by
  induction h with
  | nil => rfl
  | @keep before rest r hkept _ ih =>
    rw [List.filter_cons_of_pos hkept]
    cases hr : accepts r with
    | true => rw [List.find?_cons_of_pos hr, List.find?_cons_of_pos hr]
    | false =>
      have hneg : ¬ accepts r = true := ne_true_of_eq_false hr
      rw [List.find?_cons_of_neg hneg, List.find?_cons_of_neg hneg]
      exact ih (List.forall_mem_cons.mpr ⟨hr, hbefore⟩)
  | @leave before rest r himp _ ih =>
    -- A rule before this one would have to accept, and none does.
    have hr : accepts r = false := by
      refine eq_false_of_ne_true fun htrue ↦ ?_
      obtain ⟨r', hmem, hr'⟩ := himp htrue
      exact ne_true_of_eq_false (hbefore r' hmem) hr'
    have hneg : ¬ accepts r = true := ne_true_of_eq_false hr
    rw [List.find?_cons_of_neg hneg, ← ih (List.forall_mem_cons.mpr ⟨hr, hbefore⟩),
      List.filter_cons]
    split
    · exact List.find?_cons_of_neg hneg
    · rfl

end Chains

/-! ## What the six rules come to -/

section Folded

variable {a b : List Char}

theorem sameForm_of_fold_eq (form : List Char → List Char) (h : fold a = fold b) :
    sameForm form (Pair.of a b) = true := by
  simp [sameForm, Pair.of, h]

theorem fold_eq_of_dashToSpace (h : sameForm (replace ['-'] [' ']) (Pair.of a b) = true) :
    fold a = fold b :=
  replace_char_inj (space_not_mem_fold a) (space_not_mem_fold b) (eq_of_beq h)

/-- A form that leaves both folded titles alone tells them apart. -/
theorem fold_eq_of_unchanged {form : List Char → List Char} (ha : form (fold a) = fold a)
    (hb : form (fold b) = fold b) (h : sameForm form (Pair.of a b) = true) : fold a = fold b := by
  have heq : form (fold a) = form (fold b) := eq_of_beq h
  rwa [ha, hb] at heq

theorem fold_eq_of_spacedTwo (h : sameForm spacedTwoAsSecondSeason (Pair.of a b) = true) :
    fold a = fold b :=
  fold_eq_of_unchanged (spacedTwoAsSecondSeason_of_spaceless (space_not_mem_fold a))
    (spacedTwoAsSecondSeason_of_spaceless (space_not_mem_fold b)) h

/-- The form without the aside is the one in which a spaced `2` is spelled out as well. -/
theorem withoutAside_spacedTwo (s : List Char) :
    withoutAsideOf (fold s) (spacedTwoAsSecondSeason (fold s)) =
      withoutAsideOf (fold s) (fold s) := by
  rw [spacedTwoAsSecondSeason_of_spaceless (space_not_mem_fold s)]

theorem setAgainst_eq_false (a b : List Char) : setAgainst (Pair.of a b) = false := by
  rw [setAgainst, beq_eq_false_iff_ne]
  intro h
  have hsame : replace " 2ndseason".toList ":secondseason".toList (fold a) = fold a :=
    replace_of_space (space_not_mem_fold a) (by decide) _
  have hlength := congrArg List.length h
  simp only [Pair.of, hsame, List.length_append] at hlength
  have hvs : " vs ".toList.length = 4 := by decide
  omega

end Folded

/-! ## The rules that can be left out -/

/-- The names of the rules that never decide. -/
def idleNames : List String :=
  ["dash_to_space", "spaced_two_as_second_season", "paren_pair", "paren_one_sided",
    "second_season_versus", "paren_double_spaced_two"]

/-- Whether a rule is one of those that decide. -/
def isDeciding (r : Rule) : Bool := !idleNames.contains r.name

/-- **The chain without the rules that never decide.** -/
def decidingRules : List Rule := rules.filter isDeciding

theorem covered_rules (a b : List Char) :
    Covered (·.accepts (Pair.of a b)) isDeciding [] rules := by
  let bare := fun s ↦ withoutAsideOf s (spacedTwoAsSecondSeason s)
  have hpair : sameOptionalForm (fun s ↦ withoutAsideOf s s) (Pair.of a b) =
      sameOptionalForm bare (Pair.of a b) := by
    simp only [sameOptionalForm, Pair.of, bare, withoutAside_spacedTwo]
  have honeSided : formIsOther (fun s ↦ withoutAsideOf s s) (Pair.of a b) =
      formIsOther bare (Pair.of a b) := by
    simp only [formIsOther, Pair.of, bare, withoutAside_spacedTwo]
  have hdouble : formIsOther doubleSpacedTwo (Pair.of a b) = formIsOther bare (Pair.of a b) := by
    simp only [formIsOther, Pair.of, bare, withoutAside_spacedTwo,
      doubleSpacedTwo_of_spaceless (space_not_mem_fold a)]
  exact .keep rfl <| .keep rfl <| .keep rfl <|
    .leave (fun h ↦ ⟨⟨"light_clean", sameForm lightClean⟩, by simp,
      sameForm_of_fold_eq _ (fold_eq_of_dashToSpace h)⟩) <|
    .leave (fun h ↦ ⟨⟨"light_clean", sameForm lightClean⟩, by simp,
      sameForm_of_fold_eq _ (fold_eq_of_spacedTwo h)⟩) <|
    .keep rfl <| .keep rfl <| .keep rfl <| .keep rfl <| .keep rfl <| .keep rfl <| .keep rfl <|
    .keep rfl <| .keep rfl <| .keep rfl <| .keep rfl <| .keep rfl <| .keep rfl <|
    .leave (fun h ↦ ⟨⟨"paren_spaced_two_pair", sameOptionalForm bare⟩, by simp [bare],
      hpair.symm.trans h⟩) <|
    .leave (fun h ↦ ⟨⟨"paren_spaced_two_one_sided", formIsOther bare⟩, by simp [bare],
      honeSided.symm.trans h⟩) <|
    .keep rfl <|
    .leave (fun h ↦ absurd h (ne_true_of_eq_false (setAgainst_eq_false a b))) <|
    .leave (fun h ↦ ⟨⟨"paren_spaced_two_one_sided", formIsOther bare⟩, by simp [bare],
      hdouble.symm.trans h⟩) <|
    .keep rfl .nil

theorem firstRule_decidingRules (a b : List Char) :
    firstRule decidingRules a b = firstRule rules a b := by
  rw [firstRule, firstRule, decidingRules,
    find?_filter_of_covered (covered_rules a b) fun _ h ↦ absurd h List.not_mem_nil]

theorem matchingRule_eq_decidingRules (a b : List Char) :
    matchingRule a b = matchingRuleOf decidingRules a b := by
  rw [matchingRule, matchingRuleOf, matchingRuleOf, firstRule_decidingRules,
    firstRule_decidingRules]

theorem exists_of_firstRule {chain : List Rule} {a b : List Char} {name : String}
    (h : firstRule chain a b = some name) : ∃ r ∈ chain, r.name = name := by
  obtain ⟨r, hr, hname⟩ := Option.map_eq_some_iff.mp h
  exact ⟨r, List.mem_of_find?_eq_some hr, hname⟩

/-- The rule that is reported is one of the chain. -/
theorem exists_of_matchingRuleOf {chain : List Rule} {a b : List Char} {name : String}
    (h : matchingRuleOf chain a b = some name) : ∃ r ∈ chain, r.name = name := by
  rw [matchingRuleOf] at h
  split at h
  · exact absurd h (by simp)
  · rcases Option.or_eq_some_iff.mp h with h | ⟨-, h⟩
    · exact exists_of_firstRule h
    · exact exists_of_firstRule h

theorem not_mem_idleNames_of_mem {r : Rule} (h : r ∈ decidingRules) : r.name ∉ idleNames := by
  have hdeciding := (List.mem_filter.mp h).2
  simpa [isDeciding] using hdeciding

/-! ## The rules that are needed -/

/-- For every rule that decides, in their order, two titles that it alone takes for the same
work, apart from rules behind it. -/
def specimens : List (String × String × String) :=
  [("exact", "A", "A"),
   ("light_clean", "A.", "A"),
   ("heavy_clean", "A: B", "A B"),
   ("two_as_second_season", "A 2", "A Second Season"),
   ("roman_numeral_run", "A II", "A 2"),
   ("emphasis_run", "A!!", "A 2"),
   ("nd_season_pair", "A 2nd Season B", "A 2 Bnd Season"),
   ("nd_season_one_sided", "ndnd Season Season", "nd Season"),
   ("season_digit_pair", "A S0 B", "A S0 C"),
   ("season_digit_one_sided", "A S0", "A 0"),
   ("rd_season_pair", "A 3rd Season B", "A 3 Brd Season"),
   ("rd_season_one_sided", "rdrd Season Season", "rd Season"),
   ("paren_two_as_second_season_pair", "A (B)", "A (C)"),
   ("paren_two_as_second_season_one_sided", "A (B)", "A"),
   ("paren_spaced_two_pair", "A (2)", "A (3)"),
   ("paren_spaced_two_one_sided", "A (2)", "A"),
   ("other_paren_spelled_second_season", "A", "A (2)"),
   ("season_shorthand", "A S2", "A 2nd Season")]

theorem decidingRules_names : decidingRules.map Rule.name = specimens.map Prod.fst := by
  decide +kernel

theorem matchingRule_specimens :
    ∀ s ∈ specimens, matchingRule s.2.1.toList s.2.2.toList = some s.1 := by
  decide +kernel

/-- **The rules that decide.**  Without the six rules that look for a space the chain gives the same
answers, because folded titles have none; so none of the six is ever reported.  Each of the other
eighteen is. -/
theorem matchingRule_reachable :
    (∀ s, ' ' ∉ fold s) ∧
      (∀ a b, matchingRule a b = matchingRuleOf decidingRules a b) ∧
      (∀ a b, ∀ name ∈ idleNames, matchingRule a b ≠ some name) ∧
      decidingRules.length = 18 ∧
      ∀ r ∈ decidingRules, ∃ a b, matchingRule a b = some r.name := by
  refine ⟨space_not_mem_fold, matchingRule_eq_decidingRules, ?_, rfl, ?_⟩
  · intro a b name hname h
    rw [matchingRule_eq_decidingRules] at h
    obtain ⟨r, hr, rfl⟩ := exists_of_matchingRuleOf h
    exact not_mem_idleNames_of_mem hr hname
  · intro r hr
    have hmem : r.name ∈ specimens.map Prod.fst := by
      rw [← decidingRules_names]
      exact List.mem_map_of_mem hr
    obtain ⟨s, hs, hname⟩ := List.mem_map.mp hmem
    exact ⟨_, _, hname ▸ matchingRule_specimens s hs⟩

end AnimeLookup.Title
