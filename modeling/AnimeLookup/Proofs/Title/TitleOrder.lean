import AnimeLookup.Proofs.Title.RuleChain

/-!
# The order of the two titles

Titles are compared in the order given and then in the other one, so it does not matter for the
decision which of them comes first (`equivalent_comm`).  It may matter for the rule that is
reported: in either order it is the first one that accepts, and a rule that treats its two sides
differently may accept in one order only.

Two searches through one chain go on alike until they come to an element on which they disagree,
and that is where one of them ends (`find?_part`).  Most rules compare the same form of both titles
and cannot disagree (`Rule.IsSymmetric`).  So the searches can only part at one of the others, and
then that rule is one of the two that are reported (`matchingRule_swap`).
-/

set_option autoImplicit false

namespace AnimeLookup.Title

open Text

/-! ## Two searches through a chain -/

/-- **Where two searches part**: if they end differently, one of them ends at an element that only
one of the two accepts. -/
theorem find?_part {α : Type} {accepts accepts' : α → Bool} {chain : List α} {r r' : α}
    (h : chain.find? accepts = some r) (h' : chain.find? accepts' = some r') (hne : r ≠ r') :
    ∃ d ∈ chain, (d = r ∨ d = r') ∧ accepts d ≠ accepts' d := by
  induction chain with
  | nil => exact absurd h (by simp)
  | cons d rest ih =>
    rw [List.find?_cons] at h h'
    cases hd : accepts d <;> cases hd' : accepts' d <;> simp only [hd, hd'] at h h'
    case false.false =>
      obtain ⟨e, he, hend, hpart⟩ := ih h h'
      exact ⟨e, List.mem_cons_of_mem d he, hend, hpart⟩
    case false.true => exact ⟨d, List.mem_cons_self, .inr (Option.some.inj h'), by simp [hd, hd']⟩
    case true.false => exact ⟨d, List.mem_cons_self, .inl (Option.some.inj h), by simp [hd, hd']⟩
    case true.true => exact absurd ((Option.some.inj h).symm.trans (Option.some.inj h')) hne

/-! ## Rules that treat both titles alike -/

/-- **A rule for which the order of the titles does not matter.** -/
def Rule.IsSymmetric (r : Rule) : Prop :=
  ∀ a b, r.accepts (Pair.of a b) = r.accepts (Pair.of b a)

theorem isSymmetric_exact {name : String} :
    (⟨name, fun p ↦ p.givenA == p.givenB⟩ : Rule).IsSymmetric :=
  fun _ _ ↦ BEq.comm

theorem isSymmetric_sameForm {name : String} (form : List Char → List Char) :
    (⟨name, sameForm form⟩ : Rule).IsSymmetric :=
  fun _ _ ↦ BEq.comm

theorem bothEqual_comm (x y : Option (List Char)) : bothEqual x y = bothEqual y x := by
  cases x with
  | none => cases y <;> rfl
  | some u =>
    cases y with
    | none => rfl
    | some v => exact BEq.comm

theorem isSymmetric_sameOptionalForm {name : String} (form : List Char → Option (List Char)) :
    (⟨name, sameOptionalForm form⟩ : Rule).IsSymmetric :=
  fun _ _ ↦ bothEqual_comm _ _

/-- The names of the rules that decide and treat the two titles differently. -/
def oneSidedNames : List String :=
  ["nd_season_one_sided", "season_digit_one_sided", "rd_season_one_sided",
    "paren_two_as_second_season_one_sided", "paren_spaced_two_one_sided",
    "other_paren_spelled_second_season", "season_shorthand"]

/-- **Every rule that decides is symmetric, apart from the one-sided ones.** -/
theorem isSymmetric_of_mem : ∀ r ∈ decidingRules, r.name ∈ oneSidedNames ∨ r.IsSymmetric := by
  have hall : ∀ r ∈ rules, isDeciding r = true → r.name ∈ oneSidedNames ∨ r.IsSymmetric := by
    simp only [rules, List.forall_mem_cons]
    have idle {name : String} {accepts : Pair → Bool} {P : Prop} (h : name ∈ idleNames)
        (hr : isDeciding ⟨name, accepts⟩ = true) : P := by
      simp [isDeciding, h] at hr
    -- One entry for each rule, in their order.
    exact ⟨fun _ ↦ .inr isSymmetric_exact,
      fun _ ↦ .inr (isSymmetric_sameForm _),
      fun _ ↦ .inr (isSymmetric_sameForm _),
      idle (by decide),
      idle (by decide),
      fun _ ↦ .inr (isSymmetric_sameForm _),
      fun _ ↦ .inr (isSymmetric_sameForm _),
      fun _ ↦ .inr (isSymmetric_sameForm _),
      fun _ ↦ .inr (isSymmetric_sameForm _),
      fun _ ↦ .inl (by decide),
      fun _ ↦ .inr (isSymmetric_sameOptionalForm _),
      fun _ ↦ .inl (by decide),
      fun _ ↦ .inr (isSymmetric_sameForm _),
      fun _ ↦ .inl (by decide),
      fun _ ↦ .inr (isSymmetric_sameOptionalForm _),
      fun _ ↦ .inl (by decide),
      fun _ ↦ .inr (isSymmetric_sameOptionalForm _),
      fun _ ↦ .inl (by decide),
      idle (by decide),
      idle (by decide),
      fun _ ↦ .inl (by decide),
      idle (by decide),
      idle (by decide),
      fun _ ↦ .inl (by decide),
      fun _ hr ↦ absurd hr List.not_mem_nil⟩
  intro r hr
  obtain ⟨hmem, hdeciding⟩ := List.mem_filter.mp hr
  exact hall r hmem hdeciding

/-! ## The two orders -/

/-- **Whether titles are equivalent does not depend on their order.** -/
theorem equivalent_comm (a b : List Char) : equivalent a b = equivalent b a := by
  rw [equivalent, equivalent, matchingRule, matchingRule, matchingRuleOf, matchingRuleOf,
    Bool.or_comm]
  split
  · rfl
  · rw [Option.isSome_or, Option.isSome_or, Bool.or_comm]

/-- The rules that are found in the two orders are the same, or one of them is one-sided. -/
theorem oneSided_of_firstRule_ne {a b : List Char} {n m : String}
    (h : firstRule rules a b = some n) (h' : firstRule rules b a = some m) (hne : n ≠ m) :
    n ∈ oneSidedNames ∨ m ∈ oneSidedNames := by
  rw [← firstRule_decidingRules] at h h'
  obtain ⟨r, hr, rfl⟩ := Option.map_eq_some_iff.mp h
  obtain ⟨r', hr', rfl⟩ := Option.map_eq_some_iff.mp h'
  obtain ⟨d, hd, hend, hpart⟩ := find?_part hr hr' fun heq ↦ hne (congrArg Rule.name heq)
  have hname : d.name ∈ oneSidedNames :=
    (isSymmetric_of_mem d hd).resolve_right fun hsymm ↦ hpart (hsymm a b)
  rcases hend with rfl | rfl
  · exact .inl hname
  · exact .inr hname

/-- **The order of the titles matters for the reported rule at most, and only through a one-sided
rule.**  The decision is the same in both orders; and if different rules are reported, one of them
treats its two sides differently. -/
theorem matchingRule_swap (a b : List Char) :
    equivalent a b = equivalent b a ∧
      ∀ n m, matchingRule a b = some n → matchingRule b a = some m → n ≠ m →
        n ∈ oneSidedNames ∨ m ∈ oneSidedNames := by
  refine ⟨equivalent_comm a b, fun n m h h' hne ↦ ?_⟩
  rw [matchingRule, matchingRuleOf] at h h'
  rw [Bool.or_comm] at h'
  split at h
  · exact absurd h (by simp)
  · rename_i hempty
    rw [if_neg hempty] at h'
    -- With a rule in one order only, that rule is reported in both.
    cases hab : firstRule rules a b with
    | none =>
      rw [hab, Option.none_or] at h
      rw [h, Option.some_or] at h'
      exact absurd (Option.some.inj h') hne
    | some k =>
      rw [hab, Option.some_or] at h
      cases hba : firstRule rules b a with
      | none =>
        rw [hba, Option.none_or, hab] at h'
        exact absurd ((Option.some.inj h).symm.trans (Option.some.inj h')) hne
      | some l =>
        rw [hba, Option.some_or] at h'
        exact oneSided_of_firstRule_ne (hab.trans h) (hba.trans h') hne

/-- Different rules can be reported: an aside is taken off the first title or off the second. -/
example : matchingRule "A (B)".toList "A".toList = some "paren_two_as_second_season_one_sided" ∧
    matchingRule "A".toList "A (B)".toList = some "other_paren_spelled_second_season" := by
  decide +kernel

end AnimeLookup.Title
