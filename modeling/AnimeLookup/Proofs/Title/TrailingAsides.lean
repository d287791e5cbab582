import AnimeLookup.Proofs.Title.PlainTitles
import AnimeLookup.Proofs.Title.SeasonNames

/-!
# Titles with an aside behind them

Catalogs put a year, a country or another name in parentheses behind a title, and this makes no
difference: a title with an aside behind it is equivalent to the title alone, in both orders, however
the aside is written (`equivalent_trailingAside`).

Folding keeps the two apart, since the parenthesis that opens separates texts, and the aside stays
one from its first parenthesis to its last (`fold_trailingAside`).  There is none in front of it, so it
is the one that is taken out, and what is left is the folded title
(`withoutAsideOf_trailingAside`).  The rules that spell a `2` out may leave a part of it standing.
The one that takes the aside out of the title as it is does not, and it is enough that one rule
accepts.
-/

set_option autoImplicit false

namespace AnimeLookup.Title

open Text

/-! ## Asides behind a text -/

/-- An aside with so many spaces in front. -/
def trailingAside (spaces : Nat) (x : List Char) : List Char :=
  List.replicate spaces ' ' ++ '(' :: (x ++ [')'])

/-- **The aside behind a text without parentheses is the one that is taken out.** -/
theorem withoutAsideOf_trailingAside {s x : List Char} (hs : '(' ∉ s) (hx : ')' ∉ x) :
    withoutAsideOf (s ++ '(' :: (x ++ [')'])) (s ++ '(' :: (x ++ [')'])) = some s := by
  have hclose : ')' ∉ '(' :: x := by simpa using hx
  have haside : firstAside ('(' :: (x ++ [')'])) = some ('(' :: (x ++ [')'])) := by
    rw [firstAside, if_pos rfl, ← List.cons_append]
    exact through_append_singleton hclose
  rw [withoutAsideOf_prepend hs, withoutAsideOf, haside, Option.map_some, remove_self,
    Option.map_some, List.append_nil]

/-! ## Folding -/

section Folding

theorem separates_open : Separates '(' := ⟨by decide +kernel, by decide +kernel⟩

theorem separates_close : Separates ')' := ⟨by decide +kernel, by decide +kernel⟩

theorem lowercase_aside (x : List Char) :
    lowercase ('(' :: (x ++ [')'])) = '(' :: (lowercase x ++ [')']) := by
  have hparens : lowerChar '(' = ['('] ∧ lowerChar ')' = [')'] :=
    ⟨lowerChar_of_ascii rfl, lowerChar_of_ascii rfl⟩
  rw [lowercase_cons separates_open, lowercase_append separates_close,
    lowercase_cons separates_close, hparens.1, hparens.2]
  rfl

theorem spaceless_trailingAside (spaces : Nat) (x : List Char) :
    (lowercase (trailingAside spaces x)).filter (· ≠ ' ') =
      '(' :: ((lowercase x).filter (· ≠ ' ') ++ [')']) := by
  induction spaces with
  | zero =>
    rw [trailingAside, List.replicate_zero, List.nil_append, lowercase_aside,
      List.filter_cons_of_pos (by decide), List.filter_append]
    rfl
  | succ n ih =>
    rw [trailingAside, List.replicate_succ, List.cons_append, lowercase_space_cons,
      List.filter_cons_of_neg (by decide)]
    exact ih

/-- **A title with an aside behind it is folded to the folded title and an aside.** -/
theorem fold_trailingAside {p x : List Char}
    (hlast : ∀ c, p.getLast? = some c → isBlank c = false) (hx : ')' ∉ x) (spaces : Nat) :
    ∃ y, ')' ∉ y ∧ fold (p ++ trailingAside spaces x) = fold p ++ '(' :: (y ++ [')']) := by
  have hseparates : ∀ d ∈ (trailingAside spaces x).head?, Separates d := by
    intro d hd
    cases spaces with
    | zero =>
      obtain rfl : '(' = d := Option.some.inj hd
      exact separates_open
    | succ n =>
      obtain rfl : ' ' = d := Option.some.inj hd
      exact separates_space
  have htrim : Trimmed ('(' :: ((lowercase x).filter (· ≠ ' ') ++ [')'])) :=
    ⟨by rintro c ⟨⟩; decide, by
      rw [← List.cons_append, List.getLast?_concat]
      rintro c ⟨⟩
      decide⟩
  refine ⟨((lowercase x).filter (· ≠ ' ')).filter (· ≠ '.'), fun hmem ↦ hx ?_, ?_⟩
  · have hlower := (List.mem_filter.mp (List.mem_filter.mp hmem).1).1
    exact (mem_of_mem_lowercase (by decide) (by decide) hlower).1
  · rw [fold_append hseparates (spaceless_trailingAside spaces x) htrim (List.cons_ne_nil _ _),
      foldStem_eq_fold hlast, List.filter_cons_of_pos (by decide), List.filter_append]
    rfl

theorem paren_not_mem_fold {p : List Char} (h : '(' ∉ p) : '(' ∉ fold p := fun hmem ↦
  h (mem_of_mem_lowercase (by decide) (by decide) (mem_fold hmem).1).1

end Folding

/-! ## The comparison -/

/-- **An aside behind a title makes no difference**, on whichever side it is. -/
theorem equivalent_trailingAside {p x : List Char} (hne : p ≠ [])
    (hlast : ∀ c, p.getLast? = some c → isBlank c = false) (hopen : '(' ∉ p) (hclose : ')' ∉ x)
    (spaces : Nat) :
    equivalent (p ++ trailingAside spaces x) p = true ∧
      equivalent p (p ++ trailingAside spaces x) = true := by
  obtain ⟨y, hy, hfold⟩ := fold_trailingAside hlast hclose spaces
  have hmem : ⟨"paren_one_sided", formIsOther fun s ↦ withoutAsideOf s s⟩ ∈ rules := by
    simp [rules]
  refine equivalent_of_accepts (by simp [hne]) hne hmem ((bothEqual_some_iff _ _).mpr ?_)
  show withoutAsideOf (fold (p ++ trailingAside spaces x)) (fold (p ++ trailingAside spaces x)) =
    some (fold p)
  rw [hfold]
  exact withoutAsideOf_trailingAside (paren_not_mem_fold hopen) hy

/-- An aside may hold a digit that other rules rewrite, and parentheses that open. -/
theorem equivalent_remake :
    "Fate/Zero".toList ≠ [] ∧
      (∀ c, "Fate/Zero".toList.getLast? = some c → isBlank c = false) ∧
      '(' ∉ "Fate/Zero".toList ∧ ')' ∉ "2nd (TV, 2012".toList ∧
      equivalent "Fate/Zero  (2nd (TV, 2012)".toList "Fate/Zero".toList = true ∧
      equivalent "Fate/Zero".toList "Fate/Zero  (2nd (TV, 2012)".toList = true := by
  have hlast : ∀ c, "Fate/Zero".toList.getLast? = some c → isBlank c = false := by
    rintro c ⟨⟩
    decide
  have haside : "Fate/Zero  (2nd (TV, 2012)".toList =
      "Fate/Zero".toList ++ trailingAside 2 "2nd (TV, 2012".toList := by decide
  rw [haside]
  exact ⟨by decide, hlast, by decide, by decide,
    equivalent_trailingAside (by decide) hlast (by decide) (by decide) 2⟩

end AnimeLookup.Title
