import AnimeLookup.Proofs.Title.PlainTitles
import AnimeLookup.Proofs.Title.SeasonDigits
import AnimeLookup.Proofs.Title.SeasonForms

/-!
# Different seasons of a title

Two titles that differ in the number of their season are different works, and the comparison tells
them apart but for one thing: a season digit that hides the numbers.  `equivalent_season_iff` says
when that is so, for every title and every two numbers, both in shorthand or one of them in
shorthand.

Of the names we use that they are `Apart`: the numbers differ, and one name is in shorthand.  Such
names cannot be taken for one another behind any two texts whatever (`Apart.append_ne`), since a
shorthand ends in digits with an `s` in front, and an ordinal name in a letter.  A rule that leaves
the names alone is settled by this.  Of the rules that rewrite names, those which treat both titles
in the same way leave the same text in front of the names, so the rewritten names are to be
compared by themselves.  Those which rewrite one title only need more: there the end of the title
is compared with what the rewriting makes of a name, behind whatever it makes of the stem.
-/

set_option autoImplicit false

namespace AnimeLookup.Title

open Text

/-! ## Texts that end in digits -/

section Ends

variable {u v d e : List Char}

/-- A text that ends in digits does not end in a letter. -/
theorem append_digits_ne {w : List Char} {c : Char} (hd : ∀ x ∈ d, x.isDigit = true) (hne : d ≠ [])
    (hw : w.getLast? = some c) (hc : c.isDigit = false) : u ++ d ≠ v ++ w := by
  intro h
  have hlast := congrArg List.getLast? h
  rw [List.getLast?_append, List.getLast?_append, hw, List.getLast?_eq_some_getLast hne,
    Option.some_or, Option.some_or, Option.some.injEq] at hlast
  exact Bool.false_ne_true (hc.symm.trans (hlast ▸ hd _ (List.getLast_mem hne)))

/-- The digits at the end of a text, and the character in front of them, can be read off. -/
theorem append_cons_digits_inj {x y : Char} (hd : ∀ c ∈ d, c.isDigit = true)
    (he : ∀ c ∈ e, c.isDigit = true) (hx : x.isDigit = false) (hy : y.isDigit = false)
    (h : u ++ x :: d = v ++ y :: e) : x = y ∧ d = e := by
  -- If one beginning is longer, then the other title's character stands among its digits.
  rcases List.append_eq_append_iff.mp h with ⟨t, -, ht⟩ | ⟨t, -, ht⟩
  · cases t with
    | nil => exact List.cons.inj ht
    | cons z t =>
      have hmem : y ∈ d := (List.cons.inj ht).2 ▸ List.mem_append_right t List.mem_cons_self
      exact absurd (hy.symm.trans (hd y hmem)) Bool.false_ne_true
  · cases t with
    | nil => exact (List.cons.inj ht).imp Eq.symm Eq.symm
    | cons z t =>
      have hmem : x ∈ e := (List.cons.inj ht).2 ▸ List.mem_append_right t List.mem_cons_self
      exact absurd (hx.symm.trans (he x hmem)) Bool.false_ne_true

end Ends

namespace SeasonNumeral

variable {n m : SeasonNumeral}

theorem number_ne_of {P : Prop} (h : n.number ≠ m.number) (heq : n.digits = m.digits) : P :=
  absurd (congrArg (Nat.ofDigitChars 10 · 0) heq) h

/-- A number does not end where the word for a season does. -/
theorem append_digits_ne_season (u v : List Char) : u ++ n.digits ≠ v ++ "season".toList :=
  append_digits_ne (fun _ ↦ isDigit_of_mem) n.ne_nil (c := 'n') rfl (by decide)

end SeasonNumeral

/-! ## Names that are apart -/

/-- **Two names of different seasons**, one of which at least is in shorthand. -/
inductive Apart : SeasonName → SeasonName → Prop
  | shorthands {n m : SeasonNumeral} (h : n.number ≠ m.number) :
    Apart (.shorthand n) (.shorthand m)
  | shorthandFirst {n m : SeasonNumeral} (h : n.number ≠ m.number) :
    Apart (.shorthand n) (.ordinal m)
  | ordinalFirst {n m : SeasonNumeral} (h : n.number ≠ m.number) :
    Apart (.ordinal n) (.shorthand m)

namespace Apart

variable {a b : SeasonName}

theorem symm (h : Apart a b) : Apart b a := by
  cases h with
  | shorthands h => exact .shorthands h.symm
  | shorthandFirst h => exact .ordinalFirst h.symm
  | ordinalFirst h => exact .shorthandFirst h.symm

theorem of_number_ne {n : SeasonNumeral} (h : n.number ≠ b.number) : Apart (.shorthand n) b := by
  cases b with
  | shorthand m => exact .shorthands h
  | ordinal m => exact .shorthandFirst h

/-- **Names that are apart tell all titles apart.** -/
theorem append_ne (h : Apart a b) (u v : List Char) : u ++ a.tail ≠ v ++ b.tail := by
  intro heq
  cases h with
  | shorthands h =>
    have hend := append_cons_digits_inj (fun _ ↦ SeasonNumeral.isDigit_of_mem)
      (fun _ ↦ SeasonNumeral.isDigit_of_mem) (by decide) (by decide) heq
    exact SeasonNumeral.number_ne_of h hend.2
  | shorthandFirst h =>
    rw [SeasonName.tail, SeasonName.tail, List.append_cons, ← List.append_assoc v] at heq
    exact SeasonNumeral.append_digits_ne_season _ _ heq
  | ordinalFirst h =>
    rw [SeasonName.tail, SeasonName.tail, List.append_cons v, ← List.append_assoc u] at heq
    exact SeasonNumeral.append_digits_ne_season _ _ heq.symm

theorem tail_ne (h : Apart a b) : a.tail ≠ b.tail := h.append_ne [] []

/-- A form that keeps the names tells the titles apart. -/
theorem form_ne (h : Apart a b) {form : List Char → List Char} {stem : List Char}
    (hform : KeepsTail form stem) : form (stem ++ a.tail) ≠ form (stem ++ b.tail) := by
  obtain ⟨front, back, hform⟩ := hform
  rw [hform, hform]
  exact fun heq ↦ h.append_ne front front (List.append_cancel_right heq)

end Apart

/-! ## A two as a second season -/

theorem twoAsSecondSeason_append (u v : List Char) :
    twoAsSecondSeason (u ++ v) = twoAsSecondSeason u ++ twoAsSecondSeason v := by
  rw [twoAsSecondSeason, replace_singleton, List.flatMap_append, ← replace_singleton,
    ← replace_singleton]
  rfl

theorem twoAsSecondSeason_eq_self {u : List Char} (h : '2' ∉ u) : twoAsSecondSeason u = u :=
  replace_eq_self_of_not_mem _ List.mem_cons_self h

namespace SeasonNumeral

variable (n : SeasonNumeral)

/-- What is written for the digits of a number begins with one, or with a word. -/
theorem twoAsSecondSeason_digits_eq_cons :
    ∃ c more, twoAsSecondSeason n.digits = c :: more ∧
      (c.isDigit = true ∨ c = 's' ∧ ∃ more', more = 'e' :: more') := by
  obtain ⟨d, more, hn, hd⟩ := n.exists_digits_eq_cons
  rw [hn, twoAsSecondSeason, replace_singleton, List.flatMap_cons]
  split
  · exact ⟨_, _, rfl, .inr ⟨rfl, _, rfl⟩⟩
  · exact ⟨_, _, rfl, .inl hd⟩

/-- How a number in shorthand ends when every two in it is spelled out: in the word for a season, or
in digits.  In front of these there may be an `s` only if they are the whole number. -/
theorem twoAsSecondSeason_digits_end :
    (∃ front, 's' :: twoAsSecondSeason n.digits = front ++ "secondseason".toList) ∨
      ∃ front c d, 's' :: twoAsSecondSeason n.digits = front ++ c :: d ∧ c.isDigit = false ∧
        d ≠ [] ∧ (∀ x ∈ d, x.isDigit = true) ∧ (c = 's' → d = n.digits) := by
  have hone : twoAsSecondSeason ['2'] = "secondseason".toList := by decide
  have hother : ∀ c, c ≠ '2' → twoAsSecondSeason [c] = [c] := fun c hc ↦
    twoAsSecondSeason_eq_self (by simpa using Ne.symm hc)
  rcases n.digits_cases with ⟨d, hn, hd⟩ | ⟨d, e, hn, hd, he⟩
  · rw [hn]
    by_cases htwo : d = '2'
    · exact .inl ⟨['s'], by rw [htwo, hone]; rfl⟩
    · refine .inr ⟨[], 's', [d], ?_, by decide, List.cons_ne_nil _ _, by simpa using hd,
        fun _ ↦ rfl⟩
      rw [hother d htwo]
      rfl
  · have hsplit : twoAsSecondSeason [d, e] = twoAsSecondSeason [d] ++ twoAsSecondSeason [e] :=
      twoAsSecondSeason_append [d] [e]
    rw [hn, hsplit]
    by_cases htwo : e = '2'
    · exact .inl ⟨'s' :: twoAsSecondSeason [d], by rw [htwo, hone]; rfl⟩
    · refine .inr ?_
      rw [hother e htwo]
      by_cases hfirst : d = '2'
      · refine ⟨"ssecondseaso".toList, 'n', [e], ?_, by decide, List.cons_ne_nil _ _,
          by simpa using he, fun h ↦ absurd h (by decide)⟩
        rw [hfirst, hone]
        rfl
      · refine ⟨[], 's', [d, e], ?_, by decide, List.cons_ne_nil _ _, by simpa using ⟨hd, he⟩,
          fun _ ↦ rfl⟩
        rw [hother d hfirst]
        rfl

end SeasonNumeral

namespace SeasonName

variable (n : SeasonNumeral)

theorem twoAsSecondSeason_shorthand :
    twoAsSecondSeason (shorthand n).tail = 's' :: twoAsSecondSeason n.digits :=
  twoAsSecondSeason_append ['s'] n.digits

theorem twoAsSecondSeason_ordinal :
    twoAsSecondSeason (ordinal n).tail =
      twoAsSecondSeason n.digits ++ (ordinalSuffix n.number).toList ++ "season".toList := by
  have hsuffix : ∀ w ∈ ["st", "nd", "rd", "th"], '2' ∉ w.toList := by decide
  have hseason : twoAsSecondSeason "season".toList = "season".toList := by decide
  rw [tail, twoAsSecondSeason_append, twoAsSecondSeason_append, hseason,
    twoAsSecondSeason_eq_self (hsuffix _ (ordinalSuffix_mem n.number))]

end SeasonName

theorem ordinalSuffix_length (n : Nat) : (ordinalSuffix n).toList.length = 2 := by
  have hall : ∀ w ∈ ["st", "nd", "rd", "th"], w.toList.length = 2 := by decide
  exact hall _ (ordinalSuffix_mem n)

namespace Apart

variable {a b : SeasonName}

theorem twoAsSecondSeason_shorthand_ne_ordinal (n m : SeasonNumeral) :
    twoAsSecondSeason (SeasonName.shorthand n).tail ≠
      twoAsSecondSeason (SeasonName.ordinal m).tail := by
  intro heq
  rw [SeasonName.twoAsSecondSeason_shorthand, SeasonName.twoAsSecondSeason_ordinal] at heq
  obtain ⟨c, more, hn, hc⟩ := n.twoAsSecondSeason_digits_eq_cons
  obtain ⟨d, more', hm, hd⟩ := m.twoAsSecondSeason_digits_eq_cons
  rw [hn, hm, List.cons_append, List.cons_append] at heq
  obtain ⟨rfl, hrest⟩ := List.cons.inj heq
  rcases hd with hd | ⟨-, more'', rfl⟩
  · exact absurd hd (by decide)
  · obtain ⟨rfl, -⟩ := List.cons.inj hrest
    rcases hc with hc | ⟨hc, -⟩
    · exact absurd hc (by decide)
    · exact absurd hc (by decide)

/-- Names that are apart stay so when every two in them is spelled out. -/
theorem twoAsSecondSeason_ne (h : Apart a b) :
    twoAsSecondSeason a.tail ≠ twoAsSecondSeason b.tail := by
  intro heq
  cases h with
  | shorthands h =>
    rw [SeasonName.twoAsSecondSeason_shorthand, SeasonName.twoAsSecondSeason_shorthand] at heq
    have hdigits := replace_singleton_inj (SeasonNumeral.not_mem_digits (c := 's') (by decide))
      (SeasonNumeral.not_mem_digits (by decide)) (List.cons.inj heq).2
    exact SeasonNumeral.number_ne_of h hdigits
  | shorthandFirst h => exact twoAsSecondSeason_shorthand_ne_ordinal _ _ heq
  | ordinalFirst h => exact twoAsSecondSeason_shorthand_ne_ordinal _ _ heq.symm

/-- Titles are told apart if every two of one of them is spelled out. -/
theorem append_twoAsSecondSeason_ne (h : Apart a b) (u v : List Char) :
    u ++ twoAsSecondSeason a.tail ≠ v ++ b.tail := by
  intro heq
  cases h with
  | @shorthands n m h =>
    rw [SeasonName.twoAsSecondSeason_shorthand] at heq
    rcases n.twoAsSecondSeason_digits_end with ⟨front, hn⟩ | ⟨front, c, d, hn, hc, -, hd, hs⟩
    · rw [hn, SeasonName.tail, List.append_cons v] at heq
      have hword : "secondseason".toList = "second".toList ++ "season".toList := rfl
      rw [hword, ← List.append_assoc, ← List.append_assoc] at heq
      exact SeasonNumeral.append_digits_ne_season _ _ heq.symm
    · rw [hn, SeasonName.tail, ← List.append_assoc] at heq
      obtain ⟨rfl, hdigits⟩ := append_cons_digits_inj hd
        (fun _ ↦ SeasonNumeral.isDigit_of_mem) hc (by decide) heq
      exact SeasonNumeral.number_ne_of h ((hs rfl).symm.trans hdigits)
  | @shorthandFirst n m h =>
    rw [SeasonName.twoAsSecondSeason_shorthand, SeasonName.tail] at heq
    rcases n.twoAsSecondSeason_digits_end with ⟨front, hn⟩ | ⟨front, c, d, hn, -, hne, hd, -⟩
    · -- Without the word for a season, `second` is left, and it would have to be a number with
      -- its suffix.
      have hword : "secondseason".toList = "seco".toList ++ "nd".toList ++ "season".toList := rfl
      rw [hn, hword, ← List.append_assoc, ← List.append_assoc, ← List.append_assoc v] at heq
      have hstem := List.append_cancel_right heq
      rw [← List.append_assoc, ← List.append_assoc] at hstem
      have hnumber := (List.append_inj' hstem (ordinalSuffix_length m.number).symm).1
      exact append_digits_ne (fun _ ↦ SeasonNumeral.isDigit_of_mem) m.ne_nil (c := 'o') rfl
        (by decide) hnumber.symm
    · rw [hn, List.append_cons, ← List.append_assoc, ← List.append_assoc v] at heq
      exact append_digits_ne hd hne (c := 'n') rfl (by decide) heq
  | @ordinalFirst n m h =>
    rw [SeasonName.twoAsSecondSeason_ordinal, SeasonName.tail, List.append_cons v,
      ← List.append_assoc u] at heq
    exact SeasonNumeral.append_digits_ne_season _ _ heq.symm

end Apart

/-! ## The rest of an ordinal season -/

section OrdinalRests

variable {pattern : List Char} (h : pattern ∈ ordinalRests)

include h

theorem noneAcross_ordinalRest (s : SeasonName) : NoneAcross pattern s.tail := by
  have hall : ∀ pattern ∈ ordinalRests, (pattern.all fun c ↦ !c.isDigit) = true ∧
      pattern.getLast? ≠ some 's' := by decide
  obtain ⟨hdigit, hlast⟩ := hall pattern h
  have hnot : ∀ c ∈ pattern, c.isDigit = false := by simpa using hdigit
  cases s with
  | shorthand n =>
    obtain ⟨d, more, hn, hd⟩ := n.exists_digits_eq_cons
    rw [SeasonName.tail, hn]
    refine noneAcross_cons_cons (fun hin ↦ ?_) hlast
    have hmem : d ∈ pattern := hin.subset (List.mem_cons_of_mem _ List.mem_cons_self)
    exact Bool.false_ne_true ((hnot d hmem).symm.trans hd)
  | ordinal n =>
    obtain ⟨d, more, hn, hd⟩ := n.exists_digits_eq_cons
    rw [SeasonName.tail, hn]
    refine noneAcross_cons fun hin ↦ ?_
    exact Bool.false_ne_true ((hnot d (List.mem_of_mem_tail hin)).symm.trans hd)

theorem remove_ordinalRest_shorthand (n : SeasonNumeral) :
    remove pattern (SeasonName.shorthand n).tail = (SeasonName.shorthand n).tail := by
  have hall : ∀ pattern ∈ ordinalRests, 'a' ∈ pattern := by decide
  refine remove_eq_self_of_not_mem (hall pattern h) fun hmem ↦ ?_
  rcases List.mem_cons.mp hmem with ha | ha
  · exact absurd ha (by decide)
  · exact SeasonNumeral.not_mem_digits (by decide) ha

theorem remove_ordinalRest_ordinal (n : SeasonNumeral) :
    remove pattern (SeasonName.ordinal n).tail = n.digits ∨
      remove pattern (SeasonName.ordinal n).tail = (SeasonName.ordinal n).tail := by
  have hall : ∀ pattern ∈ ordinalRests, ∀ w ∈ ["st", "nd", "rd", "th"],
      remove pattern (w.toList ++ "season".toList) = [] ∨
        remove pattern (w.toList ++ "season".toList) = w.toList ++ "season".toList := by
    decide
  have hcons : ∃ c more, pattern = c :: more ∧ c.isDigit = false := by
    rcases List.mem_cons.mp h with rfl | h
    · exact ⟨_, _, rfl, by decide⟩
    · rw [List.mem_singleton.mp h]
      exact ⟨_, _, rfl, by decide⟩
  obtain ⟨c, more, hpattern, hc⟩ := hcons
  have hskip : remove pattern (SeasonName.ordinal n).tail =
      n.digits ++ remove pattern ((ordinalSuffix n.number).toList ++ "season".toList) := by
    rw [SeasonName.tail, List.append_assoc, hpattern]
    exact replace_append_of_not_mem [] _ (SeasonNumeral.not_mem_digits hc)
  rcases hall pattern h _ (ordinalSuffix_mem n.number) with hrest | hrest
  · exact .inl (by rw [hskip, hrest, List.append_nil])
  · exact .inr (by rw [hskip, hrest, SeasonName.tail, List.append_assoc])

end OrdinalRests

namespace Apart

variable {a b : SeasonName} {pattern : List Char}

theorem remove_shorthand_ne_ordinal (hpattern : pattern ∈ ordinalRests) {n m : SeasonNumeral}
    (h : n.number ≠ m.number) :
    remove pattern (SeasonName.shorthand n).tail ≠ remove pattern (SeasonName.ordinal m).tail := by
  rw [remove_ordinalRest_shorthand hpattern]
  rcases remove_ordinalRest_ordinal hpattern m with hrest | hrest
  · rw [hrest]
    intro heq
    have hs : 's' ∈ m.digits := heq ▸ List.mem_cons_self
    exact SeasonNumeral.not_mem_digits (by decide) hs
  · rw [hrest]
    exact (shorthandFirst h).tail_ne

/-- Names that are apart stay so without the rest of an ordinal season. -/
theorem remove_ne (h : Apart a b) (hpattern : pattern ∈ ordinalRests) :
    remove pattern a.tail ≠ remove pattern b.tail := by
  cases h with
  | shorthands h =>
    rw [remove_ordinalRest_shorthand hpattern, remove_ordinalRest_shorthand hpattern]
    exact (shorthands h).tail_ne
  | shorthandFirst h => exact remove_shorthand_ne_ordinal hpattern h
  | ordinalFirst h => exact (remove_shorthand_ne_ordinal hpattern h.symm).symm

/-- Titles are told apart if one of them, which has nothing added to its stem, is without the rest
of an ordinal season. -/
theorem append_remove_ne (h : Apart a b) (hpattern : pattern ∈ ordinalRests) {u v : List Char}
    (hlength : u.length ≤ v.length) : u ++ remove pattern a.tail ≠ v ++ b.tail := by
  cases h with
  | shorthands h =>
    rw [remove_ordinalRest_shorthand hpattern]
    exact (shorthands h).append_ne u v
  | shorthandFirst h =>
    rw [remove_ordinalRest_shorthand hpattern]
    exact (shorthandFirst h).append_ne u v
  | @ordinalFirst n m h =>
    rcases remove_ordinalRest_ordinal hpattern n with hrest | hrest
    · -- What is left of the name has to reach from the end of `u` over the `s` of the other one.
      rw [hrest]
      intro heq
      obtain ⟨t, -, ht⟩ : ∃ t, v = u ++ t ∧ n.digits = t ++ (SeasonName.shorthand m).tail := by
        rcases List.append_eq_append_iff.mp heq with h | ⟨t, hu, ht⟩
        · exact h
        · rw [hu, List.length_append] at hlength
          have hnil : t = [] := List.length_eq_zero_iff.mp (by omega)
          rw [hnil, List.append_nil] at hu
          rw [hnil, List.nil_append] at ht
          exact ⟨[], by rw [hu, List.append_nil], by rw [ht, List.nil_append]⟩
      have hs : 's' ∈ n.digits := ht ▸ List.mem_append_right t List.mem_cons_self
      exact SeasonNumeral.not_mem_digits (by decide) hs
    · rw [hrest]
      exact (ordinalFirst h).append_ne u v

end Apart

/-! ## Asides -/

section Asides

variable {form : List Char → List Char} (h : form ∈ asideForms)

include h

theorem asideForm_append (u v : List Char) : form (u ++ v) = form u ++ form v := by
  simp only [asideForms, List.mem_cons, List.not_mem_nil, or_false] at h
  rcases h with rfl | rfl
  · exact twoAsSecondSeason_append u v
  · rfl

theorem asideForm_eq_self {u : List Char} (hu : '2' ∉ u) : form u = u := by
  simp only [asideForms, List.mem_cons, List.not_mem_nil, or_false] at h
  rcases h with rfl | rfl
  · exact twoAsSecondSeason_eq_self hu
  · rfl

/-- What asides are taken out of has no parenthesis that the title has not. -/
theorem paren_not_mem_asideForm {u : List Char} (hu : ')' ∉ u) : ')' ∉ form u := by
  simp only [asideForms, List.mem_cons, List.not_mem_nil, or_false] at h
  rcases h with rfl | rfl
  · intro hmem
    exact (mem_of_mem_replace hmem).elim (absurd · (by decide)) hu
  · exact hu

/-- A name, rewritten or not, has nothing to do with the aside of the title. -/
theorem withoutAsideOf_tail (s : SeasonName) (stem : List Char) :
    withoutAsideOf (stem ++ s.tail) (form (stem ++ s.tail)) =
      (withoutAsideOf stem (form stem)).map (· ++ form s.tail) := by
  have hparen : ')' ∉ s.tail := s.not_mem_tail (by decide)
  rw [asideForm_append h]
  exact withoutAsideOf_append (s.not_mem_tail (by decide)) hparen
    (paren_not_mem_asideForm h hparen) stem (form stem)

end Asides

namespace Apart

variable {a b : SeasonName} {form : List Char → List Char} {stem t : List Char}

/-- **Titles with names that are apart differ without their asides.** -/
theorem withoutAside_ne (h : Apart a b) (hform : form ∈ asideForms)
    (ha : withoutAsideOf (stem ++ a.tail) (form (stem ++ a.tail)) = some t) :
    withoutAsideOf (stem ++ b.tail) (form (stem ++ b.tail)) ≠ some t := by
  intro hb
  rw [withoutAsideOf_tail hform, Option.map_eq_some_iff] at ha hb
  obtain ⟨u, hu, rfl⟩ := ha
  obtain ⟨v, hv, heq⟩ := hb
  obtain rfl := Option.some.inj (hu.symm.trans hv)
  have htail := List.append_cancel_left heq
  simp only [asideForms, List.mem_cons, List.not_mem_nil, or_false] at hform
  rcases hform with rfl | rfl
  · exact h.twoAsSecondSeason_ne htail.symm
  · exact h.tail_ne htail.symm

/-- A title without its aside is not the other one. -/
theorem withoutAside_ne_other (h : Apart a b) (hform : form ∈ asideForms) :
    withoutAsideOf (stem ++ a.tail) (form (stem ++ a.tail)) ≠ some (stem ++ b.tail) := by
  intro ha
  rw [withoutAsideOf_tail hform, Option.map_eq_some_iff] at ha
  obtain ⟨u, -, heq⟩ := ha
  simp only [asideForms, List.mem_cons, List.not_mem_nil, or_false] at hform
  rcases hform with rfl | rfl
  · exact h.append_twoAsSecondSeason_ne u stem heq
  · exact h.append_ne u stem heq

end Apart

/-! ## Seasons in shorthand -/

/-- The shorthand of a season is read back if the title in front of it is on one line. -/
theorem seasonShorthand_shorthand (n : SeasonNumeral) (stem : List Char) :
    seasonShorthand (stem ++ (SeasonName.shorthand n).tail) =
      if !stem.isEmpty && !stem.contains '\n' then some (stem, n.number) else none := by
  have hall := n.all_isDigit
  rcases n.digits_cases with ⟨d, hn, -⟩ | ⟨d, e, hn, hd, -⟩
  · have hreverse : (stem ++ (SeasonName.shorthand n).tail).reverse = d :: 's' :: stem.reverse := by
      simp [SeasonName.tail, hn]
    rw [hn] at hall
    simp only [seasonShorthand, hreverse, List.reverse_reverse, hall, Bool.true_and,
      SeasonNumeral.number, hn]
  · have hreverse : (stem ++ (SeasonName.shorthand n).tail).reverse =
        e :: d :: 's' :: stem.reverse := by
      simp [SeasonName.tail, hn]
    -- The shorter of the two forms is tried first, and the digit is no `s`.
    have hs : d ≠ 's' := fun h ↦ absurd (h ▸ hd) (by decide)
    rw [hn] at hall
    simp only [seasonShorthand, hreverse, List.reverse_reverse, hall, Bool.true_and,
      SeasonNumeral.number, hn]

theorem seasonShorthand_ordinal (n : SeasonNumeral) (stem : List Char) :
    seasonShorthand (stem ++ (SeasonName.ordinal n).tail) = none := by
  refine seasonShorthand_eq_none fun c hc ↦ ?_
  rw [SeasonName.tail, ← List.append_assoc, List.getLast?_append] at hc
  obtain rfl : 'n' = c := Option.some.inj hc
  rfl

/-- The spellings of a season, taken apart. -/
theorem mem_seasonSpellings {stem s : List Char} {k : Nat} (h : s ∈ seasonSpellings stem k) :
    ∃ start, s = stem ++ start ++ "season".toList ∧
      ((∃ word ∈ ordinalWords, start = word.toList) ∨
        start = decimal k ++ (ordinalSuffix k).toList) := by
  rcases List.mem_append.mp h with hword | hnumeral
  · obtain ⟨word, hat, rfl⟩ := Option.map_eq_some_iff.mp (Option.mem_toList.mp hword)
    exact ⟨word.toList, rfl, .inl ⟨word, List.mem_of_getElem? hat, rfl⟩⟩
  · rw [List.mem_singleton] at hnumeral
    exact ⟨_, by rw [hnumeral, ← List.append_assoc], .inr rfl⟩

/-- A spelling of a season with an ordinal numeral behind the title tells the number. -/
theorem number_eq_of_mem_seasonSpellings {n : SeasonNumeral} {stem : List Char} {k : Nat}
    (h : stem ++ (SeasonName.ordinal n).tail ∈ seasonSpellings stem k) : k = n.number := by
  obtain ⟨start, heq, hstart⟩ := mem_seasonSpellings h
  rw [SeasonName.tail, List.append_assoc stem] at heq
  have hnumeral := List.append_cancel_right (List.append_cancel_left heq)
  rcases hstart with ⟨word, hword, rfl⟩ | rfl
  · -- The words begin with letters.
    have hall : ∀ word ∈ ordinalWords, (word.toList.head?.all fun c ↦ !c.isDigit) = true := by
      decide
    obtain ⟨d, more, hn, hd⟩ := n.exists_digits_eq_cons
    have hhead := hall word hword
    rw [← hnumeral, hn, List.cons_append, List.head?_cons, Option.all_some, hd] at hhead
    exact absurd hhead (by decide)
  · have hlength := (ordinalSuffix_length n.number).trans (ordinalSuffix_length k).symm
    have hdigits := (List.append_inj' hnumeral hlength).1
    rw [SeasonNumeral.number, hdigits, decimal, Nat.ofDigitChars_ten_toDigits]

namespace Apart

variable {a b : SeasonName}

/-- No name of another season spells a shorthand out. -/
theorem not_mem_seasonSpellings (h : Apart a b) {stem start : List Char} {k : Nat}
    (ha : seasonShorthand (stem ++ a.tail) = some (start, k)) :
    stem ++ b.tail ∉ seasonSpellings start k := by
  intro hb
  cases h with
  | shorthands h =>
    obtain ⟨spelled, heq, -⟩ := mem_seasonSpellings hb
    exact SeasonNumeral.append_digits_ne_season (stem ++ ['s']) (start ++ spelled)
      ((List.append_cons _ _ _).symm.trans heq)
  | shorthandFirst h =>
    rw [seasonShorthand_shorthand] at ha
    split at ha
    · obtain ⟨rfl, rfl⟩ := Prod.mk.inj (Option.some.inj ha)
      exact h (number_eq_of_mem_seasonSpellings hb)
    · exact absurd ha (by simp)
  | ordinalFirst h =>
    rw [seasonShorthand_ordinal] at ha
    exact absurd ha (by simp)

end Apart

/-! ## The chain on different seasons -/

section Chain

variable {a b : SeasonName} {p : List Char}

/-- The forms that are compared tell titles with names that are apart from each other. -/
theorem Apart.comparedForm_ne (h : Apart a b) {form : List Char → List Char}
    (hform : form ∈ comparedForms) :
    form (foldStem p ++ a.tail) ≠ form (foldStem p ++ b.tail) := by
  have hspace := space_not_mem_foldStem p
  have hupper : ∀ c : Char, c.isUpper = true → c ∉ foldStem p := fun c hc ↦
    not_mem_foldStem_of_isUpper hc p
  have hrest : ∀ {pattern : List Char}, pattern ∈ ordinalRests →
      remove pattern (foldStem p ++ a.tail) ≠ remove pattern (foldStem p ++ b.tail) := by
    intro pattern hpattern heq
    rw [remove_append _ (noneAcross_ordinalRest hpattern a),
      remove_append _ (noneAcross_ordinalRest hpattern b)] at heq
    exact h.remove_ne hpattern (List.append_cancel_left heq)
  simp only [comparedForms, List.mem_cons, List.not_mem_nil, or_false] at hform
  rcases hform with rfl | rfl | rfl | rfl | rfl | rfl | rfl
  · exact h.form_ne (SeasonName.keepsTail_lightClean hspace (hupper 'S' (by decide)))
  · exact h.form_ne (SeasonName.keepsTail_heavyClean hspace hupper)
  · rw [twoAsSecondSeason_append, twoAsSecondSeason_append]
    exact fun heq ↦ h.twoAsSecondSeason_ne (List.append_cancel_left heq)
  · exact h.form_ne (SeasonName.keepsTail_romanRun _)
  · exact h.form_ne (SeasonName.keepsTail_emphasisRun _)
  · exact hrest (by simp [ordinalRests])
  · exact hrest (by simp [ordinalRests])

/-- **Only a season digit can hide that seasons are different**: what any other rule compares tells
two titles with names that are apart from each other. -/
theorem seasonDigit_agree_of_accepts (h : Apart a b) :
    ∀ r ∈ rules, r.accepts (Pair.of (a.title p) (b.title p)) = true →
      ∃ u, seasonDigit (foldStem p ++ a.tail) = some u ∧
        seasonDigit (foldStem p ++ b.tail) = some u := by
  intro r hr haccepts
  have hagree := agree_of_accepts r hr haccepts
  rw [a.fold_title, b.fold_title] at hagree
  cases hagree with
  | same heq => exact absurd heq (h.append_ne _ _)
  | inForm hform heq => exact absurd heq (h.comparedForm_ne hform)
  | withoutRest hpattern heq =>
    rw [remove_append _ (noneAcross_ordinalRest hpattern a)] at heq
    exact absurd heq (h.append_remove_ne hpattern (remove_sublist _ _).length_le)
  | seasonDigits _ ha hb => exact ⟨_, ha, hb⟩
  | seasonDigitOfFirst ha =>
    -- What is found is too short to be the other title.
    have hlength := a.length_of_seasonDigit ha
    have htail := b.two_le_length_tail
    rw [List.length_append] at hlength
    omega
  | asides hform ha hb => exact absurd hb (h.withoutAside_ne hform ha)
  | asideOfFirst hform ha => exact absurd ha (h.withoutAside_ne_other hform)
  | asideOfSecond hb =>
    exact absurd hb (h.symm.withoutAside_ne_other id_mem_asideForms)
  | spelledOut ha hb => exact absurd hb (h.not_mem_seasonSpellings ha)

end Chain

/-! ## The comparison of different seasons -/

instance (line : List Char) (n : SeasonNumeral) : (other : SeasonName) →
    Decidable (HiddenInLine line n other)
  | .shorthand m => inferInstanceAs (Decidable (n.mark = m.mark ∧ _))
  | .ordinal _ => inferInstanceAs (Decidable (n.mark = none ∧ _))

instance (p : List Char) (n : SeasonNumeral) (other : SeasonName) :
    Decidable (HidesNumber p n other) :=
  inferInstanceAs (Decidable (_ ∨ _))

/-- **Different seasons are told apart unless a season digit hides them.**  This holds for every
title, two numbers in shorthand, and a number in shorthand against an ordinal numeral. -/
theorem equivalent_season_iff (p : List Char) (n : SeasonNumeral) (other : SeasonName)
    (h : n.number ≠ other.number) :
    equivalent ((SeasonName.shorthand n).title p) (other.title p) = true ↔
      HidesNumber p n other := by
  have hne : ∀ s : SeasonName, s.title p ≠ [] := fun s ↦ by simp [SeasonName.title]
  have hapart : Apart (.shorthand n) other := Apart.of_number_ne h
  rw [equivalent_iff_exists (hne _) (hne _), ← seasonDigit_agree_iff]
  constructor
  · rintro ⟨r, hr, haccepts | haccepts⟩
    · exact seasonDigit_agree_of_accepts hapart r hr haccepts
    · obtain ⟨u, hother, hshort⟩ := seasonDigit_agree_of_accepts hapart.symm r hr haccepts
      exact ⟨u, hshort, hother⟩
  · intro hagree
    refine ⟨⟨"season_digit_pair", sameOptionalForm seasonDigit⟩, by simp [rules], .inl ?_⟩
    show bothEqual (seasonDigit (fold _)) (seasonDigit (fold _)) = true
    rw [SeasonName.fold_title, SeasonName.fold_title]
    exact (bothEqual_iff _ _).mpr hagree

/-- The first season is told from the second one in both ways of writing it, until a season digit
comes into the title. -/
theorem equivalent_first_second :
    let first := SeasonNumeral.ofNumber 1 (by decide) (by decide)
    let second := SeasonNumeral.ofNumber 2 (by decide) (by decide)
    first.number ≠ second.number ∧
      ¬ equivalent ((SeasonName.shorthand first).title "Show".toList)
        ((SeasonName.shorthand second).title "Show".toList) = true ∧
      ¬ equivalent ((SeasonName.shorthand first).title "Show".toList)
        ((SeasonName.ordinal second).title "Show".toList) = true ∧
      equivalent ((SeasonName.shorthand first).title "Area S9".toList)
        ((SeasonName.shorthand second).title "Area S9".toList) = true := by
  intro first second
  have hne : first.number ≠ second.number := by decide
  refine ⟨hne, fun h ↦ ?_, fun h ↦ ?_, ?_⟩
  · exact absurd ((equivalent_season_iff _ first (.shorthand second) hne).mp h) (by decide +kernel)
  · exact absurd ((equivalent_season_iff _ first (.ordinal second) hne).mp h) (by decide +kernel)
  · exact (equivalent_season_iff _ first (.shorthand second) hne).mpr (by decide +kernel)

/-- **Different seasons can be taken for the same work**: with a zero in front of both numbers in
shorthand, and behind a title with a season digit of its own. -/
theorem exists_different_seasons_equivalent :
    (fold "Show".toList ≠ [] ∧
      ∃ n m : SeasonNumeral, n.digits = "01".toList ∧ m.digits = "02".toList ∧
        n.number ≠ m.number ∧
        equivalent ((SeasonName.shorthand n).title "Show".toList)
          ((SeasonName.shorthand m).title "Show".toList) = true) ∧
      fold "Show S9".toList ≠ [] ∧
      ∃ n m : SeasonNumeral, n.digits = "1".toList ∧ m.digits = "2".toList ∧
        n.number ≠ m.number ∧
        equivalent ((SeasonName.shorthand n).title "Show S9".toList)
          ((SeasonName.ordinal m).title "Show S9".toList) = true := by
  refine ⟨⟨by decide +kernel, ⟨"01".toList, by decide, by decide, by decide, by decide⟩,
      ⟨"02".toList, by decide, by decide, by decide, by decide⟩, rfl, rfl, by decide, ?_⟩,
    by decide +kernel, ⟨"1".toList, by decide, by decide, by decide, by decide⟩,
    ⟨"2".toList, by decide, by decide, by decide, by decide⟩, rfl, rfl, by decide, ?_⟩
  · decide +kernel
  · decide +kernel

end AnimeLookup.Title
