import AnimeLookup.Text.Replace

/-!
# What a replacement leaves

Facts about `replace` that hold for every text: where the characters of the result come from, when
nothing happens, what becomes of a text that is put together from two, and what it all comes to
when the pattern is a single character.

A text made of two is replaced part by part, unless an occurrence reaches from one into the other.
`NoneAcross` excludes that by a look at the second part alone (`replace_append`).

A pattern of one character overlaps nothing, so replacing it is a matter of each character by
itself (`replace_singleton`).  What begins with a character that two texts do not have can be told
from everything in them, so putting it for another character takes no two such texts to the same
one (`replace_singleton_inj`).
-/

set_option autoImplicit false

namespace AnimeLookup.Text

theorem mem_of_mem_replaceAfter {pattern new s : List Char} {c : Char} (skip : Nat)
    (h : c ∈ replaceAfter pattern new skip s) : c ∈ new ∨ c ∈ s := by
  induction s generalizing skip with
  | nil => simp [replaceAfter] at h
  | cons d rest ih =>
    cases skip with
    | succ n =>
      rw [replaceAfter] at h
      exact (ih n h).imp_right (List.mem_cons_of_mem d)
    | zero =>
      rw [replaceAfter] at h
      split at h
      · rcases List.mem_append.mp h with hnew | hrest
        · exact .inl hnew
        · exact (ih _ hrest).imp_right (List.mem_cons_of_mem d)
      · rcases List.mem_cons.mp h with rfl | hrest
        · exact .inr List.mem_cons_self
        · exact (ih 0 hrest).imp_right (List.mem_cons_of_mem d)

/-- The characters of the result are old ones or are put there. -/
theorem mem_of_mem_replace {pattern new s : List Char} {c : Char} (h : c ∈ replace pattern new s) :
    c ∈ new ∨ c ∈ s :=
  mem_of_mem_replaceAfter 0 h

theorem mem_of_mem_remove {pattern s : List Char} {c : Char} (h : c ∈ remove pattern s) : c ∈ s :=
  (mem_of_mem_replace h).resolve_left List.not_mem_nil

/-- A text that lacks a character of the pattern stays as it is. -/
theorem replace_eq_self_of_not_mem {pattern s : List Char} (new : List Char) {c : Char}
    (hc : c ∈ pattern) (hs : c ∉ s) : replace pattern new s = s :=
  replace_eq_self new fun h ↦ hs (h.subset hc)

theorem remove_eq_self_of_not_mem {pattern s : List Char} {c : Char} (hc : c ∈ pattern)
    (hs : c ∉ s) : remove pattern s = s :=
  replace_eq_self_of_not_mem [] hc hs

theorem replaceAfter_nil_sublist (pattern : List Char) (skip : Nat) (s : List Char) :
    (replaceAfter pattern [] skip s).Sublist s := by
  induction s generalizing skip with
  | nil => exact List.Sublist.refl []
  | cons c rest ih =>
    cases skip with
    | succ n => exact (ih n).cons c
    | zero =>
      rw [replaceAfter]
      split
      · exact (ih _).cons c
      · exact (ih 0).cons_cons c

/-- What is removed leaves the rest in its order. -/
theorem remove_sublist (pattern s : List Char) : (remove pattern s).Sublist s :=
  replaceAfter_nil_sublist pattern 0 s

/-- Nothing is left of the pattern itself. -/
theorem remove_self (s : List Char) : remove s s = [] := by
  cases s with
  | nil => exact replace_nil [] []
  | cons c rest => rw [remove, replace_cons_of_startsWith (List.prefix_refl _), List.nil_append,
      ← List.length_cons, List.drop_length, replace_nil]

/-! ## Replacing in two parts -/

/-- No occurrence of the pattern reaches from another text into this one, because no proper end of
the pattern is a beginning of it. -/
def NoneAcross (pattern s : List Char) : Prop :=
  ∀ t, t <:+ pattern → t ≠ pattern → t ≠ [] → ¬ t <+: s

theorem prefix_append_iff_of_noneAcross {pattern s : List Char} (h : NoneAcross pattern s)
    {c : Char} {rest : List Char} :
    pattern <+: c :: (rest ++ s) ↔ pattern <+: c :: rest := by
  refine ⟨fun hpre ↦ ?_, fun hpre ↦ hpre.trans ⟨s, rfl⟩⟩
  obtain ⟨more, hmore⟩ := hpre
  rw [← List.cons_append] at hmore
  rcases List.append_eq_append_iff.mp hmore with
    ⟨t, ht, -⟩ | ⟨t, ht, hs⟩
  · exact ⟨t, ht.symm⟩
  · -- The pattern goes on behind `c :: rest` with `t`, which has to be empty.
    by_cases hnil : t = []
    · exact ⟨[], by rw [ht, hnil, List.append_nil, List.append_nil]⟩
    · have hne : t ≠ pattern := fun heq ↦ by
        have hlength := congrArg List.length ht
        rw [heq, List.length_append, List.length_cons] at hlength
        omega
      exact absurd ⟨more, hs.symm⟩ (h t ⟨_, ht.symm⟩ hne hnil)

theorem replaceAfter_append {pattern s : List Char} (new : List Char) (h : NoneAcross pattern s)
    {skip : Nat} {u : List Char} (hskip : skip ≤ u.length) :
    replaceAfter pattern new skip (u ++ s) =
      replaceAfter pattern new skip u ++ replace pattern new s := by
  induction u generalizing skip with
  | nil =>
    rw [List.length_nil, Nat.le_zero] at hskip
    rw [hskip]
    rfl
  | cons c rest ih =>
    cases skip with
    | succ n => exact ih (Nat.le_of_succ_le_succ hskip)
    | zero =>
      have hiff : pattern.isPrefixOf (c :: (rest ++ s)) = pattern.isPrefixOf (c :: rest) := by
        rw [Bool.eq_iff_iff, List.isPrefixOf_iff_prefix, List.isPrefixOf_iff_prefix]
        exact prefix_append_iff_of_noneAcross h
      rw [List.cons_append, replaceAfter, replaceAfter, hiff]
      split
      · rename_i hpre
        rw [Bool.and_eq_true, List.isPrefixOf_iff_prefix] at hpre
        have hle : pattern.length ≤ (c :: rest).length := hpre.1.length_le
        rw [ih (by simp only [List.length_cons] at hle; omega), List.append_assoc]
      · rw [ih (Nat.zero_le _), List.cons_append]

/-- **Replacing goes part by part**, as long as no occurrence reaches from one into the other. -/
theorem replace_append {pattern s : List Char} (new u : List Char) (h : NoneAcross pattern s) :
    replace pattern new (u ++ s) = replace pattern new u ++ replace pattern new s :=
  replaceAfter_append new h (Nat.zero_le _)

theorem remove_append {pattern s : List Char} (u : List Char) (h : NoneAcross pattern s) :
    remove pattern (u ++ s) = remove pattern u ++ remove pattern s :=
  replace_append [] u h

/-- What occurs in a text made of two occurs in one of them. -/
theorem infix_append_iff_of_noneAcross {pattern s : List Char} (h : NoneAcross pattern s)
    (u : List Char) : pattern <:+: u ++ s ↔ pattern <:+: u ∨ pattern <:+: s := by
  induction u with
  | nil =>
    refine ⟨.inr, fun hin ↦ hin.elim (fun hnil ↦ ?_) id⟩
    rw [List.infix_nil.mp hnil]
    exact List.nil_infix
  | cons c rest ih =>
    rw [List.cons_append, List.infix_cons_iff, List.infix_cons_iff, ih,
      prefix_append_iff_of_noneAcross h, or_assoc]

/-- Nothing happens to a beginning that lacks the first character of the pattern. -/
theorem replace_append_of_not_mem {pattern u : List Char} {c : Char} (new s : List Char)
    (h : c ∉ u) : replace (c :: pattern) new (u ++ s) = u ++ replace (c :: pattern) new s := by
  induction u with
  | nil => rfl
  | cons d rest ih =>
    rw [List.mem_cons, not_or] at h
    rw [List.cons_append, replace_cons_of_not_startsWith (by simp [h.1]), ih h.2,
      List.cons_append]

/-- Nothing reaches into a text whose first character the pattern can only begin with. -/
theorem noneAcross_cons {pattern s : List Char} {c : Char} (h : c ∉ pattern.tail) :
    NoneAcross pattern (c :: s) := by
  rintro t ⟨front, rfl⟩ hne hnil ht
  obtain ⟨d, t, rfl⟩ := List.exists_cons_of_ne_nil hnil
  obtain rfl : d = c := (List.cons_prefix_cons.mp ht).1
  cases front with
  | nil => exact hne rfl
  | cons b front => exact h (by simp)

/-- Nothing reaches into a text whose first two characters are not next to each other in the
pattern, if the pattern does not end with the first of them. -/
theorem noneAcross_cons_cons {pattern s : List Char} {c d : Char} (h : ¬ [c, d] <:+: pattern)
    (hlast : pattern.getLast? ≠ some c) : NoneAcross pattern (c :: d :: s) := by
  rintro t ⟨front, rfl⟩ - hnil ht
  obtain ⟨e, t, rfl⟩ := List.exists_cons_of_ne_nil hnil
  obtain ⟨rfl, htail⟩ := List.cons_prefix_cons.mp ht
  cases t with
  | nil => simp at hlast
  | cons f t =>
    obtain rfl : f = d := (List.cons_prefix_cons.mp htail).1
    exact h ⟨front, t, by simp⟩

/-- Nothing reaches into a text that lacks the last character of the pattern. -/
theorem noneAcross_of_getLast? {pattern s : List Char} {c : Char}
    (hlast : pattern.getLast? = some c) (h : c ∉ s) : NoneAcross pattern s := by
  rintro t ⟨front, rfl⟩ - hnil ht
  rw [List.getLast?_append, List.getLast?_eq_some_getLast hnil, Option.some_or] at hlast
  exact h (ht.subset (Option.some.inj hlast ▸ List.getLast_mem hnil))

/-! ## Cutting at a character -/

theorem through_append_of_not_mem {c : Char} {t : List Char} (h : c ∉ t) (u : List Char) :
    through c (u ++ t) = through c u := by
  induction u with
  | nil => exact (through_eq_none_iff c t).mpr h
  | cons d rest ih => rw [List.cons_append, through, through, ih]

/-- What is cut begins where the text does. -/
theorem exists_of_through {c d : Char} {rest span : List Char}
    (h : through c (d :: rest) = some span) : ∃ more, span = d :: more := by
  rw [through] at h
  split at h
  · exact ⟨[], (Option.some.inj h).symm⟩
  · obtain ⟨more, -, rfl⟩ := Option.map_eq_some_iff.mp h
    exact ⟨more, rfl⟩

theorem getLast?_through {c : Char} {s span : List Char} (h : through c s = some span) :
    span.getLast? = some c := by
  induction s generalizing span with
  | nil => exact absurd h (by simp [through])
  | cons d rest ih =>
    rw [through] at h
    split at h
    · rename_i hd
      rw [← Option.some.inj h, List.getLast?_singleton, hd]
    · obtain ⟨more, hmore, rfl⟩ := Option.map_eq_some_iff.mp h
      rw [List.getLast?_cons, ih hmore, Option.getD_some]

theorem through_append_singleton {c : Char} {s : List Char} (h : c ∉ s) :
    through c (s ++ [c]) = some (s ++ [c]) := by
  induction s with
  | nil => simp [through]
  | cons d rest ih =>
    rw [List.mem_cons, not_or] at h
    rw [List.cons_append, through, if_neg (Ne.symm h.1), ih h.2, Option.map_some]

/-! ## Patterns of one character -/

theorem replace_singleton (c : Char) (new s : List Char) :
    replace [c] new s = s.flatMap fun d ↦ if d = c then new else [d] := by
  induction s with
  | nil => rfl
  | cons d rest ih =>
    rw [List.flatMap_cons, ← ih]
    by_cases h : d = c
    · subst h
      rw [replace_cons_of_startsWith (by simp), if_pos rfl]
      simp
    · rw [replace_cons_of_not_startsWith (by simpa using Ne.symm h), if_neg h]
      rfl

/-- Texts without the first of the new characters are told apart after the replacement. -/
theorem replace_singleton_inj {c d : Char} {new s t : List Char} (hs : d ∉ s) (ht : d ∉ t)
    (h : replace [c] (d :: new) s = replace [c] (d :: new) t) : s = t := by
  rw [replace_singleton, replace_singleton] at h
  induction s generalizing t with
  | nil =>
    cases t with
    | nil => rfl
    | cons f more =>
      rw [List.flatMap_nil, List.flatMap_cons] at h
      split at h <;> exact absurd h (by simp)
  | cons e rest ih =>
    cases t with
    | nil =>
      rw [List.flatMap_nil, List.flatMap_cons] at h
      split at h <;> exact absurd h (by simp)
    | cons f more =>
      rw [List.mem_cons, not_or] at hs ht
      rw [List.flatMap_cons, List.flatMap_cons] at h
      by_cases he : e = c
      · by_cases hf : f = c
        · rw [if_pos he, if_pos hf] at h
          rw [he, hf, ih hs.2 ht.2 (List.append_cancel_left h)]
        · rw [if_pos he, if_neg hf] at h
          exact absurd (List.cons.inj h).1 ht.1
      · by_cases hf : f = c
        · rw [if_neg he, if_pos hf] at h
          exact absurd (List.cons.inj h).1.symm hs.1
        · rw [if_neg he, if_neg hf] at h
          obtain ⟨rfl, hrest⟩ := List.cons.inj h
          rw [ih hs.2 ht.2 hrest]

/-- Texts that do not have the new character are told apart after the replacement. -/
theorem replace_char_inj {c d : Char} {s t : List Char} (hs : d ∉ s) (ht : d ∉ t)
    (h : replace [c] [d] s = replace [c] [d] t) : s = t :=
  replace_singleton_inj hs ht h

end AnimeLookup.Text
