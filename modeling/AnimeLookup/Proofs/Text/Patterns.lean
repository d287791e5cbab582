import AnimeLookup.Text.Blank

/-!
# Patterns, and what is removed by them

A pattern is a sequence of parts, and a part stands for one character of a class, for any number of
them, or for the end of the text.  A part may match in several ways.  They are tried in an order,
with the longest first, and the first way that lets the other parts match as well is taken;
`rests` lists what the ways leave of the text, in that order.

A pattern is looked for from the left: the first place where it matches is taken, in the first way
in which it matches there (`cut`).  `removeFirst` removes that match.  `RemovesAll` goes on behind
it until there is no match left.

Patterns are a second description of the passes that make a query from a title.  The passes
themselves are scans and do not use them; here is what is needed to compare the two.  For a pattern
that can match in one way only it is enough to know where it matches at all (`head?_rests`), and a
match is the first one if there is none that begins before it (`cut_append`).
-/

set_option autoImplicit false

namespace AnimeLookup.Text

/-! ## Patterns -/

/-- A part of a pattern. -/
inductive Part where
  /-- One character of a class. -/
  | one (p : Char → Bool)
  /-- One character of a class, or none. -/
  | optional (p : Char → Bool)
  /-- Any number of characters of a class. -/
  | many (p : Char → Bool)
  /-- The end of the text. -/
  | atEnd

/-- What `many p` may leave of a text, after the longest match first. -/
def restsOfMany (p : Char → Bool) : List Char → List (List Char)
  | [] => [[]]
  | c :: s => if p c then restsOfMany p s ++ [c :: s] else [c :: s]

/-- What a part may leave of a text that it matches at the beginning, in the order in which the
matches are tried. -/
def Part.rests : Part → List Char → List (List Char)
  | one p, c :: s => if p c then [s] else []
  | one _, [] => []
  | optional p, c :: s => if p c then [s, c :: s] else [c :: s]
  | optional _, [] => [[]]
  | many p, s => restsOfMany p s
  | atEnd, [] => [[]]
  | atEnd, _ :: _ => []

/-- **What a pattern may leave of a text that it matches at the beginning**, in the order in which
the matches are tried. -/
def rests : List Part → List Char → List (List Char)
  | [], s => [s]
  | part :: pattern, s => (part.rests s).flatMap (rests pattern)

/-- **The first match of a pattern**: what is before it and what is behind it. -/
def cut (pattern : List Part) : List Char → Option (List Char × List Char)
  | [] => (rests pattern []).head?.map ([], ·)
  | c :: s =>
    match (rests pattern (c :: s)).head? with
    | some rest => some ([], rest)
    | none => (cut pattern s).map fun parts ↦ (c :: parts.1, parts.2)

/-- The text without the first match. -/
def removeFirst (pattern : List Part) (s : List Char) : List Char :=
  match cut pattern s with
  | some (before, rest) => before ++ rest
  | none => s

/-- **The text `t` is `s` without all matches**, each of which is the first one behind the match
before it. -/
inductive RemovesAll (pattern : List Part) : List Char → List Char → Prop
  /-- There is no match. -/
  | done {s : List Char} (h : cut pattern s = none) : RemovesAll pattern s s
  /-- The first match is removed, and the matches behind it. -/
  | next {s before rest t : List Char} (h : cut pattern s = some (before, rest))
      (ht : RemovesAll pattern rest t) : RemovesAll pattern s (before ++ t)

/-! ## Where a part matches -/

section Parts

variable {p : Char → Bool} {s rest : List Char}

theorem mem_rests_one : rest ∈ (Part.one p).rests s ↔ ∃ c, p c = true ∧ s = c :: rest := by
  cases s with
  | nil => simp [Part.rests]
  | cons c s =>
    rw [Part.rests]
    split
    · rename_i h
      rw [List.mem_singleton]
      refine ⟨fun heq ↦ ⟨c, h, by rw [heq]⟩, ?_⟩
      rintro ⟨_, -, heq⟩
      exact (List.cons.inj heq).2.symm
    · rename_i h
      refine iff_of_false List.not_mem_nil ?_
      rintro ⟨d, hd, heq⟩
      exact h ((List.cons.inj heq).1 ▸ hd)

/-- An optional character is one character or none. -/
theorem mem_rests_optional :
    rest ∈ (Part.optional p).rests s ↔ rest = s ∨ rest ∈ (Part.one p).rests s := by
  cases s with
  | nil => simp [Part.rests]
  | cons c s =>
    rw [Part.rests, Part.rests]
    split
    · rw [List.mem_cons, List.mem_singleton, List.mem_singleton, or_comm]
    · rw [List.mem_singleton, or_iff_left List.not_mem_nil]

theorem mem_rests_many :
    rest ∈ (Part.many p).rests s ↔ ∃ u, (∀ c ∈ u, p c = true) ∧ s = u ++ rest := by
  rw [Part.rests]
  induction s with
  | nil =>
    rw [restsOfMany, List.mem_singleton]
    refine ⟨fun h ↦ ⟨[], by simp, by rw [h, List.append_nil]⟩, ?_⟩
    rintro ⟨u, -, h⟩
    exact (List.append_eq_nil_iff.mp h.symm).2
  | cons c s ih =>
    have hnone : rest = c :: s → ∃ u, (∀ c ∈ u, p c = true) ∧ c :: s = u ++ rest :=
      fun h ↦ ⟨[], by simp, h.symm⟩
    rw [restsOfMany]
    split
    · rename_i hc
      rw [List.mem_append, List.mem_singleton, ih]
      constructor
      · rintro (⟨u, hu, rfl⟩ | h)
        · exact ⟨c :: u, List.forall_mem_cons.mpr ⟨hc, hu⟩, rfl⟩
        · exact hnone h
      · rintro ⟨_ | ⟨d, u⟩, hu, h⟩
        · exact .inr h.symm
        · exact .inl ⟨u, (List.forall_mem_cons.mp hu).2, (List.cons.inj h).2⟩
    · rename_i hc
      rw [List.mem_singleton]
      refine ⟨hnone, ?_⟩
      rintro ⟨_ | ⟨d, u⟩, hu, h⟩
      · exact h.symm
      · exact absurd ((List.cons.inj h).1 ▸ (List.forall_mem_cons.mp hu).1) hc

theorem mem_rests_atEnd : rest ∈ Part.atEnd.rests s ↔ s = [] ∧ rest = [] := by
  cases s <;> simp [Part.rests]

theorem mem_rests_nil : rest ∈ rests [] s ↔ rest = s := by rw [rests, List.mem_singleton]

theorem mem_rests_cons {part : Part} {pattern : List Part} :
    rest ∈ rests (part :: pattern) s ↔ ∃ t ∈ part.rests s, rest ∈ rests pattern t := by
  rw [rests, List.mem_flatMap]

/-- At least one character of a class. -/
theorem mem_rests_some {pattern : List Part} :
    rest ∈ rests (.one p :: .many p :: pattern) s ↔
      ∃ u t, u ≠ [] ∧ (∀ c ∈ u, p c = true) ∧ s = u ++ t ∧ rest ∈ rests pattern t := by
  simp only [mem_rests_cons, mem_rests_one, mem_rests_many]
  constructor
  · rintro ⟨_, ⟨c, hc, rfl⟩, t, ⟨u, hu, rfl⟩, hrest⟩
    exact ⟨c :: u, t, List.cons_ne_nil c u, List.forall_mem_cons.mpr ⟨hc, hu⟩, rfl, hrest⟩
  · rintro ⟨_ | ⟨c, u⟩, t, hne, hu, rfl, hrest⟩
    · exact absurd rfl hne
    · obtain ⟨hc, hu⟩ := List.forall_mem_cons.mp hu
      exact ⟨_, ⟨c, hc, rfl⟩, t, ⟨u, hu, rfl⟩, hrest⟩

/-- Where a pattern matches in one way only, that way is taken. -/
theorem head?_rests {pattern : List Part} (h : rest ∈ rests pattern s)
    (hunique : ∀ t ∈ rests pattern s, t = rest) : (rests pattern s).head? = some rest := by
  obtain ⟨first, others, hrests⟩ := List.exists_cons_of_ne_nil (List.ne_nil_of_mem h)
  rw [hrests, List.head?_cons, hunique first (hrests ▸ List.mem_cons_self)]

end Parts

/-! ## The first match -/

section Cut

variable {pattern : List Part} {s rest : List Char}

theorem cut_of_nil {c : Char} (h : rests pattern (c :: s) = []) :
    cut pattern (c :: s) = (cut pattern s).map fun parts ↦ (c :: parts.1, parts.2) := by
  rw [cut, h]
  rfl

theorem cut_of_head? (h : (rests pattern s).head? = some rest) :
    cut pattern s = some ([], rest) := by
  cases s with
  | nil => rw [cut, h, Option.map_some]
  | cons c s => rw [cut, h]

/-- Without a match that begins in `u`, the first match is one of what follows. -/
theorem cut_append {u : List Char} (h : ∀ v, v <:+ u → v ≠ [] → rests pattern (v ++ s) = []) :
    cut pattern (u ++ s) = (cut pattern s).map fun parts ↦ (u ++ parts.1, parts.2) := by
  induction u with
  | nil => simp
  | cons c u ih =>
    have hc : rests pattern (c :: (u ++ s)) = [] := h _ List.suffix_rfl (by simp)
    rw [List.cons_append, cut_of_nil hc,
      ih fun v hv ↦ h v (hv.trans (List.suffix_cons c u)), Option.map_map]
    rfl

/-- A text in which the pattern matches nowhere has no first match. -/
theorem cut_eq_none (h : ∀ v, v <:+ s → rests pattern v = []) : cut pattern s = none := by
  induction s with
  | nil => rw [cut, h [] List.suffix_rfl, List.head?_nil, Option.map_none]
  | cons c s ih =>
    rw [cut_of_nil (h _ List.suffix_rfl), ih fun v hv ↦ h v (hv.trans (List.suffix_cons c s)),
      Option.map_none]

/-- Two ways of removing all matches remove the same. -/
theorem RemovesAll.unique {t t' : List Char} (h : RemovesAll pattern s t)
    (h' : RemovesAll pattern s t') : t = t' := by
  induction h generalizing t' with
  | done h =>
    cases h' with
    | done => rfl
    | next h' => exact absurd (h.symm.trans h') (by simp)
  | next h _ ih =>
    cases h' with
    | done h' => exact absurd (h'.symm.trans h) (by simp)
    | next h' ht' =>
      obtain ⟨rfl, rfl⟩ := Prod.mk.inj (Option.some.inj (h.symm.trans h'))
      rw [ih ht']

/-- Nothing is removed from a beginning in which no match begins. -/
theorem RemovesAll.append {u t : List Char}
    (h : ∀ v, v <:+ u → v ≠ [] → rests pattern (v ++ s) = []) (ht : RemovesAll pattern s t) :
    RemovesAll pattern (u ++ s) (u ++ t) := by
  cases ht with
  | done hs => exact .done (by rw [cut_append h, hs, Option.map_none])
  | next hs ht =>
    rw [← List.append_assoc]
    exact .next (by rw [cut_append h, hs, Option.map_some]) ht

end Cut

end AnimeLookup.Text
