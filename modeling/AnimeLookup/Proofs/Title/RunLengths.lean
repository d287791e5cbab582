import AnimeLookup.Proofs.Text.SmallLetters
import AnimeLookup.Title.SymbolRun
import Mathlib.Data.Finset.Card
import Mathlib.Data.List.SplitBy
import Mathlib.Logic.Function.Iterate

/-!
# The runs of a symbol and their lengths

`symbolRun` goes over a text twice, once to measure the longest run and once to write its length.
Here the text is cut into its runs and what is between them (`pieces`), and both walks are told in
terms of the pieces: the one finds the greatest of the lengths (`longestRun_eq_max`), and the other
writes a number for each piece of that length and leaves the other pieces alone
(`countRunsAfter_eq_numberRuns`).

What is written for a run is a numeral, so unless the symbol is a digit it has no run in it, and
it stands where the run stood, between the same two characters.  So the lengths of the runs that are
left are those of the other runs (`runLengths_numberRuns`), and the number of different lengths
goes down by one with each application of `symbolRun`, until there are none
(`symbolRun_numbers_longest`).
-/

set_option autoImplicit false

namespace AnimeLookup.Title

open Text

/-! ## Pieces -/

/-- **The pieces of a text**: its longest stretches of characters that all have the property or all
lack it.  The text is cut between two characters exactly if one of them has the property and the
other does not. -/
def pieces (p : Char → Bool) (s : List Char) : List (List Char) :=
  s.splitBy fun c d ↦ p c == p d

/-- **The lengths of the runs**, which are the pieces of characters with the property. -/
def runLengths (p : Char → Bool) (s : List Char) : List Nat :=
  ((pieces p s).filter (·.all p)).map List.length

/-- The number of different lengths that the runs have. -/
def distinctRunLengths (p : Char → Bool) (s : List Char) : Nat := (runLengths p s).toFinset.card

/-- The text with the runs of the given length replaced by that length in decimal. -/
def numberRuns (p : Char → Bool) (length : Nat) (s : List Char) : List Char :=
  (pieces p s).flatMap fun piece ↦
    if piece.all p = true ∧ piece.length = length then decimal length else piece

/-- **The text with its longest runs replaced by their length in decimal.** -/
def numberLongestRuns (p : Char → Bool) (s : List Char) : List Char :=
  match (runLengths p s).max? with
  | none => s
  | some longest => numberRuns p longest s

section Pieces

variable {p : Char → Bool} {s t : List Char}

/-- A text is cut between two characters of which one has the property and the other does not. -/
theorem pieces_append (h : ∀ c ∈ s.getLast?, ∀ d ∈ t.head?, p c ≠ p d) :
    pieces p (s ++ t) = pieces p s ++ pieces p t :=
  List.splitBy_append fun c hc d hd ↦ beq_false_of_ne (h c hc d hd)

theorem pieces_of_same {b : Bool} (hne : s ≠ []) (h : ∀ c ∈ s, p c = b) : pieces p s = [s] := by
  refine List.splitBy_of_isChain hne (List.Pairwise.isChain ?_)
  refine List.pairwise_of_forall_mem_list fun c hc d hd ↦ ?_
  rw [h c hc, h d hd, beq_self_eq_true]

/-- Such a place is in front of a run. -/
theorem ne_of_before_run (hs : ∀ c ∈ s.getLast?, p c = false) (ht : ∀ d ∈ t, p d = true) :
    ∀ c ∈ s.getLast?, ∀ d ∈ t.head?, p c ≠ p d := fun c hc d hd ↦ by
  rw [hs c hc, ht d (List.mem_of_head? hd)]
  exact Bool.false_ne_true

/-- The first piece of a text. -/
theorem pieces_append_of_same {b : Bool} (hne : s ≠ []) (h : ∀ c ∈ s, p c = b)
    (ht : ∀ c ∈ t.head?, p c = !b) : pieces p (s ++ t) = s :: pieces p t := by
  rw [pieces_append fun c hc d hd ↦ ?_, pieces_of_same hne h, List.singleton_append]
  rw [h c (List.mem_of_getLast? hc), ht d hd]
  exact Bool.self_ne_not b

/-- A text begins with a piece, which goes as far as the property is that of the first character. -/
theorem exists_first_piece (p : Char → Bool) (c : Char) (rest : List Char) :
    ∃ u t, c :: rest = u ++ t ∧ u ≠ [] ∧ (∀ d ∈ u, p d = p c) ∧ ∀ d ∈ t.head?, p d = !p c := by
  refine ⟨c :: rest.takeWhile (p · == p c), rest.dropWhile (p · == p c), ?_,
    List.cons_ne_nil _ _, ?_, ?_⟩
  · rw [List.cons_append, List.takeWhile_append_dropWhile]
  · intro d hd
    rcases List.mem_cons.mp hd with rfl | hd
    · rfl
    · exact eq_of_beq (List.all_eq_true.mp List.all_takeWhile d hd)
  · intro d hd
    have hnot := List.head?_dropWhile_not (p · == p c) rest
    rw [hd] at hnot
    exact Bool.eq_not_of_ne (ne_of_beq_false hnot)

/-- **Induction on the pieces of a text**, with one case for a run and one for what is between
runs. -/
@[elab_as_elim]
theorem pieces_induction (p : Char → Bool) {motive : List Char → Prop} (nil : motive [])
    (run : ∀ u t, u ≠ [] → (∀ c ∈ u, p c = true) → (∀ c ∈ t.head?, p c = false) →
      motive t → motive (u ++ t))
    (between : ∀ u t, u ≠ [] → (∀ c ∈ u, p c = false) → (∀ c ∈ t.head?, p c = true) →
      motive t → motive (u ++ t)) (s : List Char) : motive s := by
  induction hlength : s.length using Nat.strongRecOn generalizing s with
  | ind n ih =>
    cases s with
    | nil => exact nil
    | cons c rest =>
      obtain ⟨u, t, hsplit, hne, hu, ht⟩ := exists_first_piece p c rest
      have hrest : motive t := by
        refine ih _ ?_ _ rfl
        have hpos := List.length_pos_iff.mpr hne
        rw [← hlength, hsplit, List.length_append]
        omega
      rw [hsplit]
      cases hc : p c with
      | true =>
        rw [hc] at hu ht
        exact run u t hne hu ht hrest
      | false =>
        rw [hc] at hu ht
        exact between u t hne hu ht hrest

end Pieces

/-! ## Lengths of runs -/

section Lengths

variable {p : Char → Bool} {u t : List Char}

@[simp] theorem runLengths_nil : runLengths p [] = [] := rfl

theorem runLengths_append (h : ∀ c ∈ u.getLast?, ∀ d ∈ t.head?, p c ≠ p d) :
    runLengths p (u ++ t) = runLengths p u ++ runLengths p t := by
  rw [runLengths, pieces_append h, List.filter_append, List.map_append, ← runLengths, ← runLengths]

/-- A run counts with its length. -/
theorem runLengths_run (hne : u ≠ []) (hu : ∀ c ∈ u, p c = true)
    (ht : ∀ c ∈ t.head?, p c = false) :
    runLengths p (u ++ t) = u.length :: runLengths p t := by
  rw [runLengths, pieces_append_of_same hne hu ht, List.filter_cons,
    if_pos (List.all_eq_true.mpr hu), List.map_cons, ← runLengths]

theorem not_all_of_none (hne : u ≠ []) (hu : ∀ c ∈ u, p c = false) : ¬ u.all p = true := by
  intro hall
  obtain ⟨c, hc⟩ := List.exists_mem_of_ne_nil u hne
  exact Bool.false_ne_true ((hu c hc).symm.trans (List.all_eq_true.mp hall c hc))

theorem runLengths_between (hne : u ≠ []) (hu : ∀ c ∈ u, p c = false)
    (ht : ∀ c ∈ t.head?, p c = true) : runLengths p (u ++ t) = runLengths p t := by
  rw [runLengths, pieces_append_of_same hne hu ht, List.filter_cons,
    if_neg (not_all_of_none hne hu), ← runLengths]

/-- **Text without the property in front of another one brings no run and lengthens none.** -/
theorem runLengths_append_of_none (hu : ∀ c ∈ u, p c = false) (t : List Char) :
    runLengths p (u ++ t) = runLengths p t := by
  by_cases hne : u = []
  · rw [hne, List.nil_append]
  induction t using pieces_induction p with
  | nil => exact runLengths_between hne hu (by simp)
  | run v t hv hrun _ _ =>
    refine runLengths_between hne hu fun c hc ↦ ?_
    rw [List.head?_append_of_ne_nil _ hv] at hc
    exact hrun c (List.mem_of_head? hc)
  | between v t hv hnone ht _ =>
    -- The two texts without the property make one piece.
    have hboth : ∀ c ∈ u ++ v, p c = false := List.forall_mem_append.mpr ⟨hu, hnone⟩
    rw [← List.append_assoc, runLengths_between (by simp [hne]) hboth ht,
      runLengths_between hv hnone ht]

/-- There are runs exactly if there are characters with the property. -/
theorem runLengths_eq_nil_iff (p : Char → Bool) (s : List Char) :
    runLengths p s = [] ↔ ∀ c ∈ s, p c = false := by
  induction s using pieces_induction p with
  | nil => simp
  | run u t hne hu ht _ =>
    obtain ⟨c, hc⟩ := List.exists_mem_of_ne_nil u hne
    rw [runLengths_run hne hu ht]
    refine iff_of_false (List.cons_ne_nil _ _) fun hnone ↦ ?_
    exact Bool.false_ne_true ((hnone c (List.mem_append_left t hc)).symm.trans (hu c hc))
  | between u t _ hu _ ih => rw [runLengths_append_of_none hu, ih, List.forall_mem_append,
      and_iff_right hu]

theorem runLengths_pos {k : Nat} {s : List Char} (h : k ∈ runLengths p s) : 0 < k := by
  obtain ⟨piece, hpiece, rfl⟩ := List.mem_map.mp h
  exact List.length_pos_iff.mpr (List.ne_nil_of_mem_splitBy (List.mem_of_mem_filter hpiece))

end Lengths

/-! ## The longest run -/

section Longest

variable {p : Char → Bool}

theorem longestRunAfter_run {u : List Char} (hu : ∀ c ∈ u, p c = true) (current : Nat)
    (t : List Char) : longestRunAfter p current (u ++ t) =
      longestRunAfter p (current + u.length) t := by
  induction u generalizing current with
  | nil => rfl
  | cons c rest ih =>
    obtain ⟨hc, hrest⟩ := List.forall_mem_cons.mp hu
    rw [List.cons_append, longestRunAfter, if_pos hc, ih hrest, List.length_cons]
    congr 1
    omega

/-- A run that has been passed competes with those that follow. -/
theorem longestRunAfter_eq_max {t : List Char} (ht : ∀ c ∈ t.head?, p c = false) (current : Nat) :
    longestRunAfter p current t = max current (longestRun p t) := by
  cases t with
  | nil => exact (Nat.max_zero current).symm
  | cons c rest =>
    have hc : ¬ p c = true := by simp [ht c rfl]
    rw [longestRun, longestRunAfter, longestRunAfter, if_neg hc, if_neg hc, Nat.zero_max]

theorem longestRun_between {u : List Char} (hu : ∀ c ∈ u, p c = false) (t : List Char) :
    longestRun p (u ++ t) = longestRun p t := by
  induction u with
  | nil => rfl
  | cons c rest ih =>
    obtain ⟨hc, hrest⟩ := List.forall_mem_cons.mp hu
    rw [List.cons_append, longestRun, longestRunAfter, hc, if_neg Bool.false_ne_true,
      Nat.zero_max]
    exact ih hrest

/-- **The longest run has the greatest of the lengths**, or no length if there is none. -/
theorem longestRun_eq_max (p : Char → Bool) (s : List Char) :
    longestRun p s = (runLengths p s).max?.getD 0 := by
  induction s using pieces_induction p with
  | nil => rfl
  | run u t hne hu ht ih =>
    rw [longestRun, longestRunAfter_run hu, Nat.zero_add, longestRunAfter_eq_max ht, ih,
      runLengths_run hne hu ht, List.max?_cons]
    cases (runLengths p t).max? with
    | none => exact Nat.max_zero _
    | some longest => rfl
  | between u t _ hu _ ih => rw [longestRun_between hu, ih, runLengths_append_of_none hu]

theorem le_longestRun {k : Nat} {s : List Char} (h : k ∈ runLengths p s) : k ≤ longestRun p s := by
  rw [longestRun_eq_max]
  cases hlongest : (runLengths p s).max? with
  | none => exact absurd h (by simp [List.max?_eq_none_iff.mp hlongest])
  | some longest => exact (List.max?_eq_some_iff.mp hlongest).2 k h

theorem runLengths_of_all {u : List Char} (hne : u ≠ []) (hu : ∀ c ∈ u, p c = true) :
    runLengths p u = [u.length] := by
  have h := runLengths_run (t := []) hne hu (by simp)
  rwa [List.append_nil] at h

theorem max?_concat {lengths : List Nat} {longest : Nat} (h : lengths.max? = some longest)
    (k : Nat) : (lengths ++ [k]).max? = some (max longest k) := by
  obtain ⟨hmem, hle⟩ := List.max?_eq_some_iff.mp h
  refine List.max?_eq_some_iff.mpr ⟨?_, fun m hm ↦ ?_⟩
  · rw [Nat.max_def]
    split
    · exact List.mem_append_right _ List.mem_cons_self
    · exact List.mem_append_left _ hmem
  · rcases List.mem_append.mp hm with hm | hm
    · exact (hle m hm).trans (Nat.le_max_left _ _)
    · exact (List.mem_singleton.mp hm).le.trans (Nat.le_max_right _ _)

/-- A run behind a text competes with those in it. -/
theorem longestRun_append_run {s u : List Char} (hs : ∀ c ∈ s.getLast?, p c = false) (hne : u ≠ [])
    (hu : ∀ c ∈ u, p c = true) : longestRun p (s ++ u) = max (longestRun p s) u.length := by
  rw [longestRun_eq_max, longestRun_eq_max, runLengths_append (ne_of_before_run hs hu),
    runLengths_of_all hne hu]
  cases hlongest : (runLengths p s).max? with
  | none => rw [List.max?_eq_none_iff.mp hlongest, Option.getD_none, Nat.zero_max]; rfl
  | some longest => rw [max?_concat hlongest, Option.getD_some, Option.getD_some]

end Longest

/-! ## Writing lengths -/

section Numbering

variable {p : Char → Bool} {length : Nat} {u s t : List Char}

@[simp] theorem numberRuns_nil : numberRuns p length [] = [] := rfl

theorem numberRuns_append (h : ∀ c ∈ s.getLast?, ∀ d ∈ t.head?, p c ≠ p d) :
    numberRuns p length (s ++ t) = numberRuns p length s ++ numberRuns p length t := by
  rw [numberRuns, pieces_append h, List.flatMap_append, ← numberRuns, ← numberRuns]

theorem numberRuns_run (hne : u ≠ []) (hu : ∀ c ∈ u, p c = true)
    (ht : ∀ c ∈ t.head?, p c = false) :
    numberRuns p length (u ++ t) = writeRun length u ++ numberRuns p length t := by
  have hall : u.all p = true := List.all_eq_true.mpr hu
  rw [numberRuns, pieces_append_of_same hne hu ht, List.flatMap_cons, ← numberRuns, writeRun]
  simp only [hall, true_and]

theorem numberRuns_between (hne : u ≠ []) (hu : ∀ c ∈ u, p c = false)
    (ht : ∀ c ∈ t.head?, p c = true) :
    numberRuns p length (u ++ t) = u ++ numberRuns p length t := by
  rw [numberRuns, pieces_append_of_same hne hu ht, List.flatMap_cons,
    if_neg fun h ↦ not_all_of_none hne hu h.1, ← numberRuns]

theorem numberRuns_of_all (hne : u ≠ []) (hu : ∀ c ∈ u, p c = true) :
    numberRuns p length u = writeRun length u := by
  have h : numberRuns p length (u ++ []) = writeRun length u ++ numberRuns p length [] :=
    numberRuns_run hne hu (by simp)
  rwa [List.append_nil, numberRuns_nil, List.append_nil] at h

/-- Where no run has the length, nothing is written. -/
theorem numberRuns_eq_self (h : length ∉ runLengths p s) : numberRuns p length s = s := by
  have hpiece : ∀ piece ∈ pieces p s, (if piece.all p = true ∧ piece.length = length then
      decimal length else piece) = piece := fun piece hpiece ↦ if_neg fun ⟨hall, hlength⟩ ↦
    h (List.mem_map.mpr ⟨piece, List.mem_filter.mpr ⟨hpiece, hall⟩, hlength⟩)
  rw [numberRuns, List.flatMap_congr hpiece, List.flatMap_id', pieces, List.flatten_splitBy]

end Numbering

section Writing

variable {p : Char → Bool} {length : Nat} (hlength : length ≠ 0)

theorem countRunsAfter_run {u : List Char} (hu : ∀ c ∈ u, p c = true) (passed t : List Char) :
    countRunsAfter p length passed (u ++ t) = countRunsAfter p length (passed ++ u) t := by
  induction u generalizing passed with
  | nil => rw [List.nil_append, List.append_nil]
  | cons c rest ih =>
    obtain ⟨hc, hrest⟩ := List.forall_mem_cons.mp hu
    rw [List.cons_append, countRunsAfter, if_pos hc, ih hrest, List.append_assoc,
      List.singleton_append]

include hlength

theorem writeRun_nil : writeRun length [] = [] := if_neg (Ne.symm hlength)

/-- A run that has been passed is written before what follows. -/
theorem countRunsAfter_eq_append {t : List Char} (ht : ∀ c ∈ t.head?, p c = false)
    (passed : List Char) :
    countRunsAfter p length passed t = writeRun length passed ++ countRunsAfter p length [] t := by
  cases t with
  | nil => rw [countRunsAfter, countRunsAfter, writeRun_nil hlength, List.append_nil]
  | cons c rest =>
    have hc : ¬ p c = true := by simp [ht c rfl]
    rw [countRunsAfter, countRunsAfter, if_neg hc, if_neg hc, writeRun_nil hlength,
      List.nil_append]

theorem countRunsAfter_between {u : List Char} (hu : ∀ c ∈ u, p c = false) (t : List Char) :
    countRunsAfter p length [] (u ++ t) = u ++ countRunsAfter p length [] t := by
  induction u with
  | nil => rfl
  | cons c rest ih =>
    obtain ⟨hc, hrest⟩ := List.forall_mem_cons.mp hu
    rw [List.cons_append, countRunsAfter, hc, if_neg Bool.false_ne_true, writeRun_nil hlength,
      ih hrest]
    rfl

/-- **The second walk writes a number for each piece that is a run of the given length.** -/
theorem countRunsAfter_eq_numberRuns (s : List Char) :
    countRunsAfter p length [] s = numberRuns p length s := by
  induction s using pieces_induction p with
  | nil => exact writeRun_nil hlength
  | run u t hne hu ht ih =>
    rw [countRunsAfter_run hu, List.nil_append, countRunsAfter_eq_append hlength ht, ih,
      numberRuns_run hne hu ht]
  | between u t hne hu ht ih =>
    rw [countRunsAfter_between hlength hu, ih, numberRuns_between hne hu ht]

/-- A text that begins between runs still does so when they are written as numbers. -/
theorem head?_numberRuns {t : List Char} (ht : ∀ c ∈ t.head?, p c = false) :
    ∀ c ∈ (numberRuns p length t).head?, p c = false := by
  rw [← countRunsAfter_eq_numberRuns hlength]
  cases t with
  | nil =>
    rw [countRunsAfter, writeRun_nil hlength]
    exact ht
  | cons c rest =>
    have hc : ¬ p c = true := by simp [ht c rfl]
    rw [countRunsAfter, if_neg hc, writeRun_nil hlength]
    exact ht

/-- **A number is no run**, so the runs that are left are the others, as long as before. -/
theorem runLengths_numberRuns (hdigit : ∀ c, c.isDigit = true → p c = false) (s : List Char) :
    runLengths p (numberRuns p length s) = (runLengths p s).filter (· ≠ length) := by
  induction s using pieces_induction p with
  | nil => rfl
  | run u t hne hu ht ih =>
    rw [numberRuns_run hne hu ht, runLengths_run hne hu ht, List.filter_cons, writeRun]
    split
    · rename_i heq
      have hnumeral : ∀ c ∈ decimal length, p c = false := fun c hc ↦
        hdigit c (List.all_eq_true.mp (all_isDigit_decimal length) c hc)
      rw [runLengths_append_of_none hnumeral, ih, if_neg (by simpa using heq)]
    · rename_i hother
      rw [runLengths_run hne hu (head?_numberRuns hlength ht), ih, if_pos (by simpa using hother)]
  | between u t hne hu ht ih =>
    rw [numberRuns_between hne hu ht, runLengths_append_of_none hu, ih,
      runLengths_append_of_none hu]

end Writing

/-! ## Counting the runs of a symbol -/

section Counting

variable {symbol : Char} {s : List Char}

/-- Without the symbol there is nothing to count. -/
theorem symbolRun_eq_self (h : ∀ c ∈ s, sameUpToCase symbol c = false) : symbolRun symbol s = s :=
  if_pos ((longestRun_eq_zero_iff _ s).mpr h)

/-- **Both walks together**: the runs of the greatest length are written as numbers. -/
theorem symbolRun_eq_numberRuns (symbol : Char) (s : List Char) :
    symbolRun symbol s =
      numberRuns (sameUpToCase symbol) (longestRun (sameUpToCase symbol) s) s := by
  rw [symbolRun]
  split
  · rename_i hzero
    rw [hzero]
    exact (numberRuns_eq_self fun h ↦ Nat.lt_irrefl 0 (runLengths_pos h)).symm
  · rename_i hlongest
    exact countRunsAfter_eq_numberRuns hlongest s

theorem symbolRun_of_longest {longest : Nat}
    (h : (runLengths (sameUpToCase symbol) s).max? = some longest) :
    symbolRun symbol s = numberRuns (sameUpToCase symbol) longest s := by
  rw [symbolRun_eq_numberRuns, longestRun_eq_max, h, Option.getD_some]

/-- **Each application takes one length away**: the greatest of those that the runs have. -/
theorem distinctRunLengths_symbolRun (hsymbol : symbol.isDigit = false) (s : List Char) :
    distinctRunLengths (sameUpToCase symbol) (symbolRun symbol s) =
      distinctRunLengths (sameUpToCase symbol) s - 1 := by
  have hdigit : ∀ c, c.isDigit = true → sameUpToCase symbol c = false := fun c hc ↦
    eq_false_of_ne_true fun hsame ↦
      Bool.false_ne_true (hsymbol.symm.trans (isDigit_of_sameUpToCase hc hsame))
  cases hlongest : (runLengths (sameUpToCase symbol) s).max? with
  | none =>
    have hnil := List.max?_eq_none_iff.mp hlongest
    rw [symbolRun_eq_self ((runLengths_eq_nil_iff _ s).mp hnil), distinctRunLengths, hnil]
    rfl
  | some longest =>
    have hmem := (List.max?_eq_some_iff.mp hlongest).1
    have hpos := Nat.ne_of_gt (runLengths_pos hmem)
    have hfilter : ((runLengths (sameUpToCase symbol) s).filter (· ≠ longest)).toFinset =
        (runLengths (sameUpToCase symbol) s).toFinset.erase longest := by
      ext k
      simp [and_comm]
    rw [symbolRun_of_longest hlongest, distinctRunLengths,
      runLengths_numberRuns hpos hdigit, hfilter,
      Finset.card_erase_of_mem (List.mem_toFinset.mpr hmem), ← distinctRunLengths]

theorem distinctRunLengths_eq_zero_iff (p : Char → Bool) (s : List Char) :
    distinctRunLengths p s = 0 ↔ ∀ c ∈ s, p c = false := by
  rw [distinctRunLengths, Finset.card_eq_zero, List.toFinset_eq_empty_iff, runLengths_eq_nil_iff]

/-- Only a text without the symbol stays as it is. -/
theorem symbolRun_eq_self_iff (hsymbol : symbol.isDigit = false) :
    symbolRun symbol s = s ↔ ∀ c ∈ s, sameUpToCase symbol c = false := by
  refine ⟨fun h ↦ ?_, symbolRun_eq_self⟩
  have hless := distinctRunLengths_symbolRun hsymbol s
  rw [h] at hless
  exact (distinctRunLengths_eq_zero_iff _ s).mp (by omega)

theorem distinctRunLengths_iterate (hsymbol : symbol.isDigit = false) (s : List Char) (n : Nat) :
    distinctRunLengths (sameUpToCase symbol) ((symbolRun symbol)^[n] s) =
      distinctRunLengths (sameUpToCase symbol) s - n := by
  induction n with
  | zero => rfl
  | succ n ih =>
    rw [Function.iterate_succ_apply', distinctRunLengths_symbolRun hsymbol, ih]
    omega

/-- **Counting the runs of a symbol**, cut out of the text as its pieces: those that are as long as
the longest one are replaced by their length in decimal, and everything else stays.  Done again and
again, it takes the lengths away one at a time, until the symbol is gone. -/
theorem symbolRun_numbers_longest (symbol : Char) (s : List Char) :
    symbolRun symbol s = numberLongestRuns (sameUpToCase symbol) s ∧
      (symbol.isDigit = false →
        (∀ n, distinctRunLengths (sameUpToCase symbol) ((symbolRun symbol)^[n] s) =
          distinctRunLengths (sameUpToCase symbol) s - n) ∧
        ∀ n, distinctRunLengths (sameUpToCase symbol) s ≤ n →
          (∀ c ∈ (symbolRun symbol)^[n] s, sameUpToCase symbol c = false) ∧
            symbolRun symbol ((symbolRun symbol)^[n] s) = (symbolRun symbol)^[n] s) := by
  refine ⟨?_, fun hsymbol ↦ ⟨distinctRunLengths_iterate hsymbol s, fun n hn ↦ ?_⟩⟩
  · rw [numberLongestRuns]
    split
    · rename_i hnone
      exact symbolRun_eq_self ((runLengths_eq_nil_iff _ s).mp (List.max?_eq_none_iff.mp hnone))
    · rename_i longest hlongest
      exact symbolRun_of_longest hlongest
  · have hgone : ∀ c ∈ (symbolRun symbol)^[n] s, sameUpToCase symbol c = false := by
      rw [← distinctRunLengths_eq_zero_iff, distinctRunLengths_iterate hsymbol]
      exact Nat.sub_eq_zero_of_le hn
    exact ⟨hgone, symbolRun_eq_self hgone⟩

/-- Three runs of two lengths are gone after two applications, the longest ones first. -/
theorem symbolRun_two_lengths :
    'I'.isDigit = false ∧ distinctRunLengths (sameUpToCase 'I') "II and IIii, ii".toList = 2 ∧
      (∀ c ∈ (symbolRun 'I')^[2] "II and IIii, ii".toList, sameUpToCase 'I' c = false) := by
  have hlengths : distinctRunLengths (sameUpToCase 'I') "II and IIii, ii".toList = 2 := by
    decide +kernel
  have hsettles := (symbolRun_numbers_longest 'I' "II and IIii, ii".toList).2 (by decide)
  exact ⟨by decide, hlengths, (hsettles.2 2 hlengths.le).1⟩

end Counting

end AnimeLookup.Title
