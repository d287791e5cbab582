import AnimeLookup.Proofs.Title.PlainTitles
import AnimeLookup.Proofs.Title.RunLengths
import AnimeLookup.Proofs.Title.SeasonNames

/-!
# Sequels with Roman numerals

A sequel is numbered by Roman ones behind its title or by the arabic numeral, and counting the runs
of the letter is meant to bring the two together.  It counts the longest runs of the whole title,
though, and the letter is a common one.  So it works exactly if the title in front has no such
letter, or its longest run is just as long as the numeral (`symbolRun_ones_iff`).

The title is cut in front of the numeral (`symbolRun_append_run`).  If it has a longer run than the
numeral, then the ones stay as they are.  If it has only shorter ones, then they are kept in front
of the Roman numeral, and the longest of them are written as numbers in front of the arabic one.

For whole titles it follows that a sequel is recognised if folding leaves no `i` in what stands in
front of the numeral (`romanSequel_meets_arabic`).
-/

set_option autoImplicit false

namespace AnimeLookup.Title

open Text

/-! ## A run behind a text -/

/-- **What becomes of a run at the end of a text** depends on the longest run in front of it. -/
theorem symbolRun_append_run {symbol : Char} {s ones : List Char}
    (hs : ∀ c ∈ s.getLast?, sameUpToCase symbol c = false) (hne : ones ≠ [])
    (hones : ∀ c ∈ ones, sameUpToCase symbol c = true) :
    symbolRun symbol (s ++ ones) =
      numberRuns (sameUpToCase symbol) (max (longestRun (sameUpToCase symbol) s) ones.length) s ++
        writeRun (max (longestRun (sameUpToCase symbol) s) ones.length) ones := by
  rw [symbolRun_eq_numberRuns, longestRun_append_run hs hne hones,
    numberRuns_append (ne_of_before_run hs hones), numberRuns_of_all hne hones]

/-! ## Roman ones -/

/-- Whether a character is a Roman one, as a capital or as a small letter. -/
def isRomanOne (c : Char) : Bool := c == 'i' || c == 'I'

/-- The length of the longest run of Roman ones, which is zero if there is none. -/
def longestOnes (s : List Char) : Nat := (runLengths isRomanOne s).max?.getD 0

theorem sameUpToCase_I : sameUpToCase 'I' = isRomanOne := by
  funext c
  rw [Bool.eq_iff_iff, sameUpToCase_I_iff, isRomanOne, Bool.or_eq_true, beq_iff_eq, beq_iff_eq,
    or_comm]

theorem longestRun_I (s : List Char) : longestRun (sameUpToCase 'I') s = longestOnes s := by
  rw [sameUpToCase_I, longestRun_eq_max, longestOnes]

theorem longestOnes_eq_zero_iff (s : List Char) :
    longestOnes s = 0 ↔ ∀ c ∈ s, sameUpToCase 'I' c = false := by
  rw [← longestRun_I, longestRun_eq_zero_iff]

theorem not_isDigit_of_isRomanOne {c : Char} (h : isRomanOne c = true) : c.isDigit = false := by
  rw [isRomanOne, Bool.or_eq_true, beq_iff_eq, beq_iff_eq] at h
  rcases h with rfl | rfl <;> rfl

/-- A numeral has no Roman one, so it stays behind whatever it follows. -/
theorem symbolRun_append_decimal (s : List Char) (n : Nat) :
    symbolRun 'I' (s ++ decimal n) = symbolRun 'I' s ++ decimal n := by
  refine symbolRun_append (fun c hc ↦ eq_false_of_ne_true fun hone ↦ ?_) s
  rw [sameUpToCase_I] at hone
  have hdigit := List.all_eq_true.mp (all_isDigit_decimal n) c hc
  exact Bool.false_ne_true ((not_isDigit_of_isRomanOne hone).symm.trans hdigit)

theorem replicate_ne_decimal {n : Nat} (hn : 1 ≤ n) : List.replicate n 'i' ≠ decimal n := by
  intro heq
  have hmem : 'i' ∈ decimal n := heq ▸ List.mem_replicate.mpr ⟨by omega, rfl⟩
  exact absurd (List.all_eq_true.mp (all_isDigit_decimal n) 'i' hmem) (by decide)

/-- **When Roman ones behind a text meet the arabic numeral**: if the text has none itself, or its
longest run of them is just as long. -/
theorem symbolRun_ones_iff {s : List Char} (hs : ∀ c ∈ s.getLast?, isRomanOne c = false) {n : Nat}
    (hn : 1 ≤ n) :
    symbolRun 'I' (s ++ List.replicate n 'i') = symbolRun 'I' (s ++ decimal n) ↔
      longestOnes s = 0 ∨ longestOnes s = n := by
  have hones : ∀ c ∈ List.replicate n 'i', sameUpToCase 'I' c = true := fun c hc ↦ by
    rw [List.eq_of_mem_replicate hc, sameUpToCase_I_iff]
    exact .inr rfl
  have hne : List.replicate n 'i' ≠ [] := by
    rw [ne_eq, List.replicate_eq_nil_iff]
    omega
  have hcounted := symbolRun_eq_numberRuns 'I' s
  rw [longestRun_I] at hcounted
  rw [← sameUpToCase_I] at hs
  rw [symbolRun_append_run hs hne hones, symbolRun_append_decimal, List.length_replicate,
    longestRun_I, writeRun, List.length_replicate]
  rcases Nat.lt_trichotomy (longestOnes s) n with hlt | heq | hgt
  · -- The text keeps its runs on the left and loses the longest of them on the right.
    have hkept : numberRuns (sameUpToCase 'I') n s = s := numberRuns_eq_self fun hmem ↦ by
      have hle := le_longestRun hmem
      rw [longestRun_I] at hle
      omega
    rw [Nat.max_eq_right hlt.le, if_pos rfl, List.append_left_inj, hkept, eq_comm,
      symbolRun_eq_self_iff (by decide), ← longestOnes_eq_zero_iff, or_iff_left hlt.ne]
  · rw [heq, Nat.max_self, if_pos rfl, ← heq, ← hcounted]
    exact iff_of_true rfl (.inr rfl)
  · -- The ones are left as they are, beside the numeral on the other side.
    rw [Nat.max_eq_left hgt.le, if_neg hgt.ne, ← hcounted, List.append_right_inj]
    exact iff_of_false (replicate_ne_decimal hn) (by omega)

/-! ## Titles of sequels -/

theorem lowercase_romanNumeral (n : Nat) :
    lowercase (List.replicate n 'I') = List.replicate n 'i' := by
  have hascii : (List.replicate n 'I').all isAscii = true :=
    List.all_eq_true.mpr fun c hc ↦ by rw [List.eq_of_mem_replicate hc]; rfl
  have hone : 'I'.toLower = 'i' := rfl
  rw [lowercase_of_ascii hascii, lowercaseAscii, List.map_replicate, hone]

section Sequels

variable (p : List Char) {n : Nat} (hn : 1 ≤ n)

include hn in
theorem fold_romanSequel :
    fold (p ++ ' ' :: List.replicate n 'I') = foldStem p ++ List.replicate n 'i' := by
  have hsolid : Solid (List.replicate n 'i') := fun c hc ↦ by
    rw [List.eq_of_mem_replicate hc]
    decide
  refine fold_append_words ?_ hsolid ?_
  · rw [lowercase_romanNumeral, hsolid.filter_space]
  · rw [ne_eq, List.replicate_eq_nil_iff]
    omega

theorem fold_arabicSequel (n : Nat) : fold (p ++ ' ' :: decimal n) = foldStem p ++ decimal n := by
  have hsolid : Solid (decimal n) := Solid.of_digits (all_isDigit_decimal n)
  refine fold_append_words ?_ hsolid (decimal_ne_nil n)
  rw [lowercase_of_digits (all_isDigit_decimal n), hsolid.filter_space]

include hn in
/-- Without an `i` in front, the rule about Roman numerals accepts a sequel in its two spellings. -/
theorem sameForm_romanSequel (hp : 'i' ∉ fold p) :
    sameForm (symbolRun 'I') (Pair.of (p ++ ' ' :: List.replicate n 'I') (p ++ ' ' :: decimal n)) =
      true := by
  have hnone : ∀ c ∈ foldStem p, isRomanOne c = false := fun c hc ↦ eq_false_of_ne_true fun hone ↦ by
    rw [isRomanOne, Bool.or_eq_true, beq_iff_eq, beq_iff_eq] at hone
    rcases hone with rfl | rfl
    · exact hp (mem_fold_of_mem_foldStem (by decide) hc)
    · exact not_mem_foldStem_of_isUpper (by decide) p hc
  have hzero : longestOnes (foldStem p) = 0 := by
    rw [longestOnes_eq_zero_iff, sameUpToCase_I]
    exact hnone
  have hmeet := (symbolRun_ones_iff (fun c hc ↦ hnone c (List.mem_of_getLast? hc)) hn).mpr
    (.inl hzero)
  rw [sameForm, Pair.of, fold_romanSequel p hn, fold_arabicSequel, beq_iff_eq]
  exact hmeet

end Sequels

/-- **Roman and arabic sequels.**  Behind a text that does not end in a Roman one, so many ones meet
the arabic numeral exactly if the text has none itself or its longest run is just as long.  So
titles of the same sequel are equivalent if folding leaves no `i` of what stands in front. -/
theorem romanSequel_meets_arabic :
    (∀ (s : List Char) (n : Nat), (∀ c ∈ s.getLast?, isRomanOne c = false) → 1 ≤ n →
      (symbolRun 'I' (s ++ List.replicate n 'i') = symbolRun 'I' (s ++ decimal n) ↔
        longestOnes s = 0 ∨ longestOnes s = n)) ∧
    ∀ (p : List Char) (n : Nat), 'i' ∉ fold p → 1 ≤ n →
      equivalent (p ++ ' ' :: List.replicate n 'I') (p ++ ' ' :: decimal n) = true := by
  refine ⟨fun s n hs hn ↦ symbolRun_ones_iff hs hn, fun p n hp hn ↦ ?_⟩
  have hmem : ⟨"roman_numeral_run", sameForm (symbolRun 'I')⟩ ∈ rules := by simp [rules]
  exact (equivalent_of_accepts (by simp) (by simp) hmem (sameForm_romanSequel p hn hp)).1

/-- Without an `i` in front the two spellings of a second part meet.  Behind a single `i` those of a
first part do, and those of a second part do not. -/
theorem overlord_meets_mosaic :
    (∀ c ∈ "kiniromosaic".toList.getLast?, isRomanOne c = false) ∧ 1 ≤ 2 ∧
      symbolRun 'I' ("kiniromosaic".toList ++ List.replicate 2 'i') ≠
        symbolRun 'I' ("kiniromosaic".toList ++ decimal 2) ∧
      symbolRun 'I' ("kiniromosaic".toList ++ List.replicate 1 'i') =
        symbolRun 'I' ("kiniromosaic".toList ++ decimal 1) ∧
      'i' ∉ fold "Overlord".toList ∧
      equivalent ("Overlord".toList ++ ' ' :: List.replicate 2 'I')
        ("Overlord".toList ++ ' ' :: decimal 2) = true := by
  have hlast : ∀ c ∈ "kiniromosaic".toList.getLast?, isRomanOne c = false := by
    rintro c ⟨⟩
    rfl
  have hlongest : longestOnes "kiniromosaic".toList = 1 := by decide +kernel
  have hfold : 'i' ∉ fold "Overlord".toList := by decide +kernel
  have hcounting := romanSequel_meets_arabic.1 "kiniromosaic".toList
  refine ⟨hlast, by decide, fun h ↦ ?_, ?_, hfold, ?_⟩
  · have hmeets := (hcounting 2 hlast (by decide)).mp h
    rw [hlongest] at hmeets
    exact absurd hmeets (by decide)
  · exact (hcounting 1 hlast (by decide)).mpr (.inr hlongest)
  · exact romanSequel_meets_arabic.2 "Overlord".toList 2 hfold (by decide)

end AnimeLookup.Title
