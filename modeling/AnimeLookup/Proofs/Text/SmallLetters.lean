import AnimeLookup.Proofs.Text.Trimming
import AnimeLookup.Text.Lowercase

/-!
# Where small letters come from

The table of capitals is read forwards by `lowerChar`.  To say which characters become a given one,
it has to be read backwards: `capitalsOf d` lists the capitals whose small letter is `d`, and
`mem_lowerChar` says that nothing else leads to `d`, apart from `d` itself and the dotted capital I.

Four consequences are what comparisons of titles need.  A text in small letters has no ASCII
capital (`not_mem_lowercase_of_isUpper`), and it has a digit or a mark of ASCII only if that was there
before (`mem_of_mem_lowercase`).  It has white space at its ends only if it had some before
(`Trimmed.lowercase`).  And the characters that are the same as an `I` or as an `!` up to case are the
obvious ones (`sameUpToCase_I_iff`, `sameUpToCase_bang_iff`), as are those that are the same as a
digit (`isDigit_of_sameUpToCase`).

Within ASCII only the first block of the table counts, so a word of a fixed vocabulary is taken to
small letters letter by letter (`lowercase_of_ascii`), and the table need not be searched for it.

A text that goes on behind a space or a parenthesis can be taken to small letters in two parts
(`lowercase_append`), since nothing but a capital sigma looks at what stands around it, and it does
not look past a character that neither has a case nor is looked through (`Separates`).
-/

set_option autoImplicit false

namespace AnimeLookup.Text

theorem CaseRun.first_le_of_covers {r : CaseRun} {n : Nat} (h : r.covers n = true) :
    r.first ≤ n := by
  rw [CaseRun.covers, Bool.and_eq_true, Bool.and_eq_true, decide_eq_true_eq] at h
  exact h.1.1

/-- The code point from which a block of capitals would come to a character. -/
def CaseRun.origin (r : CaseRun) (d : Char) : Nat := ((d.toNat : Int) - r.offset).toNat

/-- The code points of the capitals whose small letter is the given character. -/
def capitalsOf (d : Char) : List Nat :=
  (caseRuns.filter fun run ↦ run.covers (run.origin d)).map (·.origin d)

theorem toNat_ofNat_of_ne {n : Nat} {d : Char} (h : Char.ofNat n = d) (hd : d ≠ '\x00') :
    d.toNat = n := by
  rw [← h] at hd ⊢
  by_cases hn : n.isValidChar
  · rw [Char.ofNat, dif_pos hn]
    rfl
  · rw [Char.ofNat, dif_neg hn] at hd
    exact absurd rfl hd

theorem mem_capitalsOf {run : CaseRun} {n : Nat} {d : Char} (hmem : run ∈ caseRuns)
    (hcovers : run.covers n = true) (hd : d ≠ '\x00')
    (h : Char.ofNat (n + run.offset).toNat = d) : n ∈ capitalsOf d := by
  have hn : run.origin d = n := by
    have hnat := toNat_ofNat_of_ne h hd
    have hpos : d.toNat ≠ 0 := fun h0 ↦ hd (Char.toNat_inj.mp h0)
    rw [CaseRun.origin]
    omega
  rw [capitalsOf, List.mem_map]
  exact ⟨run, List.mem_filter.mpr ⟨hmem, hn ▸ hcovers⟩, hn⟩

/-- **What becomes a given character**: the dotted capital I, the character itself if it is no
capital, and its capitals. -/
theorem mem_lowerChar {c d : Char} (hd : d ≠ '\x00') (h : d ∈ lowerChar c) :
    (c = '\u0130' ∧ d ∈ ['i', '\u0307']) ∨
      (c = d ∧ caseRuns.find? (·.covers d.toNat) = none) ∨ c.toNat ∈ capitalsOf d := by
  rw [lowerChar] at h
  split at h
  · exact .inl ⟨‹_›, h⟩
  · right
    cases hrun : caseRuns.find? (·.covers c.toNat) with
    | none =>
      rw [hrun, List.mem_singleton] at h
      exact .inl ⟨h.symm, h ▸ hrun⟩
    | some run =>
      rw [hrun, List.mem_singleton] at h
      have hcovers : run.covers c.toNat = true :=
        List.find?_some (p := fun r : CaseRun ↦ r.covers c.toNat) hrun
      exact .inr (mem_capitalsOf (List.mem_of_find?_eq_some hrun) hcovers hd h.symm)

/-- What stands in a text in small letters comes from one of its characters. -/
theorem exists_of_mem_lowercase {d : Char} (hsigma : d ∉ ['ς', 'σ']) {s : List Char}
    (h : d ∈ lowercase s) : ∃ c ∈ s, d ∈ lowerChar c := by
  have hafter : ∀ afterCased, d ∈ lowercaseAfter afterCased s → ∃ c ∈ s, d ∈ lowerChar c := by
    clear h
    induction s with
    | nil => exact fun _ hmem ↦ absurd hmem List.not_mem_nil
    | cons c rest ih =>
      intro afterCased hmem
      rw [lowercaseAfter, List.mem_append] at hmem
      rcases hmem with hc | hrest
      · split at hc
        · split at hc <;> simp_all
        · exact ⟨c, List.mem_cons_self, hc⟩
      · obtain ⟨e, he, hd⟩ := ih _ hrest
        exact ⟨e, List.mem_cons_of_mem c he, hd⟩
  exact hafter false h

/-- No capital becomes a character in front of the small letters of ASCII. -/
theorem capitalsOf_of_lt {d : Char} (h : d.toNat < 97) : capitalsOf d = [] := by
  have hfrom : caseRuns.all (fun run ↦ 0 < run.first ∧ 97 ≤ (run.first : Int) + run.offset) =
      true := by decide
  refine List.map_eq_nil_iff.mpr (List.filter_eq_nil_iff.mpr fun run hrun hcovers ↦ ?_)
  have hsmall := of_decide_eq_true (List.all_eq_true.mp hfrom run hrun)
  have hfirst := CaseRun.first_le_of_covers hcovers
  rw [CaseRun.origin] at hfirst
  omega

/-- A character in front of the small letters comes from nothing but itself. -/
theorem eq_of_mem_lowerChar {c d : Char} (hzero : d ≠ '\x00') (hlow : d.toNat < 97)
    (h : d ∈ lowerChar c) : c = d := by
  rcases mem_lowerChar hzero h with ⟨-, hi⟩ | ⟨rfl, -⟩ | hcapital
  · simp only [List.mem_cons, List.not_mem_nil, or_false] at hi
    rcases hi with rfl | rfl <;> exact absurd hlow (by decide)
  · rfl
  · rw [capitalsOf_of_lt hlow] at hcapital
    exact absurd hcapital List.not_mem_nil

/-- **A character in front of the small letters is there only if it was there before**, and it is
its own small form. -/
theorem mem_of_mem_lowercase {d : Char} (hzero : d ≠ '\x00') (hlow : d.toNat < 97) {s : List Char}
    (h : d ∈ lowercase s) : d ∈ s ∧ d ∈ lowerChar d := by
  have hsigma : d ∉ ['ς', 'σ'] := by
    simp only [List.mem_cons, List.not_mem_nil, or_false]
    rintro (rfl | rfl) <;> exact absurd hlow (by decide)
  obtain ⟨c, hc, hd⟩ := exists_of_mem_lowercase hsigma h
  obtain rfl := eq_of_mem_lowerChar hzero hlow hd
  exact ⟨hc, hd⟩

/-! ## ASCII -/

/-- Whether a character is one of ASCII. -/
def isAscii (c : Char) : Bool := decide (c.toNat < 128)

/-- Only the first block of capitals is in ASCII. -/
theorem lowerChar_of_ascii {c : Char} (h : isAscii c = true) : lowerChar c = [c.toLower] := by
  have hascii : c.toNat < 128 := of_decide_eq_true h
  have hbeyond : caseRuns.tail.all (128 ≤ ·.first) = true := by decide
  have hnone : caseRuns.tail.find? (·.covers c.toNat) = none := by
    refine List.find?_eq_none.mpr fun run hrun hcovers ↦ ?_
    have hfirst := of_decide_eq_true (List.all_eq_true.mp hbeyond run hrun)
    exact absurd (CaseRun.first_le_of_covers hcovers) (by omega)
  have hsplit : caseRuns = ⟨0x41, 0x5A, 1, 32⟩ :: caseRuns.tail := rfl
  have hhead : ∀ n < 128, (Char.ofNat n).toLower =
      if CaseRun.covers ⟨0x41, 0x5A, 1, 32⟩ n then Char.ofNat (n + 32) else Char.ofNat n := by
    decide
  have hlower := hhead c.toNat hascii
  rw [Char.ofNat_toNat] at hlower
  have hdotted : c ≠ '\u0130' := by
    rintro rfl
    exact absurd h (by decide)
  rw [lowerChar, if_neg hdotted, hsplit, List.find?_cons, hnone, hlower]
  cases CaseRun.covers ⟨0x41, 0x5A, 1, 32⟩ c.toNat <;> rfl

/-- **A text in small letters has no ASCII capital.** -/
theorem not_mem_lowercase_of_isUpper {d : Char} (h : d.isUpper = true) (s : List Char) :
    d ∉ lowercase s := by
  have hval : 'A'.val ≤ d.val ∧ d.val ≤ 'Z'.val := of_decide_eq_true h
  have hlow : 65 ≤ d.toNat := UInt32.le_iff_toNat_le.mp hval.1
  have hhigh : d.toNat ≤ 90 := UInt32.le_iff_toNat_le.mp hval.2
  have hall : ∀ n < 26, (Char.ofNat (65 + n)).toLower ≠ Char.ofNat (65 + n) := by decide
  have hsmall : d.toLower ≠ d := by
    have hn := hall (d.toNat - 65) (by omega)
    rwa [Nat.add_sub_cancel' hlow, Char.ofNat_toNat] at hn
  have hzero : d ≠ '\x00' := by
    rintro rfl
    exact absurd hlow (by decide)
  intro hmem
  have hself := (mem_of_mem_lowercase hzero (by omega) hmem).2
  rw [lowerChar_of_ascii (decide_eq_true (by omega)), List.mem_singleton] at hself
  exact hsmall hself.symm

/-! ## Parts of a text -/

/-- Apart from the capital sigma every character has its small form to itself. -/
theorem lowercase_eq_flatMap {s : List Char} (h : 'Σ' ∉ s) : lowercase s = s.flatMap lowerChar := by
  have hafter : ∀ afterCased, lowercaseAfter afterCased s = s.flatMap lowerChar := by
    induction s with
    | nil => exact fun _ ↦ rfl
    | cons c rest ih =>
      rw [List.mem_cons, not_or] at h
      intro afterCased
      rw [lowercaseAfter, if_neg (Ne.symm h.1), ih h.2, List.flatMap_cons]
  exact hafter false

/-- **In ASCII the small form is found letter by letter.** -/
theorem lowercase_of_ascii {s : List Char} (h : s.all isAscii = true) :
    lowercase s = lowercaseAscii s := by
  have hsigma : 'Σ' ∉ s := fun hmem ↦ absurd (List.all_eq_true.mp h 'Σ' hmem) (by decide)
  have hletters : s.map lowerChar = s.map fun c ↦ [c.toLower] :=
    List.map_congr_left fun c hc ↦ lowerChar_of_ascii (List.all_eq_true.mp h c hc)
  rw [lowercase_eq_flatMap hsigma, List.flatMap_def, hletters, ← List.flatMap_def,
    ← List.map_eq_flatMap, lowercaseAscii]

/-- **A character that separates texts**: neither side of it is context for the other. -/
structure Separates (d : Char) : Prop where
  /-- It is not looked through when the end of a word is sought. -/
  notIgnorable : isCaseIgnorable d = false
  /-- It is no letter that has a case. -/
  notCased : isCased d = false

theorem separates_space : Separates ' ' := ⟨by decide +kernel, by decide +kernel⟩

section Separated

variable {d : Char} (h : Separates d)

include h

theorem startsCased_append (s t : List Char) : startsCased (s ++ d :: t) = startsCased s := by
  induction s with
  | nil => simp [startsCased, h.notIgnorable, h.notCased]
  | cons c rest ih => rw [List.cons_append, startsCased, startsCased, ih]

theorem lowercaseAfter_cons (afterCased : Bool) (t : List Char) :
    lowercaseAfter afterCased (d :: t) = lowerChar d ++ lowercase t := by
  have hsigma : d ≠ 'Σ' := by
    rintro rfl
    exact absurd h.notCased (by decide +kernel)
  rw [lowercaseAfter, if_neg hsigma, h.notIgnorable, h.notCased]
  rfl

theorem lowercase_cons (t : List Char) : lowercase (d :: t) = lowerChar d ++ lowercase t :=
  lowercaseAfter_cons h false t

/-- **Texts with such a character between them are taken to small letters each by itself.** -/
theorem lowercase_append (s t : List Char) :
    lowercase (s ++ d :: t) = lowercase s ++ lowercase (d :: t) := by
  have hafter : ∀ afterCased, lowercaseAfter afterCased (s ++ d :: t) =
      lowercaseAfter afterCased s ++ lowercase (d :: t) := by
    induction s with
    | nil =>
      intro afterCased
      rw [List.nil_append, lowercaseAfter_cons h, lowercase_cons h]
      rfl
    | cons c rest ih =>
      intro afterCased
      rw [List.cons_append, lowercaseAfter, lowercaseAfter, startsCased_append h, ih,
        List.append_assoc]
  exact hafter false

end Separated

theorem lowercase_space_cons (t : List Char) : lowercase (' ' :: t) = ' ' :: lowercase t := by
  have hspace : lowerChar ' ' = [' '] := lowerChar_of_ascii rfl
  rw [lowercase_cons separates_space, hspace, List.singleton_append]

/-- **A space separates texts.** -/
theorem lowercase_append_space (s t : List Char) :
    lowercase (s ++ ' ' :: t) = lowercase s ++ ' ' :: lowercase t := by
  rw [lowercase_append separates_space, lowercase_space_cons]

/-- **Behind a letter a text goes on as behind any other letter.** -/
theorem lowercase_append_cased {c : Char} (hcased : isCased c = true)
    (hcount : isCaseIgnorable c = false) {u : List Char} (hsigma : 'Σ' ∉ u ++ [c])
    (t : List Char) : lowercase (u ++ c :: t) = lowercase (u ++ [c]) ++ lowercaseAfter true t := by
  have hafter : ∀ afterCased, lowercaseAfter afterCased (u ++ c :: t) =
      (u ++ [c]).flatMap lowerChar ++ lowercaseAfter true t := by
    induction u with
    | nil =>
      intro afterCased
      rw [List.nil_append, List.mem_singleton] at hsigma
      rw [List.nil_append, lowercaseAfter, if_neg (Ne.symm hsigma), hcount, hcased]
      simp
    | cons d rest ih =>
      intro afterCased
      rw [List.cons_append, List.mem_cons, not_or] at hsigma
      rw [List.cons_append, List.cons_append, lowercaseAfter, if_neg (Ne.symm hsigma.1),
        ih hsigma.2, List.flatMap_cons, List.append_assoc]
  rw [lowercase_eq_flatMap hsigma]
  exact hafter false

/-! ## Digits -/

/-- The digits are ten characters in a row. -/
theorem exists_eq_ofNat_of_isDigit {c : Char} (h : c.isDigit = true) :
    ∃ n < 10, c = Char.ofNat (48 + n) := by
  obtain ⟨hge, hle⟩ := (Bool.and_eq_true _ _).mp h
  have hlow : 48 ≤ c.toNat := UInt32.le_iff_toNat_le.mp (of_decide_eq_true hge)
  have hhigh : c.toNat ≤ 57 := UInt32.le_iff_toNat_le.mp (of_decide_eq_true hle)
  exact ⟨c.toNat - 48, by omega, by rw [Nat.add_sub_cancel' hlow, Char.ofNat_toNat]⟩

theorem ascii_of_isDigit {c : Char} (h : c.isDigit = true) :
    isAscii c = true ∧ c.toLower = c ∧ c ≠ '\x00' ∧ c.toNat < 97 := by
  obtain ⟨n, hn, rfl⟩ := exists_eq_ofNat_of_isDigit h
  have hall : ∀ n < 10, isAscii (Char.ofNat (48 + n)) = true ∧
      (Char.ofNat (48 + n)).toLower = Char.ofNat (48 + n) ∧ Char.ofNat (48 + n) ≠ '\x00' ∧
        (Char.ofNat (48 + n)).toNat < 97 := by
    decide
  exact hall n hn

theorem lowerChar_of_isDigit {c : Char} (h : c.isDigit = true) : lowerChar c = [c] := by
  obtain ⟨hascii, hlower, -⟩ := ascii_of_isDigit h
  rw [lowerChar_of_ascii hascii, hlower]

theorem all_isAscii_of_digits {s : List Char} (h : s.all Char.isDigit = true) :
    s.all isAscii = true :=
  List.all_eq_true.mpr fun c hc ↦ (ascii_of_isDigit (List.all_eq_true.mp h c hc)).1

theorem lowercaseAscii_of_digits {s : List Char} (h : s.all Char.isDigit = true) :
    lowercaseAscii s = s := by
  have hsame : ∀ c ∈ s, c.toLower = id c := fun c hc ↦
    (ascii_of_isDigit (List.all_eq_true.mp h c hc)).2.1
  rw [lowercaseAscii, List.map_congr_left hsame, List.map_id]

/-- A numeral with a word of ASCII behind it keeps its digits. -/
theorem lowercase_digits_append {s w : List Char} (hs : s.all Char.isDigit = true)
    (hw : w.all isAscii = true) : lowercase (s ++ w) = s ++ lowercaseAscii w := by
  have hascii : (s ++ w).all isAscii = true := by
    rw [List.all_append, all_isAscii_of_digits hs, hw, Bool.and_self]
  rw [lowercase_of_ascii hascii, lowercaseAscii, List.map_append, ← lowercaseAscii,
    ← lowercaseAscii, lowercaseAscii_of_digits hs]

theorem lowercase_of_digits {s : List Char} (h : s.all Char.isDigit = true) : lowercase s = s := by
  rw [lowercase_of_ascii (all_isAscii_of_digits h), lowercaseAscii_of_digits h]

/-! ## White space -/

/-- No capital becomes white space. -/
theorem capitalsOf_of_isBlank {d : Char} (h : isBlank d = true) : capitalsOf d = [] := by
  have hall : (blankChars.intervals.all fun i ↦ (List.range' i.1 (i.2 + 1 - i.1)).all fun n ↦
      (capitalsOf (Char.ofNat n)).isEmpty) = true := by
    decide +kernel
  obtain ⟨i, hi, hlow, hhigh⟩ := CharSet.exists_of_covers h
  have hmem : d.toNat ∈ List.range' i.1 (i.2 + 1 - i.1) := List.mem_range'_1.mpr ⟨hlow, by omega⟩
  have hempty := List.all_eq_true.mp (List.all_eq_true.mp hall i hi) d.toNat hmem
  rw [Char.ofNat_toNat] at hempty
  exact List.isEmpty_iff.mp hempty

theorem isBlank_of_mem_lowerChar {c d : Char} (h : d ∈ lowerChar c) (hd : isBlank d = true) :
    isBlank c = true := by
  have hother : d ∉ ['i', '\u0307'] := by
    have hall : (['i', '\u0307'].all fun c ↦ !isBlank c) = true := by decide
    intro hmem
    have hnot := List.all_eq_true.mp hall d hmem
    rw [hd] at hnot
    exact absurd hnot (by decide)
  have hzero : d ≠ '\x00' := fun heq ↦ absurd (heq ▸ hd) (by decide)
  rcases mem_lowerChar hzero h with ⟨-, hi⟩ | ⟨rfl, -⟩ | hcapital
  · exact absurd hi hother
  · exact hd
  · rw [capitalsOf_of_isBlank hd] at hcapital
    exact absurd hcapital List.not_mem_nil

theorem lowerChar_ne_nil (c : Char) : lowerChar c ≠ [] := by
  rw [lowerChar]
  split
  · exact List.cons_ne_nil _ _
  · split <;> exact List.cons_ne_nil _ _

/-- Every character becomes something, and white space only if it is white space. -/
theorem exists_lowercaseAfter_cons (afterCased : Bool) (c : Char) (rest : List Char) :
    ∃ small afterCased', lowercaseAfter afterCased (c :: rest) =
        small ++ lowercaseAfter afterCased' rest ∧
      small ≠ [] ∧ ∀ d ∈ small, isBlank d = true → isBlank c = true := by
  refine ⟨_, _, by rw [lowercaseAfter], ?_, ?_⟩
  · split
    · exact List.cons_ne_nil _ _
    · exact lowerChar_ne_nil c
  · intro d hd hblank
    split at hd
    · rw [List.mem_singleton] at hd
      rw [hd] at hblank
      split at hblank <;> exact absurd hblank (by decide)
    · exact isBlank_of_mem_lowerChar hd hblank

theorem lowercaseAfter_eq_nil {afterCased : Bool} {s : List Char}
    (h : lowercaseAfter afterCased s = []) : s = [] := by
  cases s with
  | nil => rfl
  | cons c rest =>
    obtain ⟨small, _, hsmall, hne, -⟩ := exists_lowercaseAfter_cons afterCased c rest
    rw [hsmall, List.append_eq_nil_iff] at h
    exact absurd h.1 hne

/-- The end of a text in small letters comes from the end of the text. -/
theorem exists_getLast?_of_lowercaseAfter {afterCased : Bool} {s : List Char} {d : Char}
    (h : (lowercaseAfter afterCased s).getLast? = some d) :
    ∃ c, s.getLast? = some c ∧ (isBlank d = true → isBlank c = true) := by
  induction s generalizing afterCased with
  | nil => exact absurd h (by simp [lowercaseAfter])
  | cons c rest ih =>
    obtain ⟨small, afterCased', hsmall, -, hblank⟩ := exists_lowercaseAfter_cons afterCased c rest
    rw [hsmall, List.getLast?_append, Option.or_eq_some_iff] at h
    rcases h with hrest | ⟨hnone, hd⟩
    · obtain ⟨e, he, hbe⟩ := ih hrest
      exact ⟨e, by rw [List.getLast?_cons, he, Option.getD_some], hbe⟩
    · -- Nothing comes from the rest, so there is none.
      obtain rfl := lowercaseAfter_eq_nil (List.getLast?_eq_none_iff.mp hnone)
      exact ⟨c, rfl, hblank d (List.mem_of_getLast? hd)⟩

/-- White space at the end of a text in small letters was there before. -/
theorem last_lowercase {s : List Char} (h : ∀ c, s.getLast? = some c → isBlank c = false) :
    ∀ d, (lowercase s).getLast? = some d → isBlank d = false := by
  intro d hd
  obtain ⟨c, hc, hblank⟩ := exists_getLast?_of_lowercaseAfter hd
  refine eq_false_of_ne_true fun htrue ↦ ?_
  exact ne_true_of_eq_false (h c hc) (hblank htrue)

/-- **A trimmed text stays trimmed in small letters.** -/
theorem Trimmed.lowercase {s : List Char} (h : Trimmed s) : Trimmed (lowercase s) where
  head := by
    intro d hd
    cases s with
    | nil => exact absurd hd (by simp)
    | cons c rest =>
      obtain ⟨small, _, hsmall, hne, hblank⟩ := exists_lowercaseAfter_cons false c rest
      rw [Text.lowercase, hsmall, List.head?_append, List.head?_eq_some_head hne,
        Option.some_or] at hd
      obtain rfl := Option.some.inj hd
      refine eq_false_of_ne_true fun htrue ↦ ?_
      exact ne_true_of_eq_false (h.head c rfl) (hblank _ (List.head_mem hne) htrue)
  last := last_lowercase h.last

/-! ## The same up to case -/

/-- Nothing but a digit is the same as a digit up to case. -/
theorem isDigit_of_sameUpToCase {c d : Char} (hd : d.isDigit = true)
    (h : sameUpToCase c d = true) : c.isDigit = true := by
  have hmem : d ∈ lowerChar c := by
    rw [eq_of_beq h, lowerChar_of_isDigit hd]
    exact List.mem_cons_self
  obtain ⟨-, -, hzero, hlow⟩ := ascii_of_isDigit hd
  rw [eq_of_mem_lowerChar hzero hlow hmem]
  exact hd

theorem sameUpToCase_I_iff (c : Char) : sameUpToCase 'I' c = true ↔ c = 'I' ∨ c = 'i' := by
  have hI : lowerChar 'I' = ['i'] := lowerChar_of_ascii rfl
  rw [sameUpToCase, beq_iff_eq, hI]
  constructor
  · intro h
    have hmem : 'i' ∈ lowerChar c := h ▸ List.mem_singleton_self _
    rcases mem_lowerChar (by decide) hmem with ⟨rfl, -⟩ | ⟨rfl, -⟩ | hcap
    · exact absurd h (by decide +kernel)
    · exact .inr rfl
    · rw [show capitalsOf 'i' = ['I'.toNat] by decide +kernel, List.mem_singleton] at hcap
      exact .inl (Char.toNat_inj.mp hcap)
  · rintro (rfl | rfl) <;> rw [lowerChar_of_ascii rfl] <;> rfl

theorem sameUpToCase_bang_iff (c : Char) : sameUpToCase '!' c = true ↔ c = '!' := by
  have hbang : lowerChar '!' = ['!'] := lowerChar_of_ascii rfl
  rw [sameUpToCase, beq_iff_eq, hbang]
  constructor
  · intro h
    exact eq_of_mem_lowerChar (by decide) (by decide) (h ▸ List.mem_singleton_self _)
  · rintro rfl
    exact hbang.symm

end AnimeLookup.Text
