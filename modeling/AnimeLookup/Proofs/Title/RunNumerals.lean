import AnimeLookup.Title.SymbolRun

/-!
# Reading the lengths of runs back

`symbolRun` writes numerals into a text, and if there is no other numeral in it they can be read
back: `spellRuns c` puts so many copies of `c` in the place of every numeral.  On a text without
digits, in which the symbol occurs in one form only, it undoes `symbolRun` (`spellRuns_symbolRun`),
so that two such texts with the same lengths of runs are the same (`symbolRun_inj`).

Both conditions are needed.  A title that has a `2` anyway is not told from one with two symbols in
its place, and a run of capitals is not told from a run of small letters.

What makes the reading possible is that a run is as long as it can be, so that a numeral is never
followed by another.

Text without the symbol that follows is left alone and changes nothing before it
(`symbolRun_append`), and what is neither the symbol nor a digit is there as often as before
(`count_symbolRun`).
-/

set_option autoImplicit false

namespace AnimeLookup.Title

open Text

/-! ## Spelling numerals out -/

/-- The text with so many copies of `c` in the place of every numeral, where `digits` is the part
of a numeral that has just been passed. -/
def spellRunsAfter (c : Char) (digits : List Char) : List Char → List Char
  | [] => List.replicate (Nat.ofDigitChars 10 digits 0) c
  | d :: rest =>
    if d.isDigit then spellRunsAfter c (digits ++ [d]) rest
    else List.replicate (Nat.ofDigitChars 10 digits 0) c ++ d :: spellRunsAfter c [] rest

/-- **The text with so many copies of `c` in the place of every numeral.** -/
def spellRuns (c : Char) (s : List Char) : List Char := spellRunsAfter c [] s

section Spelling

variable {c : Char}

@[simp] theorem spellRuns_nil : spellRuns c [] = [] := rfl

theorem spellRuns_cons {d : Char} {rest : List Char} (h : d.isDigit = false) :
    spellRuns c (d :: rest) = d :: spellRuns c rest := by
  rw [spellRuns, spellRunsAfter, if_neg (by simp [h])]
  simp [spellRuns]

/-- Text without digits stays. -/
theorem spellRuns_append {u : List Char} (t : List Char) (h : ∀ d ∈ u, d.isDigit = false) :
    spellRuns c (u ++ t) = u ++ spellRuns c t := by
  induction u with
  | nil => rfl
  | cons d rest ih =>
    obtain ⟨hd, hrest⟩ := List.forall_mem_cons.mp h
    rw [List.cons_append, spellRuns_cons hd, ih hrest, List.cons_append]

theorem spellRuns_eq_self {s : List Char} (h : ∀ d ∈ s, d.isDigit = false) :
    spellRuns c s = s := by
  have happ := spellRuns_append (c := c) [] h
  rwa [List.append_nil, spellRuns_nil, List.append_nil] at happ

theorem spellRunsAfter_append {u : List Char} (digits t : List Char)
    (h : u.all Char.isDigit = true) :
    spellRunsAfter c digits (u ++ t) = spellRunsAfter c (digits ++ u) t := by
  induction u generalizing digits with
  | nil => rw [List.nil_append, List.append_nil]
  | cons d rest ih =>
    rw [List.all_cons, Bool.and_eq_true] at h
    rw [List.cons_append, spellRunsAfter, if_pos h.1, ih (digits ++ [d]) h.2, List.append_assoc,
      List.singleton_append]

/-- A numeral that no digit follows is spelled out by itself. -/
theorem spellRuns_decimal_append (n : Nat) {t : List Char}
    (ht : ∀ d ∈ t.head?, d.isDigit = false) :
    spellRuns c (decimal n ++ t) = List.replicate n c ++ spellRuns c t := by
  have hvalue : Nat.ofDigitChars 10 (decimal n) 0 = n := Nat.ofDigitChars_ten_toDigits
  rw [spellRuns, spellRunsAfter_append [] t (all_isDigit_decimal n), List.nil_append]
  cases t with
  | nil => rw [spellRunsAfter, hvalue, spellRuns_nil, List.append_nil]
  | cons d rest =>
    have hd : d.isDigit = false := ht d rfl
    rw [spellRunsAfter, if_neg (by simp [hd]), hvalue, spellRuns_cons hd]
    rfl

end Spelling

/-! ## Undoing `symbolRun` -/

section Undoing

variable {c : Char} (hc : c.isDigit = false)

include hc

theorem spellRuns_writeRun (length k : Nat) {t : List Char}
    (ht : ∀ d ∈ t.head?, d.isDigit = false) :
    spellRuns c (writeRun length (List.replicate k c) ++ t) =
      List.replicate k c ++ spellRuns c t := by
  rw [writeRun]
  split
  · rename_i hlength
    rw [spellRuns_decimal_append length ht, ← hlength, List.length_replicate]
  · exact spellRuns_append t fun d hd ↦ List.eq_of_mem_replicate hd ▸ hc

/-- Whatever length is counted, the runs can be read back. -/
theorem spellRuns_countRunsAfter {p : Char → Bool} (length k : Nat) {s : List Char}
    (hs : ∀ d ∈ s, d.isDigit = false) (hp : ∀ d ∈ s, p d = true → d = c) :
    spellRuns c (countRunsAfter p length (List.replicate k c) s) = List.replicate k c ++ s := by
  induction s generalizing k with
  | nil =>
    have hwrite := spellRuns_writeRun hc length k (t := []) (by simp)
    rwa [List.append_nil, spellRuns_nil] at hwrite
  | cons d rest ih =>
    obtain ⟨hd, hrest⟩ := List.forall_mem_cons.mp hs
    obtain ⟨hpd, hprest⟩ := List.forall_mem_cons.mp hp
    rw [countRunsAfter]
    split
    · rename_i hsymbol
      rw [hpd hsymbol, ← List.replicate_succ', ih (k + 1) hrest hprest, List.replicate_succ',
        List.append_assoc, List.singleton_append]
    · have hnone := ih 0 hrest hprest
      rw [List.replicate_zero, List.nil_append] at hnone
      rw [spellRuns_writeRun hc length k (by simpa using hd), spellRuns_cons hd, hnone]

/-- **Counting the runs of a symbol can be undone** on a text without digits that has the symbol in
one form only. -/
theorem spellRuns_symbolRun {symbol : Char} {s : List Char} (hs : ∀ d ∈ s, d.isDigit = false)
    (hp : ∀ d ∈ s, sameUpToCase symbol d = true → d = c) :
    spellRuns c (symbolRun symbol s) = s := by
  rw [symbolRun]
  split
  · exact spellRuns_eq_self hs
  · exact spellRuns_countRunsAfter hc _ 0 hs hp

theorem symbolRun_inj {symbol : Char} {s t : List Char} (hs : ∀ d ∈ s, d.isDigit = false)
    (ht : ∀ d ∈ t, d.isDigit = false) (hps : ∀ d ∈ s, sameUpToCase symbol d = true → d = c)
    (hpt : ∀ d ∈ t, sameUpToCase symbol d = true → d = c)
    (h : symbolRun symbol s = symbolRun symbol t) : s = t := by
  rw [← spellRuns_symbolRun hc hs hps, h, spellRuns_symbolRun hc ht hpt]

end Undoing

/-! ## Text without the symbol -/

section Following

variable {p : Char → Bool} {t : List Char} (ht : ∀ c ∈ t, p c = false)

include ht

theorem longestRunAfter_of_none (current : Nat) : longestRunAfter p current t = current := by
  induction t generalizing current with
  | nil => rfl
  | cons c rest ih =>
    obtain ⟨hc, hrest⟩ := List.forall_mem_cons.mp ht
    rw [longestRunAfter, hc, if_neg Bool.false_ne_true, ih hrest, Nat.max_zero]

theorem longestRunAfter_append (s : List Char) (current : Nat) :
    longestRunAfter p current (s ++ t) = longestRunAfter p current s := by
  induction s generalizing current with
  | nil => exact longestRunAfter_of_none ht current
  | cons c rest ih => rw [List.cons_append, longestRunAfter, longestRunAfter, ih, ih]

theorem countRunsAfter_of_none {length : Nat} (hlength : length ≠ 0) (run : List Char) :
    countRunsAfter p length run t = writeRun length run ++ t := by
  induction t generalizing run with
  | nil => rw [countRunsAfter, List.append_nil]
  | cons c rest ih =>
    obtain ⟨hc, hrest⟩ := List.forall_mem_cons.mp ht
    have hempty : writeRun length [] = [] := if_neg (Ne.symm hlength)
    rw [countRunsAfter, hc, if_neg Bool.false_ne_true, ih hrest, hempty, List.nil_append]

theorem countRunsAfter_append {length : Nat} (hlength : length ≠ 0) (run s : List Char) :
    countRunsAfter p length run (s ++ t) = countRunsAfter p length run s ++ t := by
  induction s generalizing run with
  | nil => exact countRunsAfter_of_none ht hlength run
  | cons c rest ih =>
    rw [List.cons_append, countRunsAfter, countRunsAfter]
    split
    · exact ih _
    · rw [ih, List.append_assoc, List.cons_append]

end Following

/-- **Text without the symbol that follows stays as it is.** -/
theorem symbolRun_append {symbol : Char} {t : List Char}
    (ht : ∀ c ∈ t, sameUpToCase symbol c = false) (s : List Char) :
    symbolRun symbol (s ++ t) = symbolRun symbol s ++ t := by
  rw [symbolRun, symbolRun, longestRun, longestRunAfter_append ht, ← longestRun]
  split
  · rfl
  · rename_i hlength
    exact countRunsAfter_append ht hlength [] s

/-! ## Other characters -/

section Counting

variable {p : Char → Bool} {c : Char} (hp : p c = false) (hc : c.isDigit = false)

include hp hc

/-- A run has no other characters, and neither has its length. -/
theorem count_writeRun (length : Nat) {run : List Char} (hrun : ∀ d ∈ run, p d = true) :
    (writeRun length run).count c = 0 := by
  refine List.count_eq_zero.mpr fun hmem ↦ ?_
  rw [writeRun] at hmem
  split at hmem
  · have hdigit := List.all_eq_true.mp (all_isDigit_decimal length) c hmem
    exact Bool.false_ne_true (hc.symm.trans hdigit)
  · exact Bool.false_ne_true (hp.symm.trans (hrun c hmem))

theorem count_countRunsAfter (length : Nat) {run : List Char} (hrun : ∀ d ∈ run, p d = true)
    (s : List Char) : (countRunsAfter p length run s).count c = s.count c := by
  induction s generalizing run with
  | nil => exact count_writeRun hp hc length hrun
  | cons d rest ih =>
    rw [countRunsAfter]
    split
    · rename_i hd
      have hrun' : ∀ e ∈ run ++ [d], p e = true := by
        intro e he
        rcases List.mem_append.mp he with he | he
        · exact hrun e he
        · exact List.mem_singleton.mp he ▸ hd
      have hne : d ≠ c := fun heq ↦ Bool.false_ne_true (hp.symm.trans (heq ▸ hd))
      rw [ih hrun', List.count_cons_of_ne hne]
    · have hempty : ∀ e ∈ ([] : List Char), p e = true := by simp
      rw [List.count_append, count_writeRun hp hc length hrun, Nat.zero_add, List.count_cons,
        List.count_cons, ih hempty]

end Counting

/-- **Counting runs leaves the other characters**, unless they are digits. -/
theorem count_symbolRun {symbol c : Char} (hsymbol : sameUpToCase symbol c = false)
    (hdigit : c.isDigit = false) (s : List Char) : (symbolRun symbol s).count c = s.count c := by
  rw [symbolRun]
  split
  · rfl
  · exact count_countRunsAfter hsymbol hdigit _ (by simp) s

end AnimeLookup.Title
