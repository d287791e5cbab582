import AnimeLookup.Proofs.Text.Trimming
import AnimeLookup.Text.Numeral
import Mathlib.Data.List.Induction

/-!
# What numerals denote

Three questions about numerals are answered here.  Which texts does a reader take for a number, and
which number (`readUnsigned_eq_some_iff`)?  Which text is a number written as (`isDecimal_iff`)?
And what can be told from a number that is written with zeros in front, when more text stands behind
it (`paddedInt_append_inj`)?

Zeros in front change the length of a numeral and nothing else, so a numeral is read back whatever
its width.  Where it ends is seen from the first character that is no digit; a minus sign is one, so
it may stand behind a numeral as well as in front of it.
-/

set_option autoImplicit false

namespace AnimeLookup.Text

/-! ## Reading -/

/-- **A text that is a numeral of a number**: digits, perhaps with a plus sign in front. -/
def IsNumeral (s : List Char) (n : Nat) : Prop :=
  ∃ digits, (s = digits ∨ s = '+' :: digits) ∧ digits ≠ [] ∧
    (∀ c ∈ digits, c.isDigit = true) ∧ Nat.ofDigitChars 10 digits 0 = n

theorem readDigits_eq_some_iff (s : List Char) (k : Nat) :
    readDigits s = some k ↔
      s ≠ [] ∧ (∀ c ∈ s, c.isDigit = true) ∧ Nat.ofDigitChars 10 s 0 = k := by
  rw [readDigits]
  split
  · rename_i h
    simp only [Bool.and_eq_true, Bool.not_eq_true', List.isEmpty_eq_false_iff,
      List.all_eq_true] at h
    rw [Option.some.injEq]
    exact ⟨fun hk ↦ ⟨h.1, h.2, hk⟩, fun hk ↦ hk.2.2⟩
  · rename_i h
    simp only [Bool.and_eq_true, Bool.not_eq_true', List.isEmpty_eq_false_iff,
      List.all_eq_true] at h
    exact iff_of_false (by simp) fun hk ↦ h ⟨hk.1, hk.2.1⟩

/-- A sign in front of digits is dropped, and nothing else is. -/
theorem dropPlus_eq_iff {s digits : List Char} (hdigits : ∀ c ∈ digits, c.isDigit = true) :
    dropPlus s = digits ↔ s = digits ∨ s = '+' :: digits := by
  constructor
  · intro h
    unfold dropPlus at h
    split at h
    · exact .inr (congrArg _ h)
    · exact .inl h
  · rintro (rfl | rfl)
    · unfold dropPlus
      split
      · exact absurd (hdigits '+' List.mem_cons_self) (by decide)
      · rfl
    · rfl

/-- **The reader of numbers takes exactly the numerals** of the numbers below its limit. -/
theorem readUnsigned_eq_some_iff (limit : Nat) (s : List Char) (n : Nat) :
    readUnsigned limit s = some n ↔ IsNumeral s n ∧ n < limit := by
  rw [readUnsigned, Option.filter_eq_some_iff, readDigits_eq_some_iff, decide_eq_true_iff]
  refine and_congr_left fun _ ↦ ⟨?_, ?_⟩
  · rintro ⟨hne, hdigits, hvalue⟩
    exact ⟨_, (dropPlus_eq_iff hdigits).mp rfl, hne, hdigits, hvalue⟩
  · rintro ⟨digits, hs, hne, hdigits, hvalue⟩
    rw [(dropPlus_eq_iff hdigits).mpr hs]
    exact ⟨hne, hdigits, hvalue⟩

theorem readUnsigned_eq_none_iff (limit : Nat) (s : List Char) :
    readUnsigned limit s = none ↔ ∀ n < limit, ¬ IsNumeral s n := by
  simp only [Option.eq_none_iff_forall_ne_some, ne_eq, readUnsigned_eq_some_iff, not_and']

/-- A text is a numeral of one number only. -/
theorem IsNumeral.unique {s : List Char} {m n : Nat} (hm : IsNumeral s m) (hn : IsNumeral s n) :
    m = n := by
  have hread {k : Nat} (hk : IsNumeral s k) (hle : k ≤ m + n) :
      readUnsigned (m + n + 1) s = some k :=
    (readUnsigned_eq_some_iff _ s k).mpr ⟨hk, Nat.lt_succ_of_le hle⟩
  exact Option.some.inj ((hread hm (by omega)).symm.trans (hread hn (by omega)))

theorem IsNumeral.of_mem {s : List Char} {n : Nat} {c : Char} (h : IsNumeral s n) (hc : c ∈ s) :
    c = '+' ∨ c.isDigit = true := by
  obtain ⟨digits, rfl | rfl, -, hdigits, -⟩ := h
  · exact .inr (hdigits c hc)
  · exact (List.mem_cons.mp hc).imp_right (hdigits c)

/-! ## Writing -/

/-- **The decimal numeral of a number**: digits that denote it, with no zero in front of others. -/
structure IsDecimal (s : List Char) (n : Nat) : Prop where
  /-- There is a digit. -/
  ne_nil : s ≠ []
  /-- There is nothing else. -/
  digits : ∀ c ∈ s, c.isDigit = true
  /-- They denote the number. -/
  value : Nat.ofDigitChars 10 s 0 = n
  /-- A zero comes first only if it is alone. -/
  head : s.head? = some '0' → s = ['0']

theorem isDecimal_decimal (n : Nat) : IsDecimal (decimal n) n where
  ne_nil := decimal_ne_nil n
  digits := List.all_eq_true.mp (all_isDigit_decimal n)
  value := Nat.ofDigitChars_ten_toDigits
  head h := by
    by_cases hn : n = 0
    · subst hn
      rfl
    · exact absurd h (head?_decimal_ne_zero hn)

/-- A digit is the one of its value. -/
theorem exists_eq_digitChar {c : Char} (h : c.isDigit = true) :
    ∃ k < 10, c = Nat.digitChar k := by
  have hrange : 48 ≤ c.toNat ∧ c.toNat ≤ 57 := by
    simpa [Char.isDigit, UInt32.le_iff_toNat_le] using h
  refine ⟨c.toNat - 48, by omega, Char.toNat_inj.mp ?_⟩
  rw [Nat.toNat_digitChar_of_lt_ten (by omega)]
  omega

theorem ofDigitChars_concat (s : List Char) {k : Nat} (h : k < 10) :
    Nat.ofDigitChars 10 (s ++ [Nat.digitChar k]) 0 = 10 * Nat.ofDigitChars 10 s 0 + k := by
  rw [Nat.ofDigitChars_append, Nat.ofDigitChars_cons_digitChar_of_lt_ten h, Nat.ofDigitChars_nil]

/-- **A number has one decimal numeral only.**  The induction takes the last digit away, which
leaves the numeral of a tenth. -/
theorem IsDecimal.eq_decimal {s : List Char} {n : Nat} (h : IsDecimal s n) : s = decimal n := by
  induction s using List.reverseRecOn generalizing n with
  | nil => exact absurd rfl h.ne_nil
  | append_singleton s d ih =>
    obtain ⟨k, hk, rfl⟩ := exists_eq_digitChar (h.digits d List.mem_concat_self)
    have hvalue := h.value
    rw [ofDigitChars_concat s hk] at hvalue
    cases s with
    | nil =>
      have hn : n = k := hvalue.symm.trans (Nat.zero_add k)
      exact hn ▸ (Nat.toDigits_of_lt_base hk).symm
    | cons c more =>
      have htenth : IsDecimal (c :: more) (Nat.ofDigitChars 10 (c :: more) 0) :=
        ⟨List.cons_ne_nil c more, fun x hx ↦ h.digits x (List.mem_append_left _ hx), rfl,
          fun hzero ↦ absurd (h.head hzero) (by simp)⟩
      have hne : Nat.ofDigitChars 10 (c :: more) 0 ≠ 0 := by
        intro hzero
        have hc := ih htenth
        rw [hzero] at hc
        exact absurd (h.head (congrArg List.head? hc)) (by simp)
      have hstep : decimal n = decimal (n / 10) ++ [Nat.digitChar (n % 10)] :=
        Nat.toDigits_of_base_le (by decide) (by omega)
      have hdiv : n / 10 = Nat.ofDigitChars 10 (c :: more) 0 := by omega
      have hmod : n % 10 = k := by omega
      rw [hstep, hdiv, hmod, ← ih htenth]

theorem isDecimal_iff {s : List Char} {n : Nat} : IsDecimal s n ↔ s = decimal n :=
  ⟨IsDecimal.eq_decimal, fun h ↦ h ▸ isDecimal_decimal n⟩
/-! ## Zeros in front -/

variable {width m n : Nat} {r s : List Char}

theorem all_isDigit_padZeros (width n : Nat) :
    (padZeros width (decimal n)).all Char.isDigit = true := by
  rw [padZeros, List.all_append, all_isDigit_decimal, Bool.and_true]
  exact List.all_eq_true.mpr fun c hc ↦ List.eq_of_mem_replicate hc ▸ rfl

/-- Zeros in front do not change the number. -/
theorem ofDigitChars_padZeros (width n : Nat) :
    Nat.ofDigitChars 10 (padZeros width (decimal n)) 0 = n := by
  rw [padZeros, Nat.ofDigitChars_append, Nat.ofDigitChars_replicate_zero, Nat.mul_zero]
  exact Nat.ofDigitChars_ten_toDigits

theorem exists_padZeros_eq_cons (width n : Nat) :
    ∃ d more, padZeros width (decimal n) = d :: more ∧ d.isDigit = true := by
  have hne : padZeros width (decimal n) ≠ [] :=
    List.append_ne_nil_of_right_ne_nil _ (decimal_ne_nil n)
  obtain ⟨d, more, h⟩ := List.exists_cons_of_ne_nil hne
  exact ⟨d, more, h, List.all_eq_true.mp (all_isDigit_padZeros width n) d (by simp [h])⟩

/-- **A numeral with zeros in front is known from what begins with it**, if no digit follows. -/
theorem padZeros_append_inj (hr : ∀ c ∈ r.head?, c.isDigit = false)
    (hs : ∀ c ∈ s.head?, c.isDigit = false)
    (h : padZeros width (decimal m) ++ r = padZeros width (decimal n) ++ s) : m = n ∧ r = s := by
  obtain ⟨hdigits, hrest⟩ := append_inj_of_stop (all_isDigit_padZeros width m)
    (all_isDigit_padZeros width n) hr hs h
  have hvalue := congrArg (Nat.ofDigitChars 10 · 0) hdigits
  exact ⟨by rwa [ofDigitChars_padZeros, ofDigitChars_padZeros] at hvalue, hrest⟩

/-- A numeral does not begin with a minus sign. -/
theorem padZeros_append_ne_minus (width n : Nat) (r s : List Char) :
    padZeros width (decimal n) ++ r ≠ '-' :: s := by
  obtain ⟨d, more, h, hd⟩ := exists_padZeros_eq_cons width n
  rw [h]
  rintro ⟨⟩
  exact absurd hd (by decide)

/-- The numeral of an integer begins with its sign or a digit. -/
theorem exists_paddedInt_eq_cons (width : Nat) (i : Int) :
    ∃ c more, paddedInt width i = c :: more ∧ (c = '-' ∨ c.isDigit = true) := by
  cases i with
  | ofNat n =>
    obtain ⟨d, more, h, hd⟩ := exists_padZeros_eq_cons width n
    exact ⟨d, more, h, .inr hd⟩
  | negSucc n => exact ⟨'-', _, rfl, .inl rfl⟩

/-- **So is the numeral of an integer**: the sign in front of it is one of the first character, and
those behind it come after a digit. -/
theorem paddedInt_append_inj {i j : Int} (hr : ∀ c ∈ r.head?, c.isDigit = false)
    (hs : ∀ c ∈ s.head?, c.isDigit = false)
    (h : paddedInt width i ++ r = paddedInt width j ++ s) : i = j ∧ r = s := by
  cases i with
  | ofNat m =>
    cases j with
    | ofNat n =>
      obtain ⟨rfl, hrest⟩ := padZeros_append_inj hr hs h
      exact ⟨rfl, hrest⟩
    | negSucc n => exact absurd h (padZeros_append_ne_minus width m r _)
  | negSucc m =>
    cases j with
    | ofNat n => exact absurd h.symm (padZeros_append_ne_minus width n s _)
    | negSucc n =>
      obtain ⟨hsucc, hrest⟩ := padZeros_append_inj hr hs (List.cons.inj h).2
      exact ⟨by rw [Nat.succ.inj hsucc], hrest⟩

end AnimeLookup.Text
