import AnimeLookup.Proofs.Title.Folding

/-!
# Titles that name a season

A season is named behind a title in two ways: in shorthand (`Title S2`) and with an ordinal numeral
(`Title 2nd Season`).  In both ways the number is written with one or two digits, and a zero may
stand in front.  `SeasonNumeral` is such a number as it is written, and `SeasonName` one of the two
names.

A folded title with the name of a season falls into two parts that have nothing to do with each
other (`fold_title`): the *stem*, which is what folding makes of the title in front of the name,
and the *tail*, which is the folded name.  The stem may be anything.  Of the tail we use that it
consists of digits and a few letters (`isTailChar`), and how it ends.
-/

set_option autoImplicit false

namespace AnimeLookup.Title

open Text

/-! ## Numerals -/

/-- **The number of a season as it is written**: one or two digits, not all of them zero. -/
structure SeasonNumeral where
  /-- The digits. -/
  digits : List Char
  /-- They are digits. -/
  all_isDigit : digits.all Char.isDigit = true
  /-- There is one at least. -/
  ne_nil : digits ≠ []
  /-- There are two at most. -/
  length_le : digits.length ≤ 2
  /-- Not all of them are zero. -/
  value_ne_zero : Nat.ofDigitChars 10 digits 0 ≠ 0

namespace SeasonNumeral

variable (n : SeasonNumeral)

/-- The number. -/
def number : Nat := Nat.ofDigitChars 10 n.digits 0

theorem isDigit_of_mem {n : SeasonNumeral} {c : Char} (h : c ∈ n.digits) : c.isDigit = true :=
  List.all_eq_true.mp n.all_isDigit c h

theorem not_mem_digits {n : SeasonNumeral} {c : Char} (h : c.isDigit = false) : c ∉ n.digits :=
  fun hmem ↦ Bool.false_ne_true (h.symm.trans (isDigit_of_mem hmem))

/-- The number in decimal, if it has at most two digits. -/
def ofNumber (k : Nat) (hpos : 1 ≤ k) (hle : k ≤ 99) : SeasonNumeral where
  digits := decimal k
  all_isDigit := all_isDigit_decimal k
  ne_nil := decimal_ne_nil k
  length_le := Nat.length_toDigits_le_iff (by decide) (by decide) |>.mpr (by omega)
  value_ne_zero := by
    rw [decimal, Nat.ofDigitChars_ten_toDigits]
    omega

theorem exists_digits_eq_cons (n : SeasonNumeral) :
    ∃ d more, n.digits = d :: more ∧ d.isDigit = true := by
  obtain ⟨d, more, h⟩ := List.exists_cons_of_ne_nil n.ne_nil
  exact ⟨d, more, h, isDigit_of_mem (h ▸ List.mem_cons_self)⟩

theorem digits_cases (n : SeasonNumeral) :
    (∃ d, n.digits = [d] ∧ d.isDigit = true) ∨
      ∃ d e, n.digits = [d, e] ∧ d.isDigit = true ∧ e.isDigit = true := by
  have hdigit : ∀ c ∈ n.digits, c.isDigit = true := fun c ↦ isDigit_of_mem
  have hlength := n.length_le
  match hn : n.digits with
  | [] => exact absurd hn n.ne_nil
  | [d] => exact .inl ⟨d, rfl, hdigit d (by simp [hn])⟩
  | [d, e] => exact .inr ⟨d, e, rfl, hdigit d (by simp [hn]), hdigit e (by simp [hn])⟩
  | _ :: _ :: _ :: _ =>
    rw [hn, List.length_cons, List.length_cons, List.length_cons] at hlength
    omega

end SeasonNumeral

/-! ## The suffix of an ordinal numeral -/

theorem ordinalSuffix_mem (n : Nat) : ordinalSuffix n ∈ ["st", "nd", "rd", "th"] := by
  rw [ordinalSuffix]
  split
  · simp
  · split <;> simp

/-! ## The names of a season -/

/-- **The name of a season behind a title.** -/
inductive SeasonName where
  /-- In shorthand, as in `S2`. -/
  | shorthand (n : SeasonNumeral)
  /-- With an ordinal numeral, as in `2nd Season`. -/
  | ordinal (n : SeasonNumeral)

namespace SeasonName

/-- The number of the season. -/
def number : SeasonName → Nat
  | shorthand n => n.number
  | ordinal n => n.number

/-- The name as it is written behind a title and a space. -/
def written : SeasonName → List Char
  | shorthand n => 'S' :: n.digits
  | ordinal n => n.digits ++ (ordinalSuffix n.number).toList ++ " Season".toList

/-- **The title with the name of a season behind it.** -/
def title (s : SeasonName) (p : List Char) : List Char := p ++ ' ' :: s.written

/-- The folded name. -/
def tail : SeasonName → List Char
  | shorthand n => 's' :: n.digits
  | ordinal n => n.digits ++ (ordinalSuffix n.number).toList ++ "season".toList

end SeasonName

/-! ## The characters of a name -/

/-- Whether a character may stand in the folded name of a season. -/
def isTailChar (c : Char) : Bool := c.isDigit || "adehnorst".toList.contains c

theorem isBlank_of_isTailChar {c : Char} (h : isTailChar c = true) : isBlank c = false := by
  rw [isTailChar, Bool.or_eq_true, List.contains_iff_mem] at h
  rcases h with hdigit | hletter
  · exact isBlank_eq_false_of_isDigit hdigit
  · have hall : ("adehnorst".toList.all fun c ↦ !isBlank c) = true := by decide
    simpa using List.all_eq_true.mp hall c hletter

namespace SeasonName

variable (s : SeasonName)

theorem isTailChar_of_mem {s : SeasonName} {c : Char} (h : c ∈ s.tail) : isTailChar c = true := by
  have hdigit : ∀ {n : SeasonNumeral}, c ∈ n.digits → isTailChar c = true := fun hc ↦ by
    rw [isTailChar, SeasonNumeral.isDigit_of_mem hc, Bool.true_or]
  cases s with
  | shorthand n =>
    rcases List.mem_cons.mp h with rfl | hc
    · rfl
    · exact hdigit hc
  | ordinal n =>
    have hsuffix : (["st", "nd", "rd", "th"].all fun w ↦ w.toList.all isTailChar) = true := by
      decide
    have hseason : "season".toList.all isTailChar = true := by decide
    rcases List.mem_append.mp h with hc | hc
    · rcases List.mem_append.mp hc with hc | hc
      · exact hdigit hc
      · exact List.all_eq_true.mp (List.all_eq_true.mp hsuffix _ (ordinalSuffix_mem n.number)) c hc
    · exact List.all_eq_true.mp hseason c hc

/-- What is no digit and none of a few letters is not in the folded name. -/
theorem not_mem_tail {c : Char} (h : isTailChar c = false) : c ∉ s.tail :=
  fun hc ↦ Bool.false_ne_true (h.symm.trans (isTailChar_of_mem hc))

theorem tail_ne_nil : s.tail ≠ [] := by
  cases s with
  | shorthand n => exact List.cons_ne_nil _ _
  | ordinal n => simp [tail, n.ne_nil]

theorem two_le_length_tail : 2 ≤ s.tail.length := by
  cases s with
  | shorthand n =>
    rw [tail, List.length_cons]
    exact Nat.succ_le_succ (List.length_pos_iff.mpr n.ne_nil)
  | ordinal n =>
    rw [tail, List.length_append]
    exact Nat.le_add_left_of_le (by decide)

/-- The name begins with a character of its own. -/
theorem exists_tail_eq_cons : ∃ c more, s.tail = c :: more ∧ isTailChar c = true := by
  obtain ⟨c, more, h⟩ := List.exists_cons_of_ne_nil s.tail_ne_nil
  exact ⟨c, more, h, isTailChar_of_mem (h ▸ List.mem_cons_self)⟩

theorem trimmed_tail : Trimmed s.tail :=
  Trimmed.of_none fun _ hc ↦ isBlank_of_isTailChar (isTailChar_of_mem hc)

theorem trim_append_tail (t : List Char) : trim (t ++ s.tail) = trimStart t ++ s.tail :=
  trim_append_of_trimmed s.trimmed_tail s.tail_ne_nil

end SeasonName

/-! ## Folding a title that goes on -/

/-- **What folding makes of a title when more text follows.**  It differs from the folded title only
in that white space at its end stays. -/
def foldStem (p : List Char) : List Char :=
  (trimStart ((lowercase p).filter (· ≠ ' '))).filter (· ≠ '.')

theorem mem_foldStem {p : List Char} {c : Char} (h : c ∈ foldStem p) :
    c ∈ lowercase p ∧ c ≠ ' ' := by
  rw [foldStem, List.mem_filter] at h
  have hmem := List.mem_filter.mp ((List.dropWhile_sublist isBlank).subset h.1)
  exact ⟨hmem.1, of_decide_eq_true hmem.2⟩

theorem space_not_mem_foldStem (p : List Char) : ' ' ∉ foldStem p := fun h ↦ (mem_foldStem h).2 rfl

theorem not_mem_foldStem_of_isUpper {c : Char} (h : c.isUpper = true) (p : List Char) :
    c ∉ foldStem p := fun hc ↦ not_mem_lowercase_of_isUpper h p (mem_foldStem hc).1

/-- What is folded by itself lacks the white space at its end, and nothing else. -/
theorem fold_sublist_foldStem (p : List Char) : (fold p).Sublist (foldStem p) :=
  (isPrefix_trimEnd _).sublist.filter _

theorem mem_fold_of_mem_foldStem {p : List Char} {c : Char} (hc : isBlank c = false)
    (h : c ∈ foldStem p) : c ∈ fold p := by
  rw [foldStem, List.mem_filter, ← List.count_pos_iff, count_trimStart hc] at h
  rw [fold, List.mem_filter, ← List.count_pos_iff, count_trim hc]
  exact h

/-- A title that does not end with white space has the same stem whether it goes on or not. -/
theorem foldStem_eq_fold {p : List Char} (h : ∀ c, p.getLast? = some c → isBlank c = false) :
    foldStem p = fold p := by
  rw [foldStem, fold, trim_eq_trimStart (last_filter (fun _ ↦ ne_space_of_not_isBlank)
    (last_lowercase h))]

/-- **A folded title that goes on falls into two parts**, the stem and what is made of the rest.
The rest has to begin with a character that separates texts. -/
theorem fold_append {p t u : List Char} (ht : ∀ d ∈ t.head?, Separates d)
    (hu : (lowercase t).filter (· ≠ ' ') = u) (htrim : Trimmed u) (hne : u ≠ []) :
    fold (p ++ t) = foldStem p ++ u.filter (· ≠ '.') := by
  cases t with
  | nil => exact absurd hu.symm hne
  | cons d rest =>
    rw [fold, lowercase_append (ht d rfl), List.filter_append, hu,
      trim_append_of_trimmed htrim hne, List.filter_append, foldStem]

/-- **A text that folding leaves as it is**, apart from capitals: no white space and no dots. -/
def Solid (u : List Char) : Prop := ∀ c ∈ u, isBlank c = false ∧ c ≠ '.'

instance (u : List Char) : Decidable (Solid u) :=
  decidable_of_iff (u.all (fun c ↦ !isBlank c && c != '.') = true) <| by
    simp only [Solid, List.all_eq_true, Bool.and_eq_true, Bool.not_eq_true', bne_iff_ne]

theorem Solid.append {u v : List Char} (hu : Solid u) (hv : Solid v) : Solid (u ++ v) :=
  List.forall_mem_append.mpr ⟨hu, hv⟩

theorem Solid.of_digits {u : List Char} (h : u.all Char.isDigit = true) : Solid u := fun c hc ↦
  have hdigit := List.all_eq_true.mp h c hc
  ⟨isBlank_eq_false_of_isDigit hdigit, fun hdot ↦ absurd (hdot ▸ hdigit) (by decide)⟩

theorem Solid.filter_space {u : List Char} (h : Solid u) : u.filter (· ≠ ' ') = u :=
  List.filter_eq_self.mpr fun c hc ↦ ne_space_of_not_isBlank (h c hc).1

/-- The rest may be some words behind a space, which are run together. -/
theorem fold_append_words {p w u : List Char} (hu : (lowercase w).filter (· ≠ ' ') = u)
    (hsolid : Solid u) (hne : u ≠ []) : fold (p ++ ' ' :: w) = foldStem p ++ u := by
  have hspace : (lowercase (' ' :: w)).filter (· ≠ ' ') = u := by
    rw [lowercase_space_cons, List.filter_cons_of_neg (by decide), hu]
  have hdotless : u.filter (· ≠ '.') = u := List.filter_eq_self.mpr fun c hc ↦
    decide_eq_true (hsolid c hc).2
  have hseparates : ∀ d ∈ (' ' :: w).head?, Separates d := by
    rintro d ⟨⟩
    exact separates_space
  rw [fold_append hseparates hspace (Trimmed.of_none fun c hc ↦ (hsolid c hc).1) hne, hdotless]

namespace SeasonName

theorem lowercase_written (s : SeasonName) : (lowercase s.written).filter (· ≠ ' ') = s.tail := by
  have hspaceless : ∀ n : SeasonNumeral, n.digits.filter (· ≠ ' ') = n.digits := fun n ↦
    (Solid.of_digits n.all_isDigit).filter_space
  cases s with
  | shorthand n =>
    have hascii : (shorthand n).written.all isAscii = true := by
      rw [written, List.all_cons, all_isAscii_of_digits n.all_isDigit]
      rfl
    have hsmall : 'S'.toLower = 's' := rfl
    rw [lowercase_of_ascii hascii, written, lowercaseAscii, List.map_cons, ← lowercaseAscii,
      lowercaseAscii_of_digits n.all_isDigit, hsmall, List.filter_cons_of_pos (by decide),
      hspaceless, tail]
  | ordinal n =>
    have hsuffix : ∀ w ∈ ["st", "nd", "rd", "th"],
        (w.toList ++ " Season".toList).all isAscii = true ∧
          (lowercaseAscii (w.toList ++ " Season".toList)).filter (· ≠ ' ') =
            w.toList ++ "season".toList := by
      decide
    obtain ⟨hletters, hlower⟩ := hsuffix _ (ordinalSuffix_mem n.number)
    rw [written, List.append_assoc, lowercase_digits_append n.all_isDigit hletters,
      List.filter_append, hspaceless, hlower, tail, List.append_assoc]

theorem solid_tail (s : SeasonName) : Solid s.tail := fun _ hc ↦
  ⟨isBlank_of_isTailChar (isTailChar_of_mem hc), fun hdot ↦ s.not_mem_tail (by decide) (hdot ▸ hc)⟩

/-- **A folded title falls into the stem and the name of the season.** -/
theorem fold_title (s : SeasonName) (p : List Char) : fold (s.title p) = foldStem p ++ s.tail :=
  fold_append_words s.lowercase_written s.solid_tail s.tail_ne_nil

end SeasonName

end AnimeLookup.Title
