import AnimeLookup.Proofs.Text.Replacement

/-!
# The copies of a pattern

`replace` reads a text once and puts the new text for every copy of the pattern that it passes.
`copies pattern s` is the number of these copies, and it is all one has to know in order to count
characters: a text consists of the copies and of what removing them leaves, and the result of a
replacement consists of as many copies of the new text and of the same rest (`countP_eq`,
`countP_replace`).  Whether characters get more or fewer is thus decided by the pattern and the new
text alone.

What is written is not read again, so a replacement may leave copies of its own pattern, or make
copies of another one.  It cannot do so if the new text begins with a character that is foreign to
the pattern in question, and lacks the first character of it: a copy then finds no place where it
could touch anything new (`exists_of_infix_replace`).
-/

set_option autoImplicit false

namespace AnimeLookup.Text

/-! ## Counting -/

/-- The number of copies that `replaceAfter` replaces. -/
def copiesAfter (pattern : List Char) : Nat → List Char → Nat
  | _, [] => 0
  | skip + 1, _ :: rest => copiesAfter pattern skip rest
  | 0, c :: rest =>
    if pattern.isPrefixOf (c :: rest) && !pattern.isEmpty then
      copiesAfter pattern (pattern.length - 1) rest + 1
    else copiesAfter pattern 0 rest

/-- **The number of copies of a pattern** that a replacement finds in a text. -/
def copies (pattern s : List Char) : Nat := copiesAfter pattern 0 s

/-- A pattern that occurs is found. -/
theorem copies_pos {pattern s : List Char} (hne : pattern ≠ []) (h : pattern <:+: s) :
    0 < copies pattern s := by
  induction s with
  | nil => exact absurd (List.infix_nil.mp h) hne
  | cons c rest ih =>
    rw [copies, copiesAfter]
    split
    · exact Nat.succ_pos _
    · rename_i hnot
      have hprefix : ¬ pattern <+: c :: rest := by
        simpa [List.isPrefixOf_iff_prefix, hne] using hnot
      exact ih ((List.infix_cons_iff.mp h).resolve_left hprefix)

section Counting

variable (p : Char → Bool) (pattern new s : List Char)

theorem countP_replaceAfter (skip : Nat) :
    (replaceAfter pattern new skip s).countP p =
      (replaceAfter pattern [] skip s).countP p + copiesAfter pattern skip s * new.countP p := by
  induction s generalizing skip with
  | nil => simp [replaceAfter, copiesAfter]
  | cons c rest ih =>
    cases skip with
    | succ n => exact ih n
    | zero =>
      rw [replaceAfter, replaceAfter, copiesAfter]
      split
      · rw [List.countP_append, ih, List.nil_append, Nat.succ_mul]
        omega
      · rw [List.countP_cons, List.countP_cons, ih]
        omega

/-- **What a replacement makes of a count**: the rest is as before, and every copy counts as the new
text. -/
theorem countP_replace :
    (replace pattern new s).countP p =
      (remove pattern s).countP p + copies pattern s * new.countP p :=
  countP_replaceAfter p pattern new s 0

/-- Putting a pattern for itself changes nothing. -/
theorem replace_self : replace pattern pattern s = s := by
  have hafter : ∀ skip, replaceAfter pattern pattern skip s = s.drop skip := by
    induction s with
    | nil => intro skip; simp [replaceAfter]
    | cons c rest ih =>
      intro skip
      cases skip with
      | succ n => exact ih n
      | zero =>
        rw [replaceAfter]
        split
        · rename_i h
          rw [Bool.and_eq_true, List.isPrefixOf_iff_prefix] at h
          obtain ⟨more, hmore⟩ := h.1
          cases pattern with
          | nil => simp at h
          | cons e pattern =>
            obtain ⟨rfl, rfl⟩ := List.cons.inj hmore
            rw [ih]
            simp
        · rw [ih, List.drop_zero, List.drop_zero]
  exact hafter 0

/-- **A text consists of the copies of a pattern and of what removing them leaves.** -/
theorem countP_eq :
    s.countP p = (remove pattern s).countP p + copies pattern s * pattern.countP p := by
  have h := countP_replace p pattern pattern s
  rwa [replace_self] at h

variable {p pattern new s}

theorem countP_replace_of_eq (h : new.countP p = pattern.countP p) :
    (replace pattern new s).countP p = s.countP p := by
  rw [countP_replace, countP_eq p pattern s, h]

/-- Where the pattern occurs, one copy of it at least is exchanged. -/
theorem countP_replace_add_le (hne : pattern ≠ []) (hoccurs : pattern <:+: s)
    (h : new.countP p ≤ pattern.countP p) :
    (replace pattern new s).countP p + pattern.countP p ≤ s.countP p + new.countP p := by
  obtain ⟨n, hn⟩ := Nat.exists_eq_add_one.mpr (copies_pos hne hoccurs)
  have hmul : n * new.countP p ≤ n * pattern.countP p := Nat.mul_le_mul_left n h
  rw [countP_replace, countP_eq p pattern s, hn, Nat.succ_mul, Nat.succ_mul]
  omega

end Counting

/-! ## Lengths -/

section Lengths

variable {pattern new s : List Char}

theorem length_replace_of_eq (h : new.length = pattern.length) :
    (replace pattern new s).length = s.length := by
  have hcount : (replace pattern new s).countP (fun _ ↦ true) = s.countP (fun _ ↦ true) :=
    countP_replace_of_eq (by simpa using h)
  simpa using hcount

theorem length_replace_add_le (hne : pattern ≠ []) (hoccurs : pattern <:+: s)
    (h : new.length ≤ pattern.length) :
    (replace pattern new s).length + pattern.length ≤ s.length + new.length := by
  have hcount : (replace pattern new s).countP (fun _ ↦ true) + pattern.countP (fun _ ↦ true) ≤
      s.countP (fun _ ↦ true) + new.countP (fun _ ↦ true) :=
    countP_replace_add_le hne hoccurs (by simpa using h)
  simpa using hcount

end Lengths

/-! ## Copies that are left -/

section Left

variable {pattern new q s : List Char} {d e : Char}

/-- Nothing begins in a text that lacks its first character. -/
theorem infix_of_infix_append {u v : List Char} (h : e ∉ u) (hin : e :: q <:+: u ++ v) :
    e :: q <:+: v := by
  induction u with
  | nil => exact hin
  | cons c rest ih =>
    rw [List.mem_cons, not_or] at h
    rcases List.infix_cons_iff.mp hin with hstart | hrest
    · exact absurd (List.cons_prefix_cons.mp hstart).1 h.1
    · exact ih h.2 hrest

/-- A text without the first of the new characters, at the beginning of the result, has stood
there before. -/
theorem isPrefix_of_isPrefix_replace (hd : d ∉ q) (h : q <+: replace pattern (d :: new) s) :
    q <+: s := by
  induction s generalizing q with
  | nil => simpa using h
  | cons c rest ih =>
    cases q with
    | nil => exact List.nil_prefix
    | cons e q =>
      rw [List.mem_cons, not_or] at hd
      rw [replace, replaceAfter] at h
      split at h
      · exact absurd (List.cons_prefix_cons.mp h).1.symm hd.1
      · obtain ⟨rfl, hq⟩ := List.cons_prefix_cons.mp h
        exact List.cons_prefix_cons.mpr ⟨rfl, ih hd.2 hq⟩

theorem exists_of_infix_replaceAfter (hne : pattern ≠ []) (hd : d ∉ e :: q) (he : e ∉ d :: new)
    {skip : Nat} (h : e :: q <:+: replaceAfter pattern (d :: new) skip s) :
    ∃ t, t <:+ s ∧ e :: q <+: t ∧ ¬ pattern <+: t := by
  induction s generalizing skip with
  | nil => exact absurd (List.infix_nil.mp h) (List.cons_ne_nil _ _)
  | cons c rest ih =>
    -- What is found behind the first character is found in the rest of the text.
    have hrest : ∀ {skip}, e :: q <:+: replaceAfter pattern (d :: new) skip rest →
        ∃ t, t <:+ c :: rest ∧ e :: q <+: t ∧ ¬ pattern <+: t := fun h ↦ by
      obtain ⟨t, ht, hq, hnot⟩ := ih h
      exact ⟨t, ht.trans (List.suffix_cons c rest), hq, hnot⟩
    cases skip with
    | succ n => exact hrest h
    | zero =>
      have hreplace : replaceAfter pattern (d :: new) 0 (c :: rest) =
          replace pattern (d :: new) (c :: rest) := rfl
      by_cases hstart : pattern <+: c :: rest
      · rw [replaceAfter, if_pos (by simpa [List.isPrefixOf_iff_prefix, hne] using hstart)] at h
        exact hrest (infix_of_infix_append he h)
      · rw [hreplace, replace_cons_of_not_startsWith hstart] at h
        rcases List.infix_cons_iff.mp h with hbegin | hin
        · rw [← replace_cons_of_not_startsWith hstart] at hbegin
          exact ⟨_, List.suffix_rfl, isPrefix_of_isPrefix_replace hd hbegin, hstart⟩
        · exact hrest hin

/-- **What occurs in the result has occurred before**, and not at a copy of the pattern, provided
that it can neither reach into what is new nor begin there. -/
theorem exists_of_infix_replace (hne : pattern ≠ []) (hd : d ∉ e :: q) (he : e ∉ d :: new)
    (h : e :: q <:+: replace pattern (d :: new) s) :
    ∃ t, t <:+ s ∧ e :: q <+: t ∧ ¬ pattern <+: t :=
  exists_of_infix_replaceAfter hne hd he h

theorem infix_of_infix_replace (hne : pattern ≠ []) (hd : d ∉ e :: q) (he : e ∉ d :: new)
    (h : e :: q <:+: replace pattern (d :: new) s) : e :: q <:+: s := by
  obtain ⟨t, ht, hq, -⟩ := exists_of_infix_replace hne hd he h
  exact hq.isInfix.trans ht.isInfix

/-- **No copy of the pattern is left.** -/
theorem not_infix_replace (hd : d ∉ e :: q) (he : e ∉ d :: new) :
    ¬ e :: q <:+: replace (e :: q) (d :: new) s := fun h ↦ by
  obtain ⟨t, -, hq, hnot⟩ := exists_of_infix_replace (List.cons_ne_nil e q) hd he h
  exact hnot hq

end Left

end AnimeLookup.Text
