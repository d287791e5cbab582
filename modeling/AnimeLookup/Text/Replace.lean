/-!
# Finding and replacing

`replace pattern new s` reads `s` from the left, puts `new` where `pattern` occurs, and goes on
after that occurrence; what it has written is not read again.  So of two overlapping occurrences
the left one is replaced, and a replacement that would complete a new occurrence with its
neighbours leaves it standing.

The walk is a recursion on the text itself.  While an occurrence is being passed over, `skip`
counts the characters of it that are still to come, which spares the recursion an argument about
the length of what is left.
-/

set_option autoImplicit false

namespace AnimeLookup.Text

/-- Whether the pattern occurs somewhere in the text. -/
def occurs (pattern : List Char) : List Char → Bool
  | [] => pattern.isEmpty
  | c :: rest => pattern.isPrefixOf (c :: rest) || occurs pattern rest

/-- `replace`, with `skip` characters of an occurrence still to be passed over. -/
def replaceAfter (pattern new : List Char) : Nat → List Char → List Char
  | _, [] => []
  | skip + 1, _ :: rest => replaceAfter pattern new skip rest
  | 0, c :: rest =>
    if pattern.isPrefixOf (c :: rest) && !pattern.isEmpty then
      new ++ replaceAfter pattern new (pattern.length - 1) rest
    else c :: replaceAfter pattern new 0 rest

/-- **The text with `new` in the place of every occurrence of the pattern.**  An empty pattern
occurs nowhere. -/
def replace (pattern new s : List Char) : List Char := replaceAfter pattern new 0 s

/-- The text without the occurrences of the pattern. -/
def remove (pattern s : List Char) : List Char := replace pattern [] s

theorem occurs_iff (pattern s : List Char) : occurs pattern s = true ↔ pattern <:+: s := by
  induction s with
  | nil => simp [occurs]
  | cons c rest ih =>
    rw [occurs, Bool.or_eq_true, List.isPrefixOf_iff_prefix, ih, List.infix_cons_iff]

@[simp] theorem replace_nil (pattern new : List Char) : replace pattern new [] = [] := by
  simp [replace, replaceAfter]

/-- Passing over an occurrence is dropping it. -/
theorem replaceAfter_eq_drop (pattern new : List Char) (skip : Nat) (s : List Char) :
    replaceAfter pattern new skip s = replace pattern new (s.drop skip) := by
  induction skip generalizing s with
  | zero => rfl
  | succ n ih =>
    cases s with
    | nil => simp [replaceAfter]
    | cons c rest => rw [replaceAfter, ih, List.drop_succ_cons]

theorem replace_cons_of_startsWith {pattern new s : List Char} {c : Char}
    (h : (c :: pattern) <+: s) :
    replace (c :: pattern) new s =
      new ++ replace (c :: pattern) new (s.drop (pattern.length + 1)) := by
  cases s with
  | nil => simp at h
  | cons d rest =>
    rw [replace, replaceAfter, if_pos (by simpa [List.isPrefixOf_iff_prefix] using h),
      replaceAfter_eq_drop]
    simp

theorem replace_cons_of_not_startsWith {pattern new rest : List Char} {c : Char}
    (h : ¬ pattern <+: (c :: rest)) :
    replace pattern new (c :: rest) = c :: replace pattern new rest := by
  rw [replace, replaceAfter, if_neg (by simp [List.isPrefixOf_iff_prefix, h]), replace]

/-- A pattern that does not occur leaves the text as it is. -/
theorem replace_eq_self {pattern s : List Char} (new : List Char) (h : ¬ pattern <:+: s) :
    replace pattern new s = s := by
  induction s with
  | nil => simp
  | cons c rest ih =>
    rw [List.infix_cons_iff, not_or] at h
    rw [replace_cons_of_not_startsWith h.1, ih h.2]

/-! ## Cutting at a character -/

/-- The text up to and including the first occurrence of `c`, if it has one. -/
def through (c : Char) : List Char → Option (List Char)
  | [] => none
  | d :: rest => if d = c then some [d] else (through c rest).map (d :: ·)

theorem through_eq_none_iff (c : Char) (s : List Char) : through c s = none ↔ c ∉ s := by
  induction s with
  | nil => simp [through]
  | cons d rest ih =>
    by_cases h : d = c
    · simp [through, h]
    · simp [through, h, ih, Ne.symm h]

end AnimeLookup.Text
