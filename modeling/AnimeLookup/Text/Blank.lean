import AnimeLookup.Text.CharSet

/-!
# White space

The blanks of every script: the ASCII ones (tab to carriage return, and the space), next line, the
no-break space, the typographic spaces, the line and paragraph separators, and the ideographic
space.  `trim` removes them from both ends of a text and from nowhere else.

Texts are lists of characters throughout the title functions.  Every one of them walks its text
from left to right, and a list is what such a walk recurses on.
-/

set_option autoImplicit false

namespace AnimeLookup.Text

/-- The white space characters. -/
def blankChars : CharSet := ⟨
  [(0x9, 0xD), (0x20, 0x20), (0x85, 0x85), (0xA0, 0xA0), (0x1680, 0x1680), (0x2000, 0x200A),
    (0x2028, 0x2029), (0x202F, 0x202F), (0x205F, 0x205F), (0x3000, 0x3000)]⟩

/-- Whether a character is white space. -/
def isBlank (c : Char) : Bool := blankChars.contains c

theorem isBlank_space : isBlank ' ' = true := by decide

/-- The text without the white space it begins with. -/
def trimStart (s : List Char) : List Char := s.dropWhile isBlank

/-- The text without the white space it ends with. -/
def trimEnd (s : List Char) : List Char := (trimStart s.reverse).reverse

/-- The text without the white space at its two ends. -/
def trim (s : List Char) : List Char := trimEnd (trimStart s)

/-- Whether nothing but white space is there. -/
def allBlank (s : List Char) : Bool := s.all isBlank

theorem trimStart_eq_nil_iff (s : List Char) : trimStart s = [] ↔ allBlank s = true := by
  induction s with
  | nil => simp [trimStart, allBlank]
  | cons c rest ih =>
    by_cases h : isBlank c = true
    · have htrim : trimStart (c :: rest) = trimStart rest := by simp [trimStart, h]
      have hall : allBlank (c :: rest) = allBlank rest := by simp [allBlank, h]
      rw [htrim, hall]
      exact ih
    · simp [trimStart, allBlank, h]

theorem trim_eq_nil_iff (s : List Char) : trim s = [] ↔ allBlank s = true := by
  rw [trim, trimEnd, List.reverse_eq_nil_iff, trimStart_eq_nil_iff, allBlank, List.all_reverse]
  constructor
  · intro h
    rw [← trimStart_eq_nil_iff]
    cases hs : trimStart s with
    | nil => rfl
    | cons c rest =>
      have hhead : isBlank c = false := by
        have := List.head?_dropWhile_not isBlank s
        rw [show s.dropWhile isBlank = c :: rest from hs] at this
        simpa using this
      rw [hs, List.all_cons, hhead, Bool.false_and] at h
      exact absurd h Bool.false_ne_true
  · intro h
    rw [(trimStart_eq_nil_iff s).mpr h, List.all_nil]

@[simp] theorem trim_nil : trim [] = [] := rfl

/-- A digit is no white space: the digits lie between two intervals of white space. -/
theorem isBlank_eq_false_of_isDigit {c : Char} (h : c.isDigit = true) : isBlank c = false := by
  have hrange : 48 ≤ c.toNat ∧ c.toNat ≤ 57 := by
    simp only [Char.isDigit, Bool.and_eq_true, decide_eq_true_eq] at h
    exact h
  have : ∀ n, 48 ≤ n → n ≤ 57 → CharSet.covers blankChars.intervals n = false := by
    intro n hlow hhigh
    have hn : n = 48 ∨ n = 49 ∨ n = 50 ∨ n = 51 ∨ n = 52 ∨ n = 53 ∨ n = 54 ∨ n = 55 ∨ n = 56 ∨
        n = 57 := by omega
    rcases hn with rfl | rfl | rfl | rfl | rfl | rfl | rfl | rfl | rfl | rfl <;> rfl
  exact this _ hrange.1 hrange.2

end AnimeLookup.Text
