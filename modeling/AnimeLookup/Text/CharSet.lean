/-!
# Sets of characters

Which characters are letters, marks, blanks and so on is data, and it is data over a million code
points.  A `CharSet` stores such a set as closed intervals of code points in increasing order, and
`CharSet.contains` walks the intervals, stopping at the first one that starts after the character.
The common characters have small code points, so for them the walk ends after a few steps.
-/

set_option autoImplicit false

namespace AnimeLookup.Text

/-- A set of characters, as closed intervals of code points in increasing order. -/
structure CharSet where
  /-- The intervals, each given by its first and its last code point. -/
  intervals : List (Nat × Nat)

namespace CharSet

/-- Whether a code point lies in one of the intervals. -/
def covers : List (Nat × Nat) → Nat → Bool
  | [], _ => false
  | (first, last) :: rest, n => decide (first ≤ n) && (decide (n ≤ last) || covers rest n)

/-- Whether the set has the character. -/
def contains (s : CharSet) (c : Char) : Bool := covers s.intervals c.toNat

theorem exists_of_covers {l : List (Nat × Nat)} {n : Nat} (h : covers l n = true) :
    ∃ i ∈ l, i.1 ≤ n ∧ n ≤ i.2 := by
  induction l with
  | nil => simp [covers] at h
  | cons i rest ih =>
    simp only [covers, Bool.and_eq_true, Bool.or_eq_true, decide_eq_true_eq] at h
    rcases h with ⟨hfirst, hlast | hrest⟩
    · exact ⟨i, by simp, hfirst, hlast⟩
    · obtain ⟨j, hj, hb⟩ := ih hrest
      exact ⟨j, List.mem_cons_of_mem _ hj, hb⟩

end CharSet

end AnimeLookup.Text
