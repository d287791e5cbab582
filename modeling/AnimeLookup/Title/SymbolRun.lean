import AnimeLookup.Text.Lowercase
import AnimeLookup.Text.Numeral

/-!
# Runs of a symbol

Sequels are numbered in two ways that a plain comparison misses: by Roman numerals (`Title II`) and
by emphasis (`Title!!`).  Both repeat one symbol, and both mean the length of the repetition.
`symbolRun symbol s` writes that length: the runs of the symbol, in either case, that are as long
as the longest one are replaced by their length in decimal, and the shorter ones stay.

Only the longest runs are counted because only they are likely to be the numeral; the single
`I` of an English pronoun beside a `III` is left alone.
-/

set_option autoImplicit false

namespace AnimeLookup.Title

open Text

/-- The length of the longest run of characters with the property, where `current` of them have
just been passed. -/
def longestRunAfter (p : Char → Bool) (current : Nat) : List Char → Nat
  | [] => current
  | c :: rest =>
    if p c then longestRunAfter p (current + 1) rest
    else max current (longestRunAfter p 0 rest)

/-- The length of the longest run of characters with the property. -/
def longestRun (p : Char → Bool) (s : List Char) : Nat := longestRunAfter p 0 s

/-- A run as it is written: its length, if that is the length looked for, and itself otherwise. -/
def writeRun (length : Nat) (run : List Char) : List Char :=
  if run.length = length then decimal length else run

/-- The text with the runs of the given length replaced by that length, where `run` is the part of
a run that has just been passed. -/
def countRunsAfter (p : Char → Bool) (length : Nat) (run : List Char) : List Char → List Char
  | [] => writeRun length run
  | c :: rest =>
    if p c then countRunsAfter p length (run ++ [c]) rest
    else writeRun length run ++ c :: countRunsAfter p length [] rest

/-- **The text with its longest runs of the symbol replaced by their length.**  A text without the
symbol stays as it is. -/
def symbolRun (symbol : Char) (s : List Char) : List Char :=
  let p := sameUpToCase symbol
  let length := longestRun p s
  if length = 0 then s else countRunsAfter p length [] s

theorem le_longestRunAfter (p : Char → Bool) (s : List Char) (current : Nat) :
    current ≤ longestRunAfter p current s := by
  induction s generalizing current with
  | nil => exact Nat.le_refl _
  | cons c rest ih =>
    rw [longestRunAfter]
    split
    · exact Nat.le_of_succ_le (ih _)
    · exact Nat.le_max_left _ _

/-- There is no run exactly when there is no such character. -/
theorem longestRun_eq_zero_iff (p : Char → Bool) (s : List Char) :
    longestRun p s = 0 ↔ ∀ c ∈ s, p c = false := by
  rw [longestRun]
  induction s with
  | nil => simp [longestRunAfter]
  | cons c rest ih =>
    rw [longestRunAfter]
    by_cases h : p c = true
    · have := le_longestRunAfter p rest (0 + 1)
      simp only [h, if_true, List.mem_cons, forall_eq_or_imp, Bool.true_eq_false, false_and,
        iff_false]
      omega
    · simp only [h, Bool.false_eq_true, if_false, Nat.max_eq_zero_iff, true_and, ih,
        List.mem_cons, forall_eq_or_imp]

end AnimeLookup.Title
