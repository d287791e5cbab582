import AnimeLookup.Catalog.RateLimit
import Mathlib.Algebra.Group.Nat.Defs
import Mathlib.Data.List.Induction

/-!
# How far requests are slowed down

A limiter is asked to slow down by every refusal, and it may go back to its base period when a
request comes after a minute without one.  This file is about the runs in which that does not
happen (`NeverQuiet`).  In them the factor is known from the number of refusals alone: it has
doubled with each of them and stopped at sixteen (`slowdown_of_neverQuiet`).

`Paced base k` says what the limiter is like after `k` refusals.  Every event keeps it or takes `k`
to `k + 1`, and only a request that comes after a quiet period would break it.  When the last
refusal was is read off the run (`sinceRefusal_afterAll`), so that `NeverQuiet` need not mention the
limiter.

What the gate makes of a period is left open.  It is only ever set to the base period or to one of
its multiples up to the sixteenth, so a gate that can be set to all of these never fails.
-/

set_option autoImplicit false

namespace AnimeLookup.Catalog.Limiter

/-! ## Runs of events -/

/-- The time that an event takes. -/
def Event.time : Event → ℕ
  | .passed time => time
  | .refused => 0
  | .acquired => 0

/-- The time that a run of events takes. -/
def elapsed : List Event → ℕ
  | [] => 0
  | e :: rest => e.time + elapsed rest

/-- The events of a run since its last refusal, the last one first. -/
def sinceLast (events : List Event) : List Event :=
  events.reverse.takeWhile fun e ↦ decide (e ≠ .refused)

/-- **A run in which no request comes after a quiet period**: before each of them there has been no
refusal yet, or the time since the last one is shorter. -/
def NeverQuiet (events : List Event) : Prop :=
  ∀ n < events.length, events[n]? = some .acquired → .refused ∈ events.take n →
    elapsed (sinceLast (events.take n)) < quietPeriod

instance (events : List Event) : Decidable (NeverQuiet events) :=
  inferInstanceAs (Decidable (∀ n < events.length, events[n]? = some .acquired →
    .refused ∈ events.take n → elapsed (sinceLast (events.take n)) < quietPeriod))

theorem sinceLast_concat_refused (events : List Event) :
    sinceLast (events ++ [.refused]) = [] := by
  rw [sinceLast, List.reverse_concat, List.takeWhile_cons_of_neg (by simp)]

theorem sinceLast_concat {e : Event} (h : e ≠ .refused) (events : List Event) :
    sinceLast (events ++ [e]) = e :: sinceLast events := by
  rw [sinceLast, List.reverse_concat, List.takeWhile_cons_of_pos (by simpa using h), sinceLast]

theorem afterAll_concat (l : Limiter) (events : List Event) (e : Event) :
    l.afterAll (events ++ [e]) = (l.afterAll events).after e :=
  List.foldl_append

/-- The history of a run holds the limiter after each of its beginnings. -/
theorem history_eq_map (l : Limiter) (events : List Event) :
    l.history events = (List.range events.length).map fun n ↦ l.afterAll (events.take (n + 1)) := by
  induction events generalizing l with
  | nil => rfl
  | cons e rest ih =>
    rw [history, ih, List.length_cons, List.range_succ_eq_map, List.map_cons, List.map_map]
    rfl

/-! ## The last refusal -/

/-- Requests have no part in when the last refusal was. -/
theorem sinceRefusal_acquired (l : Limiter) :
    (l.after .acquired).sinceRefusal = l.sinceRefusal := by
  rw [after]
  split <;> rfl

/-- **What a limiter knows of the last refusal** is when it was, if there has been one. -/
theorem sinceRefusal_afterAll (base : ℕ) (events : List Event) :
    ((ofBase base).afterAll events).sinceRefusal =
      if .refused ∈ events then some (elapsed (sinceLast events)) else none := by
  induction events using List.reverseRecOn with
  | nil => rfl
  | append_singleton events e ih =>
    rw [afterAll_concat]
    cases e with
    | refused =>
      rw [after, sinceRefusal_slowed, sinceLast_concat_refused, if_pos List.mem_concat_self]
      rfl
    | acquired =>
      rw [sinceRefusal_acquired, ih, sinceLast_concat (by simp), elapsed, Event.time, Nat.zero_add]
      simp
    | passed time =>
      rw [after, sinceLast_concat (by simp), elapsed, Event.time, Nat.add_comm]
      simp only [ih]
      split <;> simp_all

/-- In a run in which no request comes after a quiet period the limiter finds none. -/
theorem isQuiet_eq_false {events : List Event} (hquiet : NeverQuiet events) (base : ℕ) {n : ℕ}
    (h : events[n]? = some .acquired) :
    ((ofBase base).afterAll (events.take n)).isQuiet = false := by
  refine (isQuiet_eq_false_iff _).mpr fun t ht ↦ ?_
  rw [sinceRefusal_afterAll, Option.mem_def, Option.ite_none_right_eq_some,
    Option.some.injEq] at ht
  obtain ⟨hmem, rfl⟩ := ht
  exact hquiet n (List.getElem?_eq_some_iff.mp h).1 h hmem

/-! ## What every event keeps -/

/-- **A limiter after `k` refusals**, if it has not gone back to its base period. -/
structure Paced (base k : ℕ) (l : Limiter) : Prop where
  /-- The base period is the same as ever. -/
  basePeriod : l.basePeriod = base
  /-- The factor has doubled with each refusal and stopped at the largest one. -/
  factor : l.factor.toNat = min (2 ^ k) 16
  /-- The gate keeps to a multiple of the base period, and to the one that the factor asks for if
  all of them can be reckoned with. -/
  period : ∃ m, 1 ≤ m ∧ m ≤ 16 ∧ l.period = m * base ∧
    (16 * base < periodBound → m = l.factor.toNat)

theorem paced_ofBase (period : ℕ) : Paced (max period millisecond) 0 (ofBase period) where
  basePeriod := rfl
  factor := rfl
  period := ⟨1, Nat.le_refl 1, by decide, (Nat.one_mul _).symm, fun _ ↦ rfl⟩

/-- Doubling and stopping at sixteen goes through the powers of two. -/
theorem min_two_pow_mem (k : ℕ) : min (2 ^ k) 16 ∈ [1, 2, 4, 8, 16] := by
  rcases Nat.lt_or_ge k 4 with hlt | hge
  · have hsmall : ∀ k < 4, min (2 ^ k) 16 ∈ [1, 2, 4, 8, 16] := by decide
    exact hsmall k hlt
  · have hlarge : 16 ≤ 2 ^ k := Nat.pow_le_pow_right (n := 2) (by decide) hge
    rw [Nat.min_eq_right hlarge]
    simp

namespace Paced

variable {base k : ℕ} {l : Limiter}

theorem factor_mem (h : Paced base k l) : l.factor ∈ [1, 2, 4, 8, 16] := by
  have hmem := List.mem_map_of_mem (f := UInt32.ofNat) (min_two_pow_mem k)
  rwa [← h.factor, UInt32.ofNat_toNat] at hmem

theorem factor_bounds (h : Paced base k l) : 1 ≤ l.factor.toNat ∧ l.factor.toNat ≤ 16 := by
  rw [h.factor]
  exact ⟨Nat.le_min.mpr ⟨Nat.one_le_two_pow, by decide⟩, Nat.min_le_right _ _⟩

/-- The factor can be doubled. -/
theorem two_mul_factor_lt (h : Paced base k l) : 2 * l.factor.toNat < UInt32.size := by
  have hsize : 32 < UInt32.size := by decide
  have hle := h.factor_bounds.2
  omega

/-- A refusal doubles the factor as a number, which means that nothing overflows. -/
theorem toNat_factor_refused (h : Paced base k l) :
    (l.after .refused).factor.toNat = min (2 * l.factor.toNat) 16 := by
  have hdouble : (l.factor * 2).toNat = 2 * l.factor.toNat := by
    rw [UInt32.toNat_mul, Nat.mul_comm]
    exact Nat.mod_eq_of_lt h.two_mul_factor_lt
  rw [factor_refused, UInt32.toNat_min, hdouble]
  rfl

/-- A refusal counts. -/
theorem refused (h : Paced base k l) : Paced base (k + 1) (l.after .refused) where
  basePeriod := (basePeriod_after l .refused).trans h.basePeriod
  factor := by
    rw [h.toNat_factor_refused, h.factor, pow_succ]
    omega
  period := by
    obtain ⟨hlow, hhigh⟩ := h.factor_bounds
    have hfactor : (min (l.factor * 2) maxFactor).toNat = min (2 * l.factor.toNat) 16 :=
      (factor_refused l) ▸ h.toNat_factor_refused
    rw [factor_refused, after]
    by_cases hlt : l.basePeriod * (min (l.factor * 2) maxFactor).toNat < periodBound
    · refine ⟨_, ?_, ?_, ?_, fun _ ↦ rfl⟩
      · omega
      · omega
      · rw [period_slowed_of_lt hlt, h.basePeriod, Nat.mul_comm]
    · -- Where a period is too long to be reckoned with, the gate stays as it was.
      obtain ⟨m, hm⟩ := h.period
      rw [Nat.not_lt] at hlt
      rw [period_slowed_of_le hlt]
      refine ⟨m, hm.1, hm.2.1, hm.2.2.1, fun hall ↦ absurd hlt (Nat.not_le.mpr ?_)⟩
      rw [h.basePeriod, Nat.mul_comm]
      exact Nat.lt_of_le_of_lt (Nat.mul_le_mul_right base (by omega)) hall

/-- A request that does not come after a quiet period changes nothing. -/
theorem acquired (h : Paced base k l) (hquiet : l.isQuiet = false) :
    Paced base k (l.after .acquired) := by
  rwa [after, hquiet, Bool.false_and, if_neg Bool.false_ne_true]

theorem passed (h : Paced base k l) (time : ℕ) : Paced base k (l.after (.passed time)) :=
  ⟨h.basePeriod, h.factor, h.period⟩

end Paced

/-- **The limiter on its way through a run** in which no request comes after a quiet period. -/
theorem paced_take {events : List Event} (hquiet : NeverQuiet events) (base n : ℕ) :
    Paced (max base millisecond) ((events.take n).count .refused)
      ((ofBase base).afterAll (events.take n)) := by
  induction n with
  | zero => exact paced_ofBase base
  | succ n ih =>
    rw [List.take_add_one]
    cases he : events[n]? with
    | none => simpa using ih
    | some e =>
      rw [Option.toList_some, afterAll_concat, List.count_append]
      cases e with
      | refused => exact ih.refused
      | acquired => exact ih.acquired (isQuiet_eq_false hquiet base he)
      | passed time => exact ih.passed time

/-- **How far requests are slowed down** in a run in which none comes after a quiet period, for
every base period, if the gate can be set to it and to its multiples up to the sixteenth.  After
each event the factor has doubled with each refusal so far and stopped at sixteen.  So it never gets
smaller and can always be doubled once more.  The base period stays.  The gate is never set to a
period that it does not take, and keeps to the base period times the factor if all the multiples can
be reckoned with. -/
theorem slowdown_of_neverQuiet (takes : ℕ → Prop) (base : ℕ) (events : List Event)
    (hquiet : NeverQuiet events)
    (htakes : ∀ m, 1 ≤ m → m ≤ 16 → takes (m * max base millisecond)) :
    let l (n : ℕ) := (ofBase base).afterAll (events.take n)
    (ofBase base).history events = (List.range events.length).map (fun n ↦ l (n + 1)) ∧
      (∀ n, (l n).factor.toNat = min (2 ^ (events.take n).count .refused) 16) ∧
      (∀ n, (l n).factor ∈ [1, 2, 4, 8, 16]) ∧
      (∀ m n, m ≤ n → (l m).factor ≤ (l n).factor) ∧
      (∀ n, 2 * (l n).factor.toNat < UInt32.size) ∧
      (∀ n, (l n).basePeriod = max base millisecond) ∧
      ∀ n, takes (l n).period ∧ (16 * max base millisecond < periodBound →
        (l n).period = (l n).factor.toNat * max base millisecond) := by
  intro l
  have hpaced (n : ℕ) : Paced (max base millisecond) ((events.take n).count .refused) (l n) :=
    paced_take hquiet base n
  refine ⟨history_eq_map _ events, fun n ↦ (hpaced n).factor, fun n ↦ (hpaced n).factor_mem,
    fun m n hle ↦ ?_, fun n ↦ (hpaced n).two_mul_factor_lt, fun n ↦ (hpaced n).basePeriod,
    fun n ↦ ?_⟩
  · have hcount : (events.take m).count .refused ≤ (events.take n).count .refused :=
      (List.take_sublist_take_left hle).count_le _
    have hpow := Nat.pow_le_pow_right (n := 2) (by decide) hcount
    rw [UInt32.le_iff_toNat_le, (hpaced m).factor, (hpaced n).factor]
    omega
  · obtain ⟨m, hlow, hhigh, hperiod, hfactor⟩ := (hpaced n).period
    exact ⟨hperiod ▸ htakes m hlow hhigh, fun hall ↦ hfactor hall ▸ hperiod⟩

/-- Requests at 700 milliseconds each and three refusals, the last two of them almost a minute
apart, in front of a gate that takes every period of at most 64 bits of nanoseconds. -/
theorem slowdown_three_refusals :
    let events := [.refused, .acquired, .refused, .passed (60 * second - 1), .acquired, .refused]
    let takes (period : ℕ) := 0 < period ∧ period < UInt64.size
    let l (n : ℕ) := (ofBase (700 * millisecond)).afterAll (events.take n)
    NeverQuiet events ∧
      (∀ m, 1 ≤ m → m ≤ 16 → takes (m * max (700 * millisecond) millisecond)) ∧
      (l 6).factor.toNat = 8 ∧ takes (l 6).period := by
  intro events takes l
  have hquiet : NeverQuiet events := by decide
  have htakes : ∀ m, 1 ≤ m → m ≤ 16 → takes (m * max (700 * millisecond) millisecond) := by
    intro m hlow hhigh
    have hbase : max (700 * millisecond) millisecond = 700000000 := rfl
    have hsize : UInt64.size = 18446744073709551616 := rfl
    rw [hbase]
    exact ⟨by omega, by omega⟩
  obtain ⟨-, hfactor, -, -, -, -, hperiod⟩ :=
    slowdown_of_neverQuiet takes (700 * millisecond) events hquiet htakes
  exact ⟨hquiet, htakes, hfactor 6, (hperiod 6).1⟩

end AnimeLookup.Catalog.Limiter
