import AnimeLookup.Catalog.Error
import AnimeLookup.Text.Blank
import AnimeLookup.Text.Replace

/-!
# Keeping to a catalog's pace

Two things are known about how fast a catalog may be asked: what it says when it refuses (status
429, perhaps with a `Retry-After` header), and how often it has refused before.

`checkRateLimit` recognises a refusal and reads the header.  A time in seconds is taken as it is; a
date is not computed with, but answered with a fixed short wait.

`Limiter` spaces requests out.  Each refusal doubles the spacing, up to sixteen times the base
period; when a request comes after a minute without a refusal, the base period applies again.
-/

set_option autoImplicit false

namespace AnimeLookup.Catalog

open Text

/-! ## The header -/

/-- The wait for a time given as a date, in seconds. -/
def dateWaitSecs : Nat := 5

/-- **The seconds that the value of a `Retry-After` header asks for**: a number of seconds that
fits into 64 bits, or the fixed wait for what looks like a date. -/
def parseRetryAfter (value : List Char) : Option Nat :=
  match readUnsigned UInt64.size (trim value) with
  | some secs => some secs
  | none => if value.contains ',' || occurs "GMT".toList value then some dateWaitSecs else none

/-- A header of an answer. -/
structure Header where
  /-- Its name, in which case does not matter. -/
  name : String
  /-- Its value, in bytes. -/
  value : List UInt8

/-- Whether a byte is a visible ASCII character, a space or a tab. -/
def isHeaderTextByte (b : UInt8) : Bool := b.toNat == 9 || (32 ≤ b.toNat && b.toNat < 127)

/-- The value of a header as text, if it is plain ASCII. -/
def Header.text? (h : Header) : Option (List Char) :=
  if h.value.all isHeaderTextByte then some (h.value.map fun b ↦ Char.ofNat b.toNat) else none

/-- Whether a header has the given name, which is in small letters. -/
def Header.isNamed (h : Header) (name : String) : Bool :=
  h.name.toList.map Char.toLower == name.toList

/-- The milliseconds that the headers of an answer ask to wait.  Only the first `Retry-After`
header counts, even if it cannot be read. -/
def retryAfterMs (headers : List Header) : Option Nat := do
  let h ← headers.find? (·.isNamed "retry-after")
  let value ← h.text?
  return (← parseRetryAfter value) * 1000

/-- **The error of an answer that refuses requests for now.** -/
def checkRateLimit (status : Nat) (headers : List Header) : Except CatalogError Unit :=
  if status = 429 then .error (.rateLimited (retryAfterMs headers)) else .ok ()

theorem checkRateLimit_eq_ok_iff (status : Nat) (headers : List Header) :
    checkRateLimit status headers = .ok () ↔ status ≠ 429 := by
  rw [checkRateLimit]
  split <;> simp_all

/-! ## The spacing of requests

A gate lets one request through in each period.  How requests wait in front of it is not decided
here, only which period it keeps to.  Times are in nanoseconds. -/

/-- A microsecond. -/
def microsecond : Nat := 1000

/-- A millisecond, which is the shortest period. -/
def millisecond : Nat := 1000 * microsecond

/-- A second. -/
def second : Nat := 1000 * millisecond

/-- The time without a refusal after which the base period applies again. -/
def quietPeriod : Nat := 60 * second

/-- What no period reaches: its whole seconds are counted in 64 bits. -/
def periodBound : Nat := UInt64.size * second

/-- The largest factor by which requests are slowed down. -/
def maxFactor : UInt32 := 16

/-- The spacing of requests to a catalog. -/
structure Limiter where
  /-- The period when the catalog has not refused for long. -/
  basePeriod : Nat
  /-- The factor by which requests are slowed down now. -/
  factor : UInt32
  /-- The period that the gate keeps to. -/
  period : Nat
  /-- How long ago the catalog refused last, if it ever has. -/
  sinceRefusal : Option Nat
  deriving DecidableEq

namespace Limiter

/-- **The spacing with a base period**, which is at least a millisecond. -/
def ofBase (period : Nat) : Limiter :=
  ⟨max period millisecond, 1, max period millisecond, none⟩

/-- The spacing with a base period in microseconds. -/
def ofPeriod (periodUs : Nat) : Limiter := ofBase (periodUs * microsecond)

/-- The base period in whole microseconds. -/
def basePeriodUs (l : Limiter) : Nat := l.basePeriod / microsecond

/-- Whether the last refusal is so long ago that the base period applies again. -/
def isQuiet (l : Limiter) : Bool := l.sinceRefusal.any (quietPeriod ≤ ·)

/-- The gate with the period that the factor asks for, or as it was if there is no such period. -/
def slowed (l : Limiter) : Limiter :=
  if l.basePeriod * l.factor.toNat < periodBound then
    { l with period := l.basePeriod * l.factor.toNat }
  else l

/-- An event that concerns the spacing. -/
inductive Event where
  /-- The catalog has refused a request. -/
  | refused
  /-- A request comes to the gate. -/
  | acquired
  /-- Time has passed. -/
  | passed (time : Nat)
  deriving DecidableEq

/-- **The spacing after an event.**  A refusal doubles the factor up to the largest one.  A request
that comes when the catalog has been quiet for long restores the base period. -/
def after (l : Limiter) : Event → Limiter
  | .refused => slowed { l with factor := min (l.factor * 2) maxFactor, sinceRefusal := some 0 }
  | .acquired =>
    if l.isQuiet && 1 < l.factor then { l with factor := 1, period := l.basePeriod } else l
  | .passed time => { l with sinceRefusal := l.sinceRefusal.map (· + time) }

/-- The spacing after a run of events. -/
def afterAll (l : Limiter) (events : List Event) : Limiter := events.foldl after l

/-- The spacings after each event of a run. -/
def history (l : Limiter) : List Event → List Limiter
  | [] => []
  | e :: rest => l.after e :: (l.after e).history rest

@[simp] theorem factor_slowed (l : Limiter) : l.slowed.factor = l.factor := by
  rw [slowed]
  split <;> rfl

theorem factor_refused (l : Limiter) : (l.after .refused).factor = min (l.factor * 2) maxFactor :=
  factor_slowed _

@[simp] theorem basePeriod_slowed (l : Limiter) : l.slowed.basePeriod = l.basePeriod := by
  rw [slowed]
  split <;> rfl

@[simp] theorem sinceRefusal_slowed (l : Limiter) : l.slowed.sinceRefusal = l.sinceRefusal := by
  rw [slowed]
  split <;> rfl

theorem period_slowed_of_lt {l : Limiter} (h : l.basePeriod * l.factor.toNat < periodBound) :
    l.slowed.period = l.basePeriod * l.factor.toNat := by
  rw [slowed, if_pos h]

theorem period_slowed_of_le {l : Limiter} (h : periodBound ≤ l.basePeriod * l.factor.toNat) :
    l.slowed.period = l.period := by
  rw [slowed, if_neg (Nat.not_lt.mpr h)]

/-- No event changes the base period. -/
theorem basePeriod_after (l : Limiter) (e : Event) : (l.after e).basePeriod = l.basePeriod := by
  cases e with
  | refused => exact basePeriod_slowed _
  | acquired =>
    rw [after]
    split <;> rfl
  | passed time => rfl

theorem isQuiet_eq_false_iff (l : Limiter) :
    l.isQuiet = false ↔ ∀ t ∈ l.sinceRefusal, t < quietPeriod := by
  cases h : l.sinceRefusal <;> simp [isQuiet, h]

end Limiter

end AnimeLookup.Catalog
