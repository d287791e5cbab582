import AnimeLookup.Catalog.AniList

/-!
# Posting questions at a catalog's pace

A question is not posted as soon as it comes up.  It first waits in front of a gate until it is let
through.  An answer that refuses makes the limiter slow down, and a gate with a longer period is put
up in the place of the old one.  `AniList.paced` is a transport with all this around it, and
`AniList.backend` over it is the catalog as it is really asked.

Gates are made by others, so nothing is decided here about how they work.  `Gates.KeepsApart` is
what is known of them: what one gate lets through is at least a period apart.  A gate that has just
been put up knows of no request before it.  So the first request after a refusal is not held back.

Times are in nanoseconds.
-/

set_option autoImplicit false

namespace AnimeLookup.Catalog

open GraphQl (Question)

/-! ## Gates -/

/-- Gates of some kind. -/
structure Gates (γ : Type) where
  /-- A new gate that lets one request through in each period. -/
  ofPeriod : Nat → γ
  /-- When a request that comes at a time is let through, and the gate behind it. -/
  pass : γ → Nat → Nat × γ

/-- **What is known of gates.**  Each has a period and a time at which it opens again. -/
structure Gates.KeepsApart {γ : Type} (gates : Gates γ) (period opening : γ → Nat) : Prop where
  /-- A new gate has the period that it is made for. -/
  period_ofPeriod : ∀ p, period (gates.ofPeriod p) = p
  /-- A gate keeps its period. -/
  period_pass : ∀ g now, period (gates.pass g now).2 = period g
  /-- Nothing is let through before it comes. -/
  le_pass : ∀ g now, now ≤ (gates.pass g now).1
  /-- Nothing is let through before the gate opens. -/
  opening_le_pass : ∀ g now, opening g ≤ (gates.pass g now).1
  /-- Behind a request the gate is closed for its period. -/
  le_opening : ∀ g now, (gates.pass g now).1 + period g ≤ opening (gates.pass g now).2

/-- Whether an event puts up a new gate.  A refusal does, unless the period would be too long to be
reckoned with. -/
def Limiter.renewsGate (l : Limiter) : Limiter.Event → Bool
  | .refused => l.basePeriod * (min (l.factor * 2) maxFactor).toNat < periodBound
  | .acquired => l.isQuiet && 1 < l.factor
  | .passed _ => false

/-! ## Clients -/

/-- Somebody who asks a catalog over a transport. -/
structure Client (γ τ : Type) where
  /-- How far requests are slowed down. -/
  limiter : Limiter
  /-- The gate that they go through. -/
  gate : γ
  /-- The time. -/
  now : Nat
  /-- The state behind the transport. -/
  remote : τ

namespace Client

variable {γ τ : Type}

/-- The client after some time. -/
def rest (c : Client γ τ) (time : Nat) : Client γ τ :=
  { c with limiter := c.limiter.after (.passed time), now := c.now + time }

variable (gates : Gates γ)

/-- A client that has not asked anything yet, with a base period. -/
def ofBase (base : Nat) (remote : τ) : Client γ τ :=
  ⟨.ofBase base, gates.ofPeriod (Limiter.ofBase base).period, 0, remote⟩

/-- A client that keeps to the settings of a connection. -/
def ofSettings (n : NetworkSettings) (remote : τ) : Client γ τ :=
  ofBase gates (n.effectiveIntervalMs.toNat * millisecond) remote

/-- The client after something that concerns the spacing. -/
def notice (c : Client γ τ) (e : Limiter.Event) : Client γ τ :=
  { c with
    limiter := c.limiter.after e
    gate := if c.limiter.renewsGate e then gates.ofPeriod (c.limiter.after e).period else c.gate }

/-- The client when a request has been let through. -/
def acquire (c : Client γ τ) : Client γ τ :=
  let c := c.notice gates .acquired
  let passed := gates.pass c.gate c.now
  { c with gate := passed.2 }.rest (passed.1 - c.now)

end Client

/-! ## Posting -/

namespace AniList

/-- Whether an answer refuses requests for now. -/
def Reply.refuses (r : Reply) : Bool := !(checkRateLimit r.status r.headers).isOk

theorem Reply.refuses_iff (r : Reply) : r.refuses = true ↔ r.status = 429 := by
  rw [refuses, checkRateLimit]
  split <;> simp_all [Except.isOk, Except.toBool]

/-- **A transport at the catalog's pace**, if a question is answered after the time that is given.
The question waits at the gate, and a refusal slows down the next ones. -/
def paced {γ τ : Type} (gates : Gates γ) (latency : Question → τ → Nat) (post : Transport τ) :
    Transport (Client γ τ) := fun q c ↦
  let c := c.acquire gates
  let answer := post q c.remote
  let c := { c with remote := answer.2 }.rest (latency q c.remote)
  (answer.1, if answer.1.any Reply.refuses then c.notice gates .refused else c)

end AniList

end AnimeLookup.Catalog
