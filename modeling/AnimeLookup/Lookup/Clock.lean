import AnimeLookup.Lookup.Session

/-!
# Cancelling at a given moment

To say when a session is cancelled, its surroundings need a clock.  A `Moment` is one of the points
at which somebody may cancel: before a request, when a certain number of searches or of requests
for records has been completed, or when a certain time has passed.

`timed` adds a clock to a catalog.  Every question takes the same time.  A question that is under
way when the time comes is interrupted then; one that is completed keeps its answer, even if its
completion is the moment of cancelling.  Once cancelled, a session stays cancelled.
-/

set_option autoImplicit false

namespace AnimeLookup.Lookup

open Catalog

/-- A point at which a session is cancelled. -/
inductive Moment where
  /-- Just before the request with the given index. -/
  | beforeRequest (index : Nat)
  /-- When the given number of searches has been completed. -/
  | afterSearches (count : Nat)
  /-- When the given number of requests for records has been completed. -/
  | afterFetches (count : Nat)
  /-- When the given time has passed, in milliseconds. -/
  | atTime (ms : Nat)
  deriving DecidableEq

/-- What is known about a session that is under way. -/
structure Clock where
  /-- The time that has passed, in milliseconds. -/
  nowMs : Nat
  /-- How many searches have been completed. -/
  searches : Nat
  /-- How many requests for records have been completed. -/
  fetches : Nat
  /-- Whether the session is cancelled. -/
  cancelled : Bool
  deriving DecidableEq

namespace Clock

/-- The clock at the start of a session. -/
def start : Clock := ⟨0, 0, 0, false⟩

/-- Whether a session is cancelled when a question is about to be asked. -/
def isCancelled (moment : Option Moment) (c : Clock) : Bool :=
  c.cancelled ||
    match moment with
    | some (.atTime ms) => ms ≤ c.nowMs
    | _ => false

/-- The clock when a question is interrupted, if it is. -/
def interrupted (moment : Option Moment) (delayMs : Nat) (c : Clock) : Option Clock :=
  match moment with
  | some (.atTime ms) =>
    if ms < c.nowMs + delayMs then some { c with nowMs := ms, cancelled := true } else none
  | _ => none

/-- The clock when a search is completed. -/
def completeSearch (moment : Option Moment) (delayMs : Nat) (c : Clock) : Clock :=
  { c with
    nowMs := c.nowMs + delayMs
    searches := c.searches + 1
    cancelled := c.cancelled || moment == some (.afterSearches (c.searches + 1)) }

/-- The clock when a request for a record is completed. -/
def completeFetch (moment : Option Moment) (delayMs : Nat) (c : Clock) : Clock :=
  { c with
    nowMs := c.nowMs + delayMs
    fetches := c.fetches + 1
    cancelled := c.cancelled || moment == some (.afterFetches (c.fetches + 1)) }

/-- The clock just before the request with the given index. -/
def beforeRequest (moment : Option Moment) (index : Nat) (c : Clock) : Clock :=
  { c with cancelled := c.cancelled || moment == some (.beforeRequest index) }

end Clock

/-- **A catalog with a clock**, on which every question takes the given time and somebody cancels
at the given moment.  The catalog takes notice of a question when it begins. -/
def timed {σ : Type} (b : Backend σ) (moment : Option Moment) (delayMs : Nat) :
    Surroundings (σ × Clock) where
  cancelled st := st.2.isCancelled moment
  search query st :=
    let (answer, inner) := b.search query st.1
    match st.2.interrupted moment delayMs with
    | some clock => (none, inner, clock)
    | none => (some answer, inner, st.2.completeSearch moment delayMs)
  fetch id st :=
    let (answer, inner) := b.fetch id st.1
    match st.2.interrupted moment delayMs with
    | some clock => (none, inner, clock)
    | none => (some answer, inner, st.2.completeFetch moment delayMs)

/-- How the requests of a session with a clock go. -/
def serveTimed {σ : Type} (b : Backend σ) (moment : Option Moment) (delayMs : Nat)
    (settings : Settings) (tokenizer : Tokenizer) (requests : List Request) (st : σ) :
    List (Run Answer (σ × Clock)) :=
  serve (timed b moment delayMs) settings tokenizer
    (fun k s ↦ (s.1, s.2.beforeRequest moment k)) 0 requests (st, Clock.start)

end AnimeLookup.Lookup
