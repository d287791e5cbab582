import AnimeLookup.Catalog.Backend

/-!
# A catalog that follows a script

A `Script` is a catalog whose answers are written down beforehand.  Its answers to searches are
given in order, whatever is searched for, and the last one is repeated for ever.  Records are found
by identifier, and are not used up.

The state of such a catalog is how often it has been searched and asked for records.
-/

set_option autoImplicit false

namespace AnimeLookup.Catalog

/-- An answer to a search that is written down beforehand. -/
inductive Response where
  /-- Candidates, the most relevant one first. -/
  | found (candidates : List Candidate)
  /-- No candidates. -/
  | notFound
  /-- A refusal for the given number of milliseconds. -/
  | rateLimited (retryAfterMs : Option Nat)
  /-- A failure. -/
  | failure (message : String)
  deriving DecidableEq

/-- The answer to a search. -/
def Response.answer : Response → Except CatalogError (List Candidate)
  | found candidates => .ok candidates
  | notFound => .ok []
  | rateLimited retryAfterMs => .error (.rateLimited retryAfterMs)
  | failure message => .error (.other message)

/-- What a catalog will answer. -/
structure Script where
  /-- The answers to searches, the last of which is repeated. -/
  responses : List Response
  /-- The records, of which a later one replaces an earlier one with the same number. -/
  records : List Media
  /-- The failure of every request for a record, if they fail. -/
  fetchError : Option String

namespace Script

/-- How often a catalog has been asked. -/
structure State where
  /-- How many searches have begun. -/
  searches : Nat
  /-- How many requests for a record have begun. -/
  fetches : Nat
  deriving DecidableEq

/-- The state before any request. -/
def State.initial : State := ⟨0, 0⟩

/-- The answer to the search after `n` others. -/
def response (s : Script) (n : Nat) : Response :=
  (s.responses[n]?).getD (s.responses.getLast?.getD .notFound)

/-- The record with the given identifier, which is its number in decimal. -/
def record? (s : Script) (id : String) : Option Media :=
  s.records.reverse.find? fun m ↦ idText m.id == id

/-- The answer to a request for a record. -/
def fetchAnswer (s : Script) (id : String) : Except CatalogError (Option Media) :=
  match s.fetchError with
  | some message => .error (.other message)
  | none => .ok (s.record? id)

/-- **The catalog that follows a script.** -/
def backend (s : Script) : Backend State where
  search _ st := ((s.response st.searches).answer, { st with searches := st.searches + 1 })
  fetch id st := (s.fetchAnswer id, { st with fetches := st.fetches + 1 })

end Script

end AnimeLookup.Catalog
