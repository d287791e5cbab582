import AnimeLookup.Catalog.Backend

/-!
# What a lookup asks a catalog

A lookup is a conversation with a catalog: it asks, looks at the answer, and decides what to ask
next.  A `Plan` is such a conversation written down as a tree, without a catalog to hold it with;
the questions are its nodes, and every possible answer leads to a subtree.

`Plan.run` holds the conversation in given *surroundings*: a catalog and somebody who may cancel.
A failing question ends it with an error that says which title the lookup was for and at what stage
it failed.  Cancelling ends it too, and it is noticed in two places only: when a question is about
to be asked, and while one is being answered.  So an answer that has come is never lost, and a
conversation without a further question is not affected.

Separating the plan from the run keeps the order of questions, which is the lookup's business,
apart from failure and cancellation, which are the same for every lookup.
-/

set_option autoImplicit false

namespace AnimeLookup.Lookup

open Catalog

/-! ## Stages and errors -/

/-- The stage of a lookup at which a question is asked. -/
inductive Tier where
  /-- A record is asked for by an identifier that is known already. -/
  | id
  /-- The title is searched for as it was given, apart from what catalogs do not know. -/
  | raw
  /-- The cleaned title is searched for. -/
  | cleaned
  deriving DecidableEq

/-- The word for a stage. -/
def Tier.name : Tier → String
  | id => "id"
  | raw => "raw"
  | cleaned => "cleaned"

/-- Why a lookup has no result. -/
inductive LookupError where
  /-- It was cancelled. -/
  | cancelled
  /-- The catalog failed to answer, at some stage of the lookup of a title. -/
  | catalog (title : String) (tier : Tier) (source : CatalogError)
  deriving DecidableEq

/-- **The text of an error.** -/
def LookupError.message : LookupError → String
  | .cancelled => "lookup cancelled"
  | .catalog title tier source =>
    "catalog failure during " ++ tier.name ++ " lookup of " ++ Text.quoted title ++ ": " ++
      source.message

/-- Whether an error is a cancellation. -/
def LookupError.isCancelled : LookupError → Bool
  | .cancelled => true
  | .catalog .. => false

/-! ## Plans -/

/-- A conversation with a catalog that ends in an `α`. -/
inductive Plan (α : Type) where
  /-- The end. -/
  | done (a : α)
  /-- A search. -/
  | search (tier : Tier) (query : String) (next : List Candidate → Plan α)
  /-- A request for a record. -/
  | fetch (tier : Tier) (id : String) (next : Option Media → Plan α)

/-- The plan with something done to its end. -/
def Plan.map {α β : Type} (f : α → β) : Plan α → Plan β
  | .done a => .done (f a)
  | .search tier query next => .search tier query fun r ↦ (next r).map f
  | .fetch tier id next => .fetch tier id fun r ↦ (next r).map f

/-- A question that has been asked. -/
inductive Question where
  /-- A search. -/
  | search (query : String)
  /-- A request for a record. -/
  | fetch (id : String)
  deriving DecidableEq

/-- The text that was searched for, if the question was a search. -/
def Question.query? : Question → Option String
  | .search query => some query
  | .fetch _ => none

/-- Whether the question was a request for a record. -/
def Question.isFetch : Question → Bool
  | .search _ => false
  | .fetch _ => true

/-! ## Running a plan -/

/-- A catalog together with somebody who may cancel.  An answer is `none` if the question was
interrupted. -/
structure Surroundings (σ : Type) where
  /-- Whether the lookup is cancelled by now. -/
  cancelled : σ → Bool
  /-- The answer to a search. -/
  search : String → σ → Option (Except CatalogError (List Candidate)) × σ
  /-- The answer to a request for a record. -/
  fetch : String → σ → Option (Except CatalogError (Option Media)) × σ

/-- The surroundings in which nobody cancels. -/
def Surroundings.of {σ : Type} (b : Backend σ) : Surroundings σ where
  cancelled _ := false
  search query st := ((b.search query st).map some id)
  fetch i st := ((b.fetch i st).map some id)

/-- How a conversation went. -/
structure Run (α σ : Type) where
  /-- What it ended in. -/
  result : Except LookupError α
  /-- The questions that were asked, in order. -/
  asked : List Question
  /-- The state of the surroundings after it. -/
  state : σ

/-- The run with a question asked before it. -/
def Run.after {α σ : Type} (q : Question) (r : Run α σ) : Run α σ :=
  { r with asked := q :: r.asked }

/-- **How a plan goes in some surroundings**, when it is made for the given title. -/
def Plan.run {α σ : Type} (env : Surroundings σ) (title : String) : Plan α → σ → Run α σ
  | .done a, st => ⟨.ok a, [], st⟩
  | .search tier query next, st =>
    if env.cancelled st then ⟨.error .cancelled, [], st⟩
    else Run.after (.search query) <|
      match env.search query st with
      | (none, st) => ⟨.error .cancelled, [], st⟩
      | (some (.error e), st) => ⟨.error (.catalog title tier e), [], st⟩
      | (some (.ok candidates), st) => (next candidates).run env title st
  | .fetch tier id next, st =>
    if env.cancelled st then ⟨.error .cancelled, [], st⟩
    else Run.after (.fetch id) <|
      match env.fetch id st with
      | (none, st) => ⟨.error .cancelled, [], st⟩
      | (some (.error e), st) => ⟨.error (.catalog title tier e), [], st⟩
      | (some (.ok media), st) => (next media).run env title st

end AnimeLookup.Lookup
