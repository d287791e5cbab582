import AnimeLookup.Lookup.Ladder

/-!
# Several lookups in a row

A session serves requests one after the other over the same catalog.  What one request leaves
behind for the next is the state of the surroundings and nothing else.
-/

set_option autoImplicit false

namespace AnimeLookup.Lookup

open Catalog

/-- Something to look up. -/
inductive Request where
  /-- The record for a title or for an identifier that is known. -/
  | lookup (title : String) (existingId : Option String)
  /-- Everything for a title, and for an identifier that is known. -/
  | searchResults (title : String) (existingId : Option String)
  deriving DecidableEq

/-- What a request is answered with. -/
inductive Answer where
  /-- A record, if there is one. -/
  | record (media : Option Media)
  /-- A search listing. -/
  | listing (results : List SearchResult)
  deriving DecidableEq

/-- The title that a request is about. -/
def Request.title : Request → String
  | .lookup title _ => title
  | .searchResults title _ => title

/-- The plan that serves a request. -/
def Request.plan (settings : Settings) (tokenizer : Tokenizer) : Request → Plan Answer
  | .lookup title id => (Lookup.lookup settings tokenizer title id).map .record
  | .searchResults title id => (Lookup.searchResults settings title id).map .listing

/-- How a request goes. -/
def Request.run {σ : Type} (env : Surroundings σ) (settings : Settings) (tokenizer : Tokenizer)
    (r : Request) (st : σ) : Run Answer σ :=
  (r.plan settings tokenizer).run env r.title st

/-- **How the requests of a session go**, where `between` says what happens to the surroundings
before each of them. -/
def serve {σ : Type} (env : Surroundings σ) (settings : Settings) (tokenizer : Tokenizer)
    (between : Nat → σ → σ) : Nat → List Request → σ → List (Run Answer σ)
  | _, [], _ => []
  | k, r :: rest, st =>
    let run := r.run env settings tokenizer (between k st)
    run :: serve env settings tokenizer between (k + 1) rest run.state

end AnimeLookup.Lookup
