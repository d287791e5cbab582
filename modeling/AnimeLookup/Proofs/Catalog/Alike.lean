import AnimeLookup.Catalog.Scripted

/-!
# Catalogs that answer alike

Two catalogs answer alike in two states if no question tells them apart, now or later.  `Alike` says
so with a relation between their states that every question keeps.

There are two of them here that answer like a catalog which follows a script:

* one whose script lacks the answers that the other has given already (`alike_after`).  What is left
  when all answers have been given is the last one, since that is repeated;
* one that takes its answers from a pile and falls back on the last one when the pile is used up
  (`alike_pile`).  Its pile is what is behind the answers that have been given.
-/

set_option autoImplicit false

namespace AnimeLookup.Catalog

/-- **Two catalogs answer alike** in related states: they give the same answer to every question,
and their states are related again. -/
structure Alike {σ τ : Type} (b : Backend σ) (b' : Backend τ) (Related : σ → τ → Prop) : Prop where
  /-- The same candidates are found. -/
  search : ∀ query s t, Related s t → (b.search query s).1 = (b'.search query t).1 ∧
    Related (b.search query s).2 (b'.search query t).2
  /-- The same record is found. -/
  fetch : ∀ id s t, Related s t → (b.fetch id s).1 = (b'.fetch id t).1 ∧
    Related (b.fetch id s).2 (b'.fetch id t).2

namespace Script

/-! ## Scripts of which a part has been followed -/

/-- **What is left of a script** after a number of searches: its other answers, or only the last one
if there are no others. -/
def after (s : Script) (k : Nat) : Script :=
  { s with responses :=
      if k < s.responses.length then s.responses.drop k else s.responses.getLast?.toList }

/-- **The rest of a script answers as the script does** after what has been followed already. -/
theorem response_after (s : Script) (k n : Nat) : (s.after k).response n = s.response (k + n) := by
  simp only [response, after]
  split
  · rename_i hk
    rw [List.getElem?_drop, List.getLast?_drop, if_neg (Nat.not_le.2 hk)]
  · rename_i hk
    have hnone : s.responses[k + n]? = none := List.getElem?_eq_none (by omega)
    rw [hnone]
    cases s.responses.getLast? with
    | none => rfl
    | some last => cases n <;> rfl

/-- One catalog has been asked more often than another, by the questions that are given. -/
def AheadBy (d st st' : State) : Prop := st = ⟨d.searches + st'.searches, d.fetches + st'.fetches⟩

theorem aheadBy_initial (d : State) : AheadBy d d .initial := rfl

theorem alike_after (s : Script) (d : State) :
    Alike s.backend (s.after d.searches).backend (AheadBy d) where
  search query st st' h := by
    obtain rfl := h
    exact ⟨congrArg Response.answer (s.response_after d.searches st'.searches).symm, rfl⟩
  fetch id st st' h := by
    obtain rfl := h
    exact ⟨rfl, rfl⟩

/-! ## Answers in a pile -/

/-- The state of a catalog that takes its answers from a pile. -/
structure Pile where
  /-- The answers that are left, the next one at the end. -/
  responses : List Response
  /-- The texts that have been searched for. -/
  searched : List String
  /-- How many requests for a record have begun. -/
  fetches : Nat

/-- The pile at first: the answers of the script, upside down. -/
def pile (s : Script) : Pile := ⟨s.responses.reverse, [], 0⟩

/-- **The catalog that takes its answers from a pile**, and gives the last one for ever. -/
def pileBackend (s : Script) : Backend Pile where
  search query st :=
    ((st.responses.getLast?.getD (s.responses.getLast?.getD .notFound)).answer,
      { st with responses := st.responses.dropLast, searched := st.searched ++ [query] })
  fetch id st := (s.fetchAnswer id, { st with fetches := st.fetches + 1 })

/-- **The pile is what has not been used of the script.** -/
structure Unused (s : Script) (p : Pile) (st : State) : Prop where
  /-- The answers that are left are those behind the ones that have been given. -/
  responses : p.responses = (s.responses.drop st.searches).reverse
  /-- Every search has been noted. -/
  searches : p.searched.length = st.searches
  /-- Every request for a record has been counted. -/
  fetches : p.fetches = st.fetches

theorem unused_pile (s : Script) : Unused s s.pile .initial := ⟨rfl, rfl, rfl⟩

theorem alike_pile (s : Script) : Alike s.pileBackend s.backend (Unused s) where
  search query p st h := by
    refine ⟨congrArg Response.answer ?_, ?_, ?_, h.fetches⟩
    · rw [h.responses, List.getLast?_reverse, List.head?_drop, response]
    · show p.responses.dropLast = (s.responses.drop (st.searches + 1)).reverse
      rw [h.responses, List.dropLast_reverse, List.tail_drop]
    · show (p.searched ++ [query]).length = st.searches + 1
      rw [List.length_append, h.searches, List.length_singleton]
  fetch id p st h := ⟨rfl, h.responses, h.searches, congrArg (· + 1) h.fetches⟩

end Script

end AnimeLookup.Catalog
