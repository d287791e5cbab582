import AnimeLookup.Proofs.Catalog.Alike
import AnimeLookup.Proofs.Lookup.Cancelling
import Mathlib.Data.List.Forall2

/-!
# What one request leaves behind for the next

A session serves its requests over one catalog, so all that a request can leave behind is the state
of that catalog.  For a catalog that follows a script, this is how much of the script has been
followed: a request goes as it would go alone, over what the requests before it have left of the
script (`session_isolated`).

The argument is about catalogs that answer alike.  A plan cannot tell them apart (`run_alike`, by
induction on the plan), and hence no session can (`serve_alike`).
-/

set_option autoImplicit false

namespace AnimeLookup.Lookup

open Catalog

/-! ## Runs over catalogs that answer alike -/

section Alike

variable {α β σ τ : Type} {b : Backend σ} {b' : Backend τ} {Related : σ → τ → Prop}

/-- **Two runs go alike**: they end in the same, with the same questions, and their states are
related. -/
structure GoAlike (Related : σ → τ → Prop) (run : Run α σ) (run' : Run α τ) : Prop where
  /-- They have the same result. -/
  result : run.result = run'.result
  /-- The same questions were asked. -/
  asked : run.asked = run'.asked
  /-- Their states are related. -/
  state : Related run.state run'.state

/-- One question: if the answers are the same, what comes of them is alike. -/
theorem goAlike_question {title : String} {tier : Tier} {next : β → Plan α} (q : Question)
    {r : Except CatalogError β × σ} {r' : Except CatalogError β × τ}
    (h : r.1 = r'.1 ∧ Related r.2 r'.2)
    (ih : ∀ a s t, Related s t →
      GoAlike Related ((next a).run (.of b) title s) ((next a).run (.of b') title t)) :
    GoAlike Related (.after q (Plan.resume (.of b) title tier next (r.map some id)))
      (.after q (Plan.resume (.of b') title tier next (r'.map some id))) := by
  obtain ⟨answer, s⟩ := r
  obtain ⟨answer', t⟩ := r'
  obtain ⟨rfl, hstate⟩ := h
  cases answer with
  | error e => exact ⟨rfl, rfl, hstate⟩
  | ok a =>
    obtain ⟨hresult, hasked, hstate⟩ := ih a s t hstate
    exact ⟨hresult, congrArg (q :: ·) hasked, hstate⟩

/-- **A plan cannot tell catalogs apart that answer alike.** -/
theorem run_alike (h : Alike b b' Related) (title : String) (p : Plan α) (s : σ) (t : τ)
    (hst : Related s t) : GoAlike Related (p.run (.of b) title s) (p.run (.of b') title t) := by
  induction p generalizing s t with
  | done a => exact ⟨rfl, rfl, hst⟩
  | search tier query next ih =>
    rw [Plan.run_search, Plan.run_search]
    exact goAlike_question (.search query) (h.search query s t hst) ih
  | fetch tier id next ih =>
    rw [Plan.run_fetch, Plan.run_fetch]
    exact goAlike_question (.fetch id) (h.fetch id s t hst) ih

/-- **No session can tell catalogs apart that answer alike.** -/
theorem serve_alike (h : Alike b b' Related) (settings : Settings) (tokenizer : Tokenizer)
    (requests : List Request) (i : Nat) (s : σ) (t : τ) (hst : Related s t) :
    List.Forall₂ (GoAlike Related)
      (serve (.of b) settings tokenizer (fun _ s ↦ s) i requests s)
      (serve (.of b') settings tokenizer (fun _ t ↦ t) i requests t) := by
  induction requests generalizing i s t with
  | nil => exact .nil
  | cons r rest ih =>
    have hrun := run_alike h r.title (r.plan settings tokenizer) s t hst
    exact .cons hrun (ih (i + 1) _ _ hrun.state)

end Alike

/-! ## Counting questions -/

namespace Run

variable {α σ : Type}

/-- The texts that were searched for. -/
def searched (run : Run α σ) : List String := run.asked.filterMap Question.query?

/-- How many records were asked for. -/
def fetches (run : Run α σ) : Nat := run.asked.countP Question.isFetch

end Run

section Counting

variable {α β : Type} {s : Script} {st : Script.State}

/-- **The questions of a run have been counted**, all of them and each of them once. -/
def Counted (st : Script.State) (run : Run α Script.State) : Prop :=
  run.state = ⟨st.searches + run.searched.length, st.fetches + run.fetches⟩

theorem Counted.search {query : String} {run : Run α Script.State}
    (h : Counted { st with searches := st.searches + 1 } run) :
    Counted st (run.after (.search query)) := by
  have hsearched : (run.after (.search query)).searched.length = 1 + run.searched.length :=
    Nat.add_comm _ 1
  have hfetches : (run.after (.search query)).fetches = run.fetches :=
    List.countP_cons_of_neg Bool.false_ne_true
  rw [Counted, hsearched, hfetches, ← Nat.add_assoc]
  exact h

theorem Counted.fetch {id : String} {run : Run α Script.State}
    (h : Counted { st with fetches := st.fetches + 1 } run) :
    Counted st (run.after (.fetch id)) := by
  have hsearched : (run.after (.fetch id)).searched = run.searched := rfl
  have hfetches : (run.after (.fetch id)).fetches = 1 + run.fetches := by
    rw [Nat.add_comm]
    exact List.countP_cons_of_pos rfl
  rw [Counted, hsearched, hfetches, ← Nat.add_assoc]
  exact h

/-- What comes of an answer is counted from the state behind it. -/
theorem counted_resume {title : String} {tier : Tier} {next : β → Plan α}
    (r : Except CatalogError β × Script.State)
    (ih : ∀ a st, Counted st ((next a).run (.of s.backend) title st)) :
    Counted r.2 (Plan.resume (.of s.backend) title tier next (r.map some id)) := by
  obtain ⟨_ | a, st⟩ := r
  · rfl
  · exact ih a st

/-- **A catalog that follows a script counts what it is asked.** -/
theorem counted_run (s : Script) (title : String) (p : Plan α) (st : Script.State) :
    Counted st (p.run (.of s.backend) title st) := by
  induction p generalizing st with
  | done a => rfl
  | search tier query next ih =>
    rw [Plan.run_search]
    exact (counted_resume _ ih).search
  | fetch tier id next ih =>
    rw [Plan.run_fetch]
    exact (counted_resume _ ih).fetch

end Counting

/-! ## Sessions -/

/-- How many searches and requests for records there were in all of some runs. -/
def total {α σ : Type} : List (Run α σ) → Script.State
  | [] => .initial
  | run :: rest =>
    ⟨run.searched.length + (total rest).searches, run.fetches + (total rest).fetches⟩

section Sessions

variable (s : Script) (settings : Settings) (tokenizer : Tokenizer)

theorem total_append {α σ : Type} (runs runs' : List (Run α σ)) :
    total (runs ++ runs') = ⟨(total runs).searches + (total runs').searches,
      (total runs).fetches + (total runs').fetches⟩ := by
  induction runs with
  | nil => rw [List.nil_append, total, Script.State.initial, Nat.zero_add, Nat.zero_add]
  | cons run rest ih => rw [List.cons_append, total, total, ih, Nat.add_assoc, Nat.add_assoc]

/-- **The last request of a session** finds the catalog as the requests before it have left it. -/
theorem serve_concat (before : List Request) (r : Request) (i : Nat) (st : Script.State) :
    ∃ runs last, serve (.of s.backend) settings tokenizer (fun _ st ↦ st) i (before ++ [r]) st =
        runs ++ [last] ∧ runs.length = before.length ∧
      last = r.run (.of s.backend) settings tokenizer
        ⟨st.searches + (total runs).searches, st.fetches + (total runs).fetches⟩ := by
  induction before generalizing i st with
  | nil => exact ⟨[], _, rfl, rfl, rfl⟩
  | cons first rest ih =>
    let run := first.run (.of s.backend) settings tokenizer st
    have hrun : Counted st run := counted_run s first.title (first.plan settings tokenizer) st
    obtain ⟨runs, last, hserve, hlength, hlast⟩ := ih (i + 1) run.state
    refine ⟨run :: runs, last, congrArg (run :: ·) hserve, congrArg (· + 1) hlength, ?_⟩
    rw [hlast, hrun, total, Nat.add_assoc, Nat.add_assoc]

/-- **Sessions leave nothing behind but how much of the script has been followed.**  The last
request of a session goes as it would go alone, over what is left of the script after the searches
before it; and the catalog has counted every question.  A catalog that takes its answers from a pile
serves the same session alike. -/
theorem session_isolated (before : List Request) (r : Request) :
    ∃ runs last, serve (.of s.backend) settings tokenizer (fun _ st ↦ st) 0 (before ++ [r])
        .initial = runs ++ [last] ∧ runs.length = before.length ∧
      let alone := r.run (.of (s.after (total runs).searches).backend) settings tokenizer .initial
      last.result = alone.result ∧ last.asked = alone.asked ∧
        alone.state = total [alone] ∧ last.state = total (runs ++ [last]) ∧
        List.Forall₂ (GoAlike s.Unused)
          (serve (.of s.pileBackend) settings tokenizer (fun _ p ↦ p) 0 (before ++ [r]) s.pile)
          (runs ++ [last]) := by
  obtain ⟨runs, last, hserve, hlength, hlast⟩ :=
    serve_concat s settings tokenizer before r 0 .initial
  have hlast : last = r.run (.of s.backend) settings tokenizer (total runs) := by
    simpa only [Script.State.initial, Nat.zero_add] using hlast
  refine ⟨runs, last, hserve, hlength, ?_⟩
  intro alone
  have halike : GoAlike (Script.AheadBy (total runs)) last alone := by
    rw [hlast]
    exact run_alike (s.alike_after (total runs)) r.title (r.plan settings tokenizer) _ _
      (Script.aheadBy_initial _)
  have hcounted : Counted (total runs) last := by
    rw [hlast]
    exact counted_run s r.title (r.plan settings tokenizer) (total runs)
  have halone : Counted .initial alone := counted_run _ r.title (r.plan settings tokenizer) _
  refine ⟨halike.result, halike.asked, ?_, ?_, ?_⟩
  · rw [halone, Script.State.initial, Nat.zero_add, Nat.zero_add]
    rfl
  · rw [hcounted, total_append]
    rfl
  · rw [← hserve]
    exact serve_alike s.alike_pile settings tokenizer _ 0 _ _ s.unused_pile

end Sessions

end AnimeLookup.Lookup
