import AnimeLookup.Lookup.Clock

/-!
# What cancelling does to a conversation

A conversation may be cancelled at any point: before it begins, between two questions, at the very
moment at which a question is completed, or while one is under way.  This file compares a
conversation that somebody may cancel with the same conversation when nobody does.

* `Canceller` is somebody who may cancel.  Everything about them is free: when they cancel, and what
  makes them do it.  There are only two laws, that a token once cancelled stays cancelled and that
  a question is interrupted by nothing but cancelling.
* `Canceller.beside` puts a canceller beside a catalog.  The scene they share keeps a record of the
  questions that were begun, of whether the token was cancelled by then, and of whether they were
  interrupted.  So "nothing begins after cancelling" is a statement about what happened, not about
  the checks that a plan makes.
* `Follows` says how the two conversations relate.  It has one lemma for each thing that can happen
  to a question, and `run_follows` puts them together by induction on the plan.

`cancelling_transparent` is the headline for the requests of a session.  `run_timed` says that the
clock of a session is a canceller too, so that all of this holds of it.
-/

set_option autoImplicit false

namespace AnimeLookup.Lookup

open Catalog

/-! ## Somebody who may cancel -/

/-- **Somebody who may cancel.**  Their state is a `κ`, which may be a clock, a counter, or anything
else that decides when they do. -/
structure Canceller (κ : Type) where
  /-- Whether the token is cancelled while no question is under way. -/
  cancelled : κ → Bool
  /-- What happens while a question is under way: whether it is interrupted, and the state when it
  is completed or interrupted. -/
  meanwhile : Question → κ → Bool × κ
  /-- A token that is cancelled stays cancelled. -/
  stays : ∀ q k, cancelled k = true → cancelled (meanwhile q k).2 = true
  /-- Only cancelling interrupts a question. -/
  interrupts : ∀ q k, (meanwhile q k).1 = true → cancelled (meanwhile q k).2 = true

/-- A question that was begun. -/
structure Begun where
  /-- The question. -/
  question : Question
  /-- Whether the token was cancelled when it was begun. -/
  late : Bool
  /-- Whether it was interrupted. -/
  interrupted : Bool
  deriving DecidableEq

/-- A catalog and a canceller, and what has happened between them. -/
structure Scene (σ κ : Type) where
  /-- The state of the catalog. -/
  catalog : σ
  /-- The state of the canceller. -/
  canceller : κ
  /-- The questions that were begun, in order. -/
  begun : List Begun

namespace Canceller

variable {σ κ : Type} (c : Canceller κ)

/-- What comes of a question that the catalog takes notice of, with the answer and the state that
the catalog has for it. -/
def pose {β : Type} (q : Question) (s : Scene σ κ) (r : β × σ) : Option β × Scene σ κ :=
  (if (c.meanwhile q s.canceller).1 then none else some r.1,
    { catalog := r.2
      canceller := (c.meanwhile q s.canceller).2
      begun := s.begun ++ [⟨q, c.cancelled s.canceller, (c.meanwhile q s.canceller).1⟩] })

/-- **A catalog with somebody who may cancel.** -/
def beside (b : Backend σ) : Surroundings (Scene σ κ) where
  cancelled s := c.cancelled s.canceller
  search query s := c.pose (.search query) s (b.search query s.catalog)
  fetch id s := c.pose (.fetch id) s (b.fetch id s.catalog)

end Canceller

/-! ## One question -/

section Plans

variable {α β σ τ κ : Type}

/-- How a plan goes on with what has come of a question. -/
def Plan.resume (env : Surroundings τ) (title : String) (tier : Tier) (next : β → Plan α) :
    Option (Except CatalogError β) × τ → Run α τ
  | (none, st) => ⟨.error .cancelled, [], st⟩
  | (some (.error e), st) => ⟨.error (.catalog title tier e), [], st⟩
  | (some (.ok a), st) => (next a).run env title st

theorem Plan.run_search (env : Surroundings τ) (title : String) (tier : Tier) (query : String)
    (next : List Candidate → Plan α) (st : τ) :
    (Plan.search tier query next).run env title st =
      if env.cancelled st then ⟨.error .cancelled, [], st⟩
      else .after (.search query) (resume env title tier next (env.search query st)) := by
  rw [Plan.run]
  rcases env.search query st with ⟨_ | _ | _, _⟩ <;> rfl

theorem Plan.run_fetch (env : Surroundings τ) (title : String) (tier : Tier) (id : String)
    (next : Option Media → Plan α) (st : τ) :
    (Plan.fetch tier id next).run env title st =
      if env.cancelled st then ⟨.error .cancelled, [], st⟩
      else .after (.fetch id) (resume env title tier next (env.fetch id st)) := by
  rw [Plan.run]
  rcases env.fetch id st with ⟨_ | _ | _, _⟩ <;> rfl

/-- A conversation that was cut short: a question was interrupted, or it lacks a question that
would still have been asked. -/
def CutShort (begun : List Begun) (asked : List Question) (free : Run α σ) : Prop :=
  (∃ q ∈ begun, q.interrupted = true) ∨ asked ≠ free.asked

/-- **How a conversation that somebody may cancel relates to the same one in which nobody does**,
where `begun` records its questions. -/
structure Follows (c : Canceller κ) (begun : List Begun) (run : Run α (Scene σ κ))
    (free : Run α σ) : Prop where
  /-- Every question that was asked has been recorded. -/
  recorded : begun.map Begun.question = run.asked
  /-- No question was begun after the token was cancelled. -/
  inTime : ∀ q ∈ begun, q.late = false
  /-- The questions are the first ones of those that would have been asked. -/
  initial : run.asked <+: free.asked
  /-- A conversation that was cut short was cancelled. -/
  cut : CutShort begun run.asked free →
    run.result = .error .cancelled ∧ c.cancelled run.state.canceller = true
  /-- A conversation that was not cut short ends as it would have ended, in the same state. -/
  uncut : ¬ CutShort begun run.asked free →
    run.result = free.result ∧ run.state.catalog = free.state

namespace Follows

variable {c : Canceller κ} {s : Scene σ κ} {q : Question}

/-- Two conversations that end alike without a question. -/
theorem ended (result : Except LookupError α) :
    Follows c [] ⟨result, [], s⟩ ⟨result, [], s.catalog⟩ where
  recorded := rfl
  inTime := by simp
  initial := List.prefix_rfl
  cut h := by simp [CutShort] at h
  uncut _ := ⟨rfl, rfl⟩

/-- A question is due, and the token is cancelled. -/
theorem refused {free : Run α σ} (h : c.cancelled s.canceller = true) :
    Follows c [] ⟨.error .cancelled, [], s⟩ (free.after q) where
  recorded := rfl
  inTime := by simp
  initial := List.nil_prefix
  cut _ := ⟨rfl, h⟩
  uncut hu := absurd (.inr (List.cons_ne_nil _ _).symm) hu

/-- A question is interrupted. -/
theorem interrupted {free : Run α σ} (h : c.cancelled s.canceller = true) :
    Follows c [⟨q, false, true⟩] (.after q ⟨.error .cancelled, [], s⟩) (free.after q) where
  recorded := rfl
  inTime := by simp
  initial := List.cons_prefix_cons.mpr ⟨rfl, List.nil_prefix⟩
  cut _ := ⟨rfl, h⟩
  uncut hu := absurd (.inl ⟨_, List.mem_singleton_self _, rfl⟩) hu

/-- A question is completed. -/
theorem completed {begun : List Begun} {run : Run α (Scene σ κ)} {free : Run α σ}
    (h : Follows c begun run free) :
    Follows c (⟨q, false, false⟩ :: begun) (run.after q) (free.after q) := by
  have hiff : CutShort (⟨q, false, false⟩ :: begun) (run.after q).asked (free.after q) ↔
      CutShort begun run.asked free := by
    simp [CutShort, Run.after]
  refine ⟨?_, ?_, ?_, fun hc ↦ h.cut (hiff.mp hc), fun hu ↦ h.uncut fun hc ↦ hu (hiff.mpr hc)⟩
  · rw [List.map_cons, h.recorded]
    rfl
  · intro x hx
    rcases List.mem_cons.mp hx with rfl | hx
    · rfl
    · exact h.inTime x hx
  · exact List.cons_prefix_cons.mpr ⟨rfl, h.initial⟩

end Follows

/-! ## A whole plan -/

/-- `Follows`, for the questions that are recorded after those of the scene `s`. -/
def FollowsFrom (c : Canceller κ) (s : Scene σ κ) (run : Run α (Scene σ κ)) (free : Run α σ) :
    Prop :=
  ∃ begun, run.state.begun = s.begun ++ begun ∧ Follows c begun run free

/-- One question, whatever it is and whatever happens to it. -/
theorem followsFrom_question (c : Canceller κ) (b : Backend σ) (title : String) (tier : Tier)
    (next : β → Plan α) (q : Question) (s : Scene σ κ) (r : Except CatalogError β × σ)
    (ih : ∀ a s, FollowsFrom c s ((next a).run (c.beside b) title s)
      ((next a).run (.of b) title s.catalog)) :
    FollowsFrom c s
      (if c.cancelled s.canceller then ⟨.error .cancelled, [], s⟩
        else .after q (Plan.resume (c.beside b) title tier next (c.pose q s r)))
      (.after q (Plan.resume (.of b) title tier next (r.map some id))) := by
  cases hc : c.cancelled s.canceller with
  | true => exact ⟨[], (List.append_nil _).symm, .refused hc⟩
  | false =>
    rw [if_neg Bool.false_ne_true]
    cases hi : (c.meanwhile q s.canceller).1 with
    | true =>
      refine ⟨[⟨q, false, true⟩], ?_, ?_⟩
      · simp [Canceller.pose, Plan.resume, Run.after, hc, hi]
      · simpa [Canceller.pose, Plan.resume, hi] using .interrupted (c.interrupts q _ hi)
    | false =>
      obtain ⟨_ | a, st⟩ := r
      · refine ⟨[⟨q, false, false⟩], ?_, ?_⟩
        · simp [Canceller.pose, Plan.resume, Run.after, hc, hi]
        · simpa [Canceller.pose, Plan.resume, hi] using (Follows.ended _).completed
      · obtain ⟨begun, hbegun, hf⟩ := ih a (c.pose q s ((.ok a : Except CatalogError β), st)).2
        refine ⟨⟨q, false, false⟩ :: begun, ?_, ?_⟩
        · simpa [Canceller.pose, Plan.resume, Run.after, hc, hi] using hbegun
        · simpa [Canceller.pose, Plan.resume, hi] using hf.completed

/-- **A plan that somebody may cancel follows the plan that nobody cancels.** -/
theorem run_follows (c : Canceller κ) (b : Backend σ) (title : String) (p : Plan α)
    (s : Scene σ κ) :
    FollowsFrom c s (p.run (c.beside b) title s) (p.run (.of b) title s.catalog) := by
  induction p generalizing s with
  | done a => exact ⟨[], (List.append_nil _).symm, .ended (.ok a)⟩
  | search tier query next ih =>
    rw [Plan.run_search, Plan.run_search]
    exact followsFrom_question c b title tier next (.search query) s _ ih
  | fetch tier id next ih =>
    rw [Plan.run_fetch, Plan.run_fetch]
    exact followsFrom_question c b title tier next (.fetch id) s _ ih

/-- With nobody who cancels, nothing is cancelled. -/
theorem run_of_result_ne_cancelled (b : Backend σ) (title : String) (p : Plan α) (st : σ) :
    (p.run (.of b) title st).result ≠ .error .cancelled := by
  induction p generalizing st with
  | done a => simp [Plan.run]
  | search tier query next ih =>
    rw [Plan.run_search]
    rcases hs : b.search query st with ⟨_ | candidates, st₁⟩
    · simp [Surroundings.of, Run.after, Plan.resume, hs]
    · simpa [Surroundings.of, Run.after, Plan.resume, hs] using ih candidates st₁
  | fetch tier id next ih =>
    rw [Plan.run_fetch]
    rcases hf : b.fetch id st with ⟨_ | media, st₁⟩
    · simp [Surroundings.of, Run.after, Plan.resume, hf]
    · simpa [Surroundings.of, Run.after, Plan.resume, hf] using ih media st₁

/-! ## A given point -/

/-- A point of a conversation. -/
inductive Point where
  /-- When the given number of questions has been completed and no other has begun: before the
  conversation, between two questions, or just as one is completed. -/
  | between (completed : Nat)
  /-- While a question is under way, after the given number of others. -/
  | during (completed : Nat)
  deriving DecidableEq

/-- How many questions begin if a conversation is cancelled at a point. -/
def Point.limit : Point → Nat
  | between n => n
  | during n => n + 1

/-- Somebody who cancels at a given point.  Their state is the number of questions so far. -/
def Point.canceller (point : Point) : Canceller Nat where
  cancelled n := point.limit ≤ n
  meanwhile _ n := (point = .during n, n + 1)
  stays _ n h := by
    rw [decide_eq_true_iff] at h ⊢
    exact Nat.le_succ_of_le h
  interrupts _ n h := by
    rw [of_decide_eq_true h]
    exact decide_eq_true (Nat.le_refl _)

theorem asked_at_question (point : Point) (b : Backend σ) (title : String) (tier : Tier)
    (next : β → Plan α) (q : Question) (s : Scene σ Nat) (r : Except CatalogError β × σ)
    (ih : ∀ a (s : Scene σ Nat), ((next a).run (point.canceller.beside b) title s).asked =
      ((next a).run (.of b) title s.catalog).asked.take (point.limit - s.canceller)) :
    Run.asked (if point.canceller.cancelled s.canceller then ⟨.error .cancelled, [], s⟩
        else .after q (Plan.resume (point.canceller.beside b) title tier next
          (point.canceller.pose q s r))) =
      (Run.after q (Plan.resume (.of b) title tier next (r.map some id))).asked.take
        (point.limit - s.canceller) := by
  by_cases hlimit : point.limit ≤ s.canceller
  · have hc : point.canceller.cancelled s.canceller = true := decide_eq_true hlimit
    rw [if_pos hc, Nat.sub_eq_zero_of_le hlimit, List.take_zero]
  · have hc : ¬ point.canceller.cancelled s.canceller = true := fun h ↦
      hlimit (of_decide_eq_true h)
    have hsub : point.limit - s.canceller = point.limit - (s.canceller + 1) + 1 := by omega
    rw [if_neg hc, hsub]
    by_cases hduring : point = .during s.canceller
    · simp [Canceller.pose, Point.canceller, Plan.resume, Run.after, hduring, Point.limit]
    · obtain ⟨_ | a, st⟩ := r
      · simp [Canceller.pose, Point.canceller, Plan.resume, Run.after, hduring]
      · simpa [Canceller.pose, Point.canceller, Plan.resume, Run.after, hduring] using
          ih a (point.canceller.pose q s ((.ok a : Except CatalogError β), st)).2

/-- **A plan that is cancelled at a point asks exactly the questions before it.** -/
theorem asked_at_point (point : Point) (b : Backend σ) (title : String) (p : Plan α)
    (s : Scene σ Nat) :
    (p.run (point.canceller.beside b) title s).asked =
      (p.run (.of b) title s.catalog).asked.take (point.limit - s.canceller) := by
  induction p generalizing s with
  | done a => simp [Plan.run]
  | search tier query next ih =>
    rw [Plan.run_search, Plan.run_search]
    exact asked_at_question point b title tier next (.search query) s _ ih
  | fetch tier id next ih =>
    rw [Plan.run_fetch, Plan.run_fetch]
    exact asked_at_question point b title tier next (.fetch id) s _ ih

end Plans

/-! ## The clock of a session -/

namespace Clock

variable (moment : Option Moment) (delayMs : Nat)

/-- The clock when a question is completed. -/
def complete (q : Question) (clock : Clock) : Clock :=
  match q with
  | .search _ => clock.completeSearch moment delayMs
  | .fetch _ => clock.completeFetch moment delayMs

variable {moment delayMs}

theorem isCancelled_iff {clock : Clock} : clock.isCancelled moment = true ↔
    clock.cancelled = true ∨ ∃ ms, moment = some (.atTime ms) ∧ ms ≤ clock.nowMs := by
  unfold isCancelled
  split
  · simp
  · rename_i hother
    have hnone : ∀ ms, moment ≠ some (.atTime ms) := fun ms h ↦ hother ms h
    simp [hnone]

theorem isCancelled_interrupted {clock later : Clock}
    (h : clock.interrupted moment delayMs = some later) : later.isCancelled moment = true := by
  unfold interrupted at h
  split at h
  · split at h
    · exact isCancelled_iff.mpr (.inl (Option.some.inj h ▸ rfl))
    · exact absurd h (by simp)
  · exact absurd h (by simp)

theorem isCancelled_complete (q : Question) {clock : Clock}
    (h : clock.isCancelled moment = true) :
    (clock.complete moment delayMs q).isCancelled moment = true := by
  rcases isCancelled_iff.mp h with hcancelled | ⟨ms, hmoment, hpassed⟩
  · refine isCancelled_iff.mpr (.inl ?_)
    cases q <;> simp [complete, completeSearch, completeFetch, hcancelled]
  · refine isCancelled_iff.mpr (.inr ⟨ms, hmoment, ?_⟩)
    cases q <;> exact Nat.le_add_right_of_le hpassed

variable (moment delayMs)

/-- **The clock of a session is somebody who may cancel.** -/
def canceller : Canceller Clock where
  cancelled := isCancelled moment
  meanwhile q clock :=
    match clock.interrupted moment delayMs with
    | some later => (true, later)
    | none => (false, clock.complete moment delayMs q)
  stays q clock h := by
    split
    · exact isCancelled_interrupted ‹_›
    · exact isCancelled_complete q h
  interrupts q clock h := by
    split at h
    · exact isCancelled_interrupted ‹_›
    · exact absurd h Bool.false_ne_true

/-- What comes of a question, seen without the record of the questions. -/
theorem pose_canceller {σ β : Type} (q : Question) (s : Scene σ Clock) (r : β × σ) :
    ((canceller moment delayMs).pose q s r).map id (fun s ↦ (s.catalog, s.canceller)) =
      match s.canceller.interrupted moment delayMs with
      | some later => (none, r.2, later)
      | none => (some r.1, r.2, s.canceller.complete moment delayMs q) := by
  have hmeanwhile : (canceller moment delayMs).meanwhile q s.canceller =
      match s.canceller.interrupted moment delayMs with
      | some later => (true, later)
      | none => (false, s.canceller.complete moment delayMs q) := rfl
  rw [Canceller.pose, hmeanwhile]
  cases s.canceller.interrupted moment delayMs with
  | none => rfl
  | some later => rfl

end Clock

section Timed

variable {α β σ τ τ' : Type}

/-- Surroundings that are another view of some surroundings lead to the same conversation, seen
that way. -/
theorem run_of_view {env : Surroundings τ} {env' : Surroundings τ'} (view : τ → τ')
    (hc : ∀ s, env'.cancelled (view s) = env.cancelled s)
    (hs : ∀ query s, env'.search query (view s) = (env.search query s).map id view)
    (hf : ∀ i s, env'.fetch i (view s) = (env.fetch i s).map id view)
    (title : String) (p : Plan α) (s : τ) :
    p.run env' title (view s) =
      ⟨(p.run env title s).result, (p.run env title s).asked, view (p.run env title s).state⟩ := by
  induction p generalizing s with
  | done a => rfl
  | search tier query next ih =>
    rw [Plan.run_search, Plan.run_search, hc, hs]
    cases env.cancelled s with
    | true => rfl
    | false =>
      rcases env.search query s with ⟨_ | _ | candidates, s₁⟩
      · rfl
      · rfl
      · simp [Plan.resume, Run.after, ih candidates s₁]
  | fetch tier i next ih =>
    rw [Plan.run_fetch, Plan.run_fetch, hc, hf]
    cases env.cancelled s with
    | true => rfl
    | false =>
      rcases env.fetch i s with ⟨_ | _ | media, s₁⟩
      · rfl
      · rfl
      · simp [Plan.resume, Run.after, ih media s₁]

/-- **A session with a clock is a session with a canceller**, seen without the record of its
questions. -/
theorem run_timed (b : Backend σ) (moment : Option Moment) (delayMs : Nat) (title : String)
    (p : Plan α) (s : Scene σ Clock) :
    p.run (timed b moment delayMs) title (s.catalog, s.canceller) =
      let r := p.run ((Clock.canceller moment delayMs).beside b) title s
      ⟨r.result, r.asked, (r.state.catalog, r.state.canceller)⟩ := by
  exact run_of_view (fun s : Scene σ Clock ↦ (s.catalog, s.canceller)) (fun _ ↦ rfl)
    (fun query s ↦ (Clock.pose_canceller moment delayMs (.search query) s _).symm)
    (fun i s ↦ (Clock.pose_canceller moment delayMs (.fetch i) s _).symm) title p s

end Timed

/-! ## The requests of a session -/

/-- **Cancelling changes nothing but how far a conversation gets.**  A request that somebody may
cancel asks the first questions of the same request when nobody does, and none after the token is
cancelled.  It ends in a cancellation if a question was interrupted or would still have been asked,
and then the token is cancelled; otherwise it ends as it would have ended, which is never a
cancellation. -/
theorem cancelling_transparent {σ κ : Type} (c : Canceller κ) (b : Backend σ) (settings : Settings)
    (tokenizer : Tokenizer) (request : Request) (st : σ) (k : κ) :
    let run := request.run (c.beside b) settings tokenizer ⟨st, k, []⟩
    let free := request.run (.of b) settings tokenizer st
    Follows c run.state.begun run free ∧ free.result ≠ .error .cancelled := by
  intro run free
  obtain ⟨begun, hbegun, hf⟩ :=
    run_follows c b request.title (request.plan settings tokenizer) ⟨st, k, []⟩
  have hrecord : run.state.begun = begun := hbegun.trans (List.nil_append _)
  refine ⟨?_, run_of_result_ne_cancelled b request.title (request.plan settings tokenizer) st⟩
  rw [hrecord]
  exact hf

end AnimeLookup.Lookup
