import AnimeLookup.Catalog.Pacing
import AnimeLookup.Proofs.Catalog.Slowdown
import AnimeLookup.Proofs.Lookup.Sessions

/-!
# What waiting does, and what it does not

Questions that are posted at the catalog's pace are answered as they would be at once, only later.
So a plan carried out over a paced transport ends in the same, with the same questions
(`paced_transparent`).

What waiting does is to keep requests apart.  This file is about runs of requests with pauses
between them; a plan makes such a run of requests (`made_run`).  A request that follows one that was
not refused is posted at least a period later (`spaced_step`).  How long the period is, is known
from the refusals before, if no request comes after a quiet period (`requests_spaced`): it is the
base period, doubled with each refusal and stopped at sixteen times.  The base period is the
interval in the settings of the connection (`interval_kept`), and a run of less than a minute has no
quiet period (`neverQuiet_trace`).

A refusal puts up a new gate, and a new gate lets its first request through as soon as it likes.  So
nothing can be said about how soon a request comes after one that was refused.
-/

set_option autoImplicit false

namespace AnimeLookup.Catalog

open GraphQl (Question)
open AniList (Transport paced)

/-! ## Answers -/

section Answers

variable {γ τ : Type} (gates : Gates γ) (latency : Question → τ → ℕ) (post : Transport τ)

theorem remote_paced (q : Question) (c : Client γ τ) :
    (paced gates latency post q c).2.remote = (post q c.remote).2 := by
  rw [paced]
  split <;> rfl

/-- **A catalog answers alike at its pace.** -/
theorem alike_paced : Alike (AniList.backend (paced gates latency post)) (AniList.backend post)
    (fun c st ↦ c.remote = st) where
  search title c st h := by
    obtain rfl := h
    exact ⟨rfl, remote_paced gates latency post _ c⟩
  fetch id c st h := by
    obtain rfl := h
    unfold AniList.backend
    dsimp only
    cases AniList.readId id with
    | some n => exact ⟨rfl, remote_paced gates latency post _ c⟩
    | none => exact ⟨rfl, rfl⟩

/-- **Waiting changes no result.**  What a plan ends in, which questions it asks, and what is behind
the transport after it, are as they would be without a limiter. -/
theorem paced_transparent {α : Type} (title : String) (p : Lookup.Plan α) (c : Client γ τ) :
    Lookup.GoAlike (fun c st ↦ c.remote = st)
      (p.run (.of (AniList.backend (paced gates latency post))) title c)
      (p.run (.of (AniList.backend post)) title c.remote) :=
  Lookup.run_alike (alike_paced gates latency post) title p c c.remote rfl

end Answers

/-! ## Limiters -/

/-- An event that puts up no gate leaves the period as it is. -/
theorem Limiter.period_after {l : Limiter} {e : Event} (h : l.renewsGate e = false) :
    (l.after e).period = l.period := by
  cases e with
  | refused => exact period_slowed_of_le (Nat.not_lt.mp (of_decide_eq_false h))
  | acquired => rw [after, ← renewsGate, h, if_neg Bool.false_ne_true]
  | passed time => rfl

/-- **The limiter before a request** of a run in which none comes after a quiet period. -/
theorem Limiter.paced_before {early late : List Event}
    (hquiet : NeverQuiet (early ++ .acquired :: late)) (base : ℕ) :
    Paced (max base millisecond) (early.count .refused) ((ofBase base).afterAll early) ∧
      ((ofBase base).afterAll early).isQuiet = false := by
  have htake : (early ++ .acquired :: late).take early.length = early := List.take_left
  have hget : (early ++ .acquired :: late)[early.length]? = some .acquired := by simp
  have hpaced := paced_take hquiet base early.length
  have hacquired := isQuiet_eq_false hquiet base hget
  rw [htake] at hpaced hacquired
  exact ⟨hpaced, hacquired⟩

theorem Limiter.elapsed_append (events events' : List Event) :
    elapsed (events ++ events') = elapsed events + elapsed events' := by
  induction events with
  | nil => exact (Nat.zero_add _).symm
  | cons e rest ih => rw [List.cons_append, elapsed, ih, elapsed, Nat.add_assoc]

theorem Limiter.elapsed_sinceLast_le (events : List Event) :
    elapsed (sinceLast events) ≤ elapsed events := by
  have hreverse : elapsed events.reverse = elapsed events := by
    induction events with
    | nil => rfl
    | cons e rest ih =>
      rw [List.reverse_cons, elapsed_append, ih, Nat.add_comm]
      rfl
  rw [← hreverse, ← List.takeWhile_append_dropWhile (p := fun e ↦ decide (e ≠ .refused))
    (l := events.reverse), elapsed_append]
  exact Nat.le_add_right _ _

/-- A run that is shorter than a quiet period has no request after one. -/
theorem Limiter.neverQuiet_of_elapsed_lt {events : List Event} (h : elapsed events < quietPeriod) :
    NeverQuiet events := by
  intro n _ _ _
  calc elapsed (sinceLast (events.take n))
    _ ≤ elapsed (events.take n) := elapsed_sinceLast_le _
    _ ≤ elapsed (events.take n ++ events.drop n) := by
      rw [elapsed_append]
      exact Nat.le_add_right _ _
    _ < quietPeriod := by rwa [List.take_append_drop]

/-! ## Runs of requests -/

/-- A question that comes up after a pause. -/
structure Visit where
  /-- How long nothing is asked before. -/
  pause : ℕ
  /-- What is asked then. -/
  question : Question

namespace Client

variable {γ τ : Type} (gates : Gates γ) (latency : Question → τ → ℕ) (post : Transport τ)

/-- The client when a question has been answered. -/
def answered (c : Client γ τ) (v : Visit) : Client γ τ :=
  { (c.rest v.pause).acquire gates with remote := (post v.question c.remote).2 }.rest
    (latency v.question c.remote)

/-- The client after a question. -/
def visit (c : Client γ τ) (v : Visit) : Client γ τ :=
  (paced gates latency post v.question (c.rest v.pause)).2

/-- The client after a run of requests. -/
def visits (c : Client γ τ) (vs : List Visit) : Client γ τ := vs.foldl (visit gates latency post) c

/-- When a question is posted. -/
def postedAt (c : Client γ τ) (v : Visit) : ℕ := ((c.rest v.pause).acquire gates).now

/-- Whether a question is refused. -/
def refuses (c : Client γ τ) (v : Visit) : Bool :=
  (post v.question c.remote).1.any AniList.Reply.refuses

/-- How many requests of a run are refused. -/
def refusals (c : Client γ τ) : List Visit → ℕ
  | [] => 0
  | v :: rest => (c.refuses post v).toNat + (c.visit gates latency post v).refusals rest

/-- How long a question waits at the gate. -/
def waiting (c : Client γ τ) (v : Visit) : ℕ :=
  (gates.pass ((c.rest v.pause).notice gates .acquired).gate (c.rest v.pause).now).1 -
    (c.rest v.pause).now

/-- What the limiter sees of a request. -/
def eventsOf (c : Client γ τ) (v : Visit) : List Limiter.Event :=
  [.passed v.pause, .acquired, .passed (c.waiting gates v),
    .passed (latency v.question c.remote)] ++
    if c.refuses post v then [.refused] else []

/-- What the limiter sees of a run of requests. -/
def trace (c : Client γ τ) : List Visit → List Limiter.Event
  | [] => []
  | v :: rest => c.eventsOf gates latency post v ++ (c.visit gates latency post v).trace rest

theorem visit_eq (c : Client γ τ) (v : Visit) : c.visit gates latency post v =
    if c.refuses post v then (c.answered gates latency post v).notice gates .refused
    else c.answered gates latency post v := rfl

/-! ### Gates and periods -/

section Kept

variable {gates : Gates γ} {latency : Question → τ → ℕ} {post : Transport τ}
  {period opening : γ → ℕ} {c : Client γ τ} {v w : Visit}

/-- The gate has the period of the limiter. -/
def Kept (period : γ → ℕ) (c : Client γ τ) : Prop := period c.gate = c.limiter.period

theorem kept_ofBase (hgates : gates.KeepsApart period opening) (base : ℕ) (remote : τ) :
    Kept period (ofBase gates base remote) := hgates.period_ofPeriod _

theorem Kept.notice (h : Kept period c) (hgates : gates.KeepsApart period opening)
    (e : Limiter.Event) : Kept period (c.notice gates e) := by
  show period (if c.limiter.renewsGate e then _ else _) = (c.limiter.after e).period
  cases hrenews : c.limiter.renewsGate e with
  | true => exact hgates.period_ofPeriod _
  | false => exact h.trans (Limiter.period_after hrenews).symm

theorem Kept.acquire (h : Kept period c) (hgates : gates.KeepsApart period opening) :
    Kept period (c.acquire gates) :=
  (hgates.period_pass _ _).trans (h.notice hgates .acquired)

theorem Kept.visit (h : Kept period c) (hgates : gates.KeepsApart period opening) (v : Visit) :
    Kept period (c.visit gates latency post v) := by
  have hanswered : Kept period (c.answered gates latency post v) := Kept.acquire h hgates
  rw [visit_eq]
  split
  · exact hanswered.notice hgates .refused
  · exact hanswered

theorem Kept.visits (h : Kept period c) (hgates : gates.KeepsApart period opening)
    (vs : List Visit) : Kept period (c.visits gates latency post vs) := by
  induction vs generalizing c with
  | nil => exact h
  | cons v rest ih => exact ih (h.visit hgates v)

/-! ### One request after another -/

/-- A request is let through when the gate says so. -/
theorem now_acquire (hgates : gates.KeepsApart period opening) (c : Client γ τ) :
    (c.acquire gates).now = (gates.pass (c.notice gates .acquired).gate c.now).1 :=
  Nat.add_sub_of_le (hgates.le_pass _ _)

/-- A request that is not refused leaves the gate as it was let through. -/
theorem gate_visit (hv : c.refuses post v = false) :
    (c.visit gates latency post v).gate = ((c.rest v.pause).acquire gates).gate := by
  rw [visit_eq, hv]
  rfl

/-- **A request waits for a period after one that was not refused**, unless a new gate is put up
because the catalog has been quiet for long. -/
theorem spaced_step (hgates : gates.KeepsApart period opening) (h : Kept period c)
    (hv : c.refuses post v = false)
    (hw : ((c.visit gates latency post v).rest w.pause).limiter.renewsGate .acquired = false) :
    c.postedAt gates v + (c.visit gates latency post v).limiter.period ≤
      (c.visit gates latency post v).postedAt gates w := by
  have hkept : Kept period (c.visit gates latency post v) := h.visit hgates v
  -- The second request comes to the gate that the first one went through.
  have hgate : (((c.visit gates latency post v).rest w.pause).notice gates .acquired).gate =
      ((c.rest v.pause).acquire gates).gate := by
    rw [← gate_visit hv, notice, if_neg (by rw [hw]; exact Bool.false_ne_true)]
    rfl
  calc c.postedAt gates v + (c.visit gates latency post v).limiter.period
    _ = (gates.pass ((c.rest v.pause).notice gates .acquired).gate (c.rest v.pause).now).1 +
        period ((c.rest v.pause).acquire gates).gate := by
      rw [postedAt, now_acquire hgates, ← gate_visit hv, hkept]
    _ = _ + period ((c.rest v.pause).notice gates .acquired).gate := by
      congr 1
      exact hgates.period_pass _ _
    _ ≤ opening ((c.rest v.pause).acquire gates).gate := hgates.le_opening _ _
    _ ≤ (c.visit gates latency post v).postedAt gates w := by
      rw [postedAt, now_acquire hgates, hgate]
      exact hgates.opening_le_pass _ _

end Kept

/-! ### Runs -/

theorem trace_append (c : Client γ τ) (vs ws : List Visit) :
    c.trace gates latency post (vs ++ ws) = c.trace gates latency post vs ++
      (c.visits gates latency post vs).trace gates latency post ws := by
  induction vs generalizing c with
  | nil => rfl
  | cons v rest ih =>
    rw [List.cons_append, trace, ih, trace, List.append_assoc]
    rfl

/-- **The limiter goes by what it sees.** -/
theorem limiter_visits (c : Client γ τ) (vs : List Visit) :
    (c.visits gates latency post vs).limiter =
      c.limiter.afterAll (c.trace gates latency post vs) := by
  induction vs generalizing c with
  | nil => rfl
  | cons v rest ih =>
    have hvisit : (c.visit gates latency post v).limiter =
        c.limiter.afterAll (c.eventsOf gates latency post v) := by
      rw [visit_eq, eventsOf]
      cases c.refuses post v <;> rfl
    calc (c.visits gates latency post (v :: rest)).limiter
      _ = (c.visit gates latency post v).limiter.afterAll
          ((c.visit gates latency post v).trace gates latency post rest) := ih _
      _ = c.limiter.afterAll (c.trace gates latency post (v :: rest)) := by
        rw [hvisit, trace, Limiter.afterAll, Limiter.afterAll, Limiter.afterAll,
          List.foldl_append]

theorem now_answered (c : Client γ τ) (v : Visit) : (c.answered gates latency post v).now =
    c.now + v.pause + c.waiting gates v + latency v.question c.remote := rfl

/-- The limiter sees all the time that passes. -/
theorem now_visits (c : Client γ τ) (vs : List Visit) : (c.visits gates latency post vs).now =
    c.now + Limiter.elapsed (c.trace gates latency post vs) := by
  induction vs generalizing c with
  | nil => rfl
  | cons v rest ih =>
    have hvisit : (c.visit gates latency post v).now =
        c.now + Limiter.elapsed (c.eventsOf gates latency post v) := by
      have hnow : (c.visit gates latency post v).now = (c.answered gates latency post v).now := by
        rw [visit_eq]
        split <;> rfl
      rw [hnow, now_answered, eventsOf, Limiter.elapsed_append]
      cases c.refuses post v <;> simp [Limiter.elapsed, Limiter.Event.time, Nat.add_assoc]
    calc (c.visits gates latency post (v :: rest)).now
      _ = (c.visit gates latency post v).now +
          Limiter.elapsed ((c.visit gates latency post v).trace gates latency post rest) := ih _
      _ = c.now + Limiter.elapsed (c.trace gates latency post (v :: rest)) := by
        rw [hvisit, trace, Limiter.elapsed_append, Nat.add_assoc]

/-- **In a run of less than a minute** no request comes after a quiet period. -/
theorem neverQuiet_trace {c : Client γ τ} {vs : List Visit}
    (h : (c.visits gates latency post vs).now < c.now + quietPeriod) :
    Limiter.NeverQuiet (c.trace gates latency post vs) := by
  rw [now_visits] at h
  exact Limiter.neverQuiet_of_elapsed_lt (Nat.lt_of_add_lt_add_left h)

/-- Every refusal is seen, and nothing else is taken for one. -/
theorem count_trace (c : Client γ τ) (vs : List Visit) :
    (c.trace gates latency post vs).count .refused = c.refusals gates latency post vs := by
  induction vs generalizing c with
  | nil => rfl
  | cons v rest ih =>
    rw [trace, List.count_append, ih, refusals, eventsOf]
    cases c.refuses post v <;> rfl

theorem visits_concat (c : Client γ τ) (vs : List Visit) (v : Visit) :
    c.visits gates latency post (vs ++ [v]) =
      (c.visits gates latency post vs).visit gates latency post v :=
  List.foldl_append

theorem refusals_concat (c : Client γ τ) (vs : List Visit) (v : Visit) :
    c.refusals gates latency post (vs ++ [v]) = c.refusals gates latency post vs +
      ((c.visits gates latency post vs).refuses post v).toNat := by
  induction vs generalizing c with
  | nil => exact Nat.add_comm _ 0
  | cons first rest ih =>
    rw [List.cons_append, refusals, ih, refusals, Nat.add_assoc]
    rfl

/-- **How far requests are kept apart.**  In a run in which none comes after a quiet period, a
request that follows one that was not refused is posted at least a period later: the base period,
doubled with each refusal before and stopped at sixteen times, if all these periods can be reckoned
with. -/
theorem requests_spaced {gates : Gates γ} {period opening : γ → ℕ}
    (hgates : gates.KeepsApart period opening) (base : ℕ) (remote : τ) (vs : List Visit)
    (v w : Visit) (hbound : 16 * max base millisecond < periodBound)
    (hquiet : Limiter.NeverQuiet
      ((ofBase gates base remote).trace gates latency post (vs ++ [v, w])))
    (hv : ((ofBase gates base remote).visits gates latency post vs).refuses post v = false) :
    let c := (ofBase gates base remote).visits gates latency post vs
    c.postedAt gates v + min (2 ^ (ofBase gates base remote).refusals gates latency post vs) 16 *
        max base millisecond ≤
      (c.visit gates latency post v).postedAt gates w := by
  intro c
  let start : Client γ τ := ofBase gates base remote
  -- What the limiter has seen when the second request comes to the gate.
  let early := start.trace gates latency post (vs ++ [v]) ++ [.passed w.pause]
  let late := ((c.visit gates latency post v).eventsOf gates latency post w).drop 2
  have htrace : start.trace gates latency post (vs ++ [v, w]) = early ++ .acquired :: late := by
    calc start.trace gates latency post (vs ++ [v, w])
      _ = start.trace gates latency post (vs ++ [v]) ++
          (start.visits gates latency post (vs ++ [v])).trace gates latency post [w] := by
        rw [← trace_append, List.append_assoc]
        rfl
      _ = early ++ .acquired :: late := by
        rw [visits_concat, trace, trace, List.append_nil, List.append_assoc]
        rfl
  have hlimiter : (Limiter.ofBase base).afterAll early =
      ((c.visit gates latency post v).rest w.pause).limiter := by
    rw [Limiter.afterAll_concat, ← visits_concat, rest, limiter_visits]
    rfl
  have hcount : early.count .refused = start.refusals gates latency post vs := by
    rw [List.count_append, count_trace, refusals_concat, hv]
    rfl
  obtain ⟨hpaced, hacquired⟩ := Limiter.paced_before (htrace ▸ hquiet) base
  rw [hlimiter, hcount] at hpaced
  rw [hlimiter] at hacquired
  obtain ⟨m, -, -, hperiod, hfactor⟩ := hpaced.period
  rw [hfactor hbound, hpaced.factor] at hperiod
  have hkept : Kept period c := (kept_ofBase hgates base remote).visits hgates vs
  have hstep := spaced_step hgates hkept hv (by rw [Limiter.renewsGate, hacquired, Bool.false_and])
  exact hperiod ▸ hstep

/-- **The interval that the settings ask for is kept**, and multiplied after refusals, as long as
none of the requests comes after a quiet period.  Every interval can be reckoned with. -/
theorem interval_kept {gates : Gates γ} {period opening : γ → ℕ}
    (hgates : gates.KeepsApart period opening) (n : NetworkSettings) (remote : τ)
    (vs : List Visit) (v w : Visit)
    (hquiet : Limiter.NeverQuiet
      ((ofSettings gates n remote).trace gates latency post (vs ++ [v, w])))
    (hv : ((ofSettings gates n remote).visits gates latency post vs).refuses post v = false) :
    let c := (ofSettings gates n remote).visits gates latency post vs
    c.postedAt gates v +
        min (2 ^ (ofSettings gates n remote).refusals gates latency post vs) 16 *
          (n.effectiveIntervalMs.toNat * millisecond) ≤
      (c.visit gates latency post v).postedAt gates w := by
  have hlow : millisecond ≤ n.effectiveIntervalMs.toNat * millisecond :=
    Nat.le_mul_of_pos_left _ (UInt64.le_iff_toNat_le.mp n.one_le_effectiveIntervalMs)
  have hhigh : n.effectiveIntervalMs.toNat < UInt64.size := n.effectiveIntervalMs.toNat_lt
  have hbound : 16 * max (n.effectiveIntervalMs.toNat * millisecond) millisecond < periodBound := by
    rw [Nat.max_eq_left hlow, show millisecond = 1000000 from rfl,
      show periodBound = UInt64.size * 1000000000 from rfl]
    omega
  have hspaced := requests_spaced latency post hgates _ remote vs v w hbound hquiet hv
  rwa [Nat.max_eq_left hlow] at hspaced

/-- A client that rests for no time is as it was. -/
theorem rest_zero (c : Client γ τ) : c.rest 0 = c := by
  rw [rest, Limiter.after]
  simp

/-- A question that is posted without a pause is the first request of a run. -/
theorem visits_now (c : Client γ τ) (q : Question) (vs : List Visit) :
    c.visits gates latency post (⟨0, q⟩ :: vs) =
      (paced gates latency post q c).2.visits gates latency post vs := by
  show (c.visit gates latency post ⟨0, q⟩).visits gates latency post vs = _
  rw [visit, rest_zero]

/-- What is posted for a question of a plan.  Nothing is posted for an identifier that is no
number. -/
def posted : Lookup.Question → Option Question
  | .search query => some (AniList.searchQuestion query)
  | .fetch i => (AniList.readId i).map AniList.mediaQuestion

/-- Questions of a plan, as requests without pauses. -/
def requests (asked : List Lookup.Question) : List Visit := (asked.filterMap posted).map (⟨0, ·⟩)

/-- **A client has made the requests of a run** over its transport. -/
def Made {α : Type} (c : Client γ τ) (run : Lookup.Run α (Client γ τ)) : Prop :=
  run.state = c.visits gates latency post (requests run.asked)

section Made

variable {gates : Gates γ} {latency : Question → τ → ℕ} {post : Transport τ} {α β : Type}
  {c : Client γ τ} {run : Lookup.Run α (Client γ τ)}

/-- What is posted for a question comes first. -/
theorem Made.after {q : Lookup.Question} {posting : Question} (hq : posted q = some posting)
    (h : Made gates latency post (paced gates latency post posting c).2 run) :
    Made gates latency post c (run.after q) := by
  rw [Made, Lookup.Run.after, requests, List.filterMap_cons_some hq, List.map_cons, visits_now]
  exact h

theorem Made.after_fetch {i : String}
    (h : Made gates latency post ((AniList.backend (paced gates latency post)).fetch i c).2 run) :
    Made gates latency post c (run.after (.fetch i)) := by
  unfold AniList.backend at h
  dsimp only at h
  cases hid : AniList.readId i with
  | none =>
    have hposted : posted (.fetch i) = none := by rw [posted, hid, Option.map_none]
    rw [hid] at h
    rw [Made, Lookup.Run.after, requests, List.filterMap_cons_none hposted]
    exact h
  | some n =>
    rw [hid] at h
    exact h.after (by rw [posted, hid, Option.map_some])

theorem made_resume {title : String} {tier : Lookup.Tier} {next : β → Lookup.Plan α}
    (r : Except CatalogError β × Client γ τ)
    (ih : ∀ a c, Made gates latency post c
      ((next a).run (.of (AniList.backend (paced gates latency post))) title c)) :
    Made gates latency post r.2
      (Lookup.Plan.resume (.of (AniList.backend (paced gates latency post))) title tier next
        (r.map some id)) := by
  obtain ⟨e | a, c⟩ := r
  · rfl
  · exact ih a c

/-- **The questions of a plan are a run of requests.** -/
theorem made_run (title : String) (p : Lookup.Plan α) (c : Client γ τ) :
    Made gates latency post c
      (p.run (.of (AniList.backend (paced gates latency post))) title c) := by
  induction p generalizing c with
  | done a => rfl
  | search tier query next ih =>
    rw [Lookup.Plan.run_search]
    exact (made_resume ((AniList.backend (paced gates latency post)).search query c) ih).after rfl
  | fetch tier i next ih =>
    rw [Lookup.Plan.run_fetch]
    exact (made_resume ((AniList.backend (paced gates latency post)).fetch i c) ih).after_fetch

end Made

end Client

/-! ## A kind of gates -/

/-- Gates that open again when their period is over.  They consist of the period and of the time at
which they open. -/
def Gates.reopening : Gates (ℕ × ℕ) where
  ofPeriod p := (p, 0)
  pass g now := (max now g.2, g.1, max now g.2 + g.1)

theorem Gates.reopening_keepsApart : reopening.KeepsApart Prod.fst Prod.snd where
  period_ofPeriod _ := rfl
  period_pass _ _ := rfl
  le_pass _ _ := Nat.le_max_left _ _
  opening_le_pass _ _ := Nat.le_max_right _ _
  le_opening _ _ := Nat.le_refl _

/-- The second request comes a tenth of a second after the first, and waits. -/
example :
    let c := Client.ofSettings .reopening .default ()
    let post : Transport Unit := fun _ st ↦ (none, st)
    let v : Visit := ⟨100 * millisecond, AniList.searchQuestion "Show"⟩
    c.postedAt .reopening v = 100 * millisecond ∧
      (c.visit .reopening (fun _ _ ↦ 0) post v).postedAt .reopening v = 800 * millisecond := by
  decide

end AnimeLookup.Catalog
