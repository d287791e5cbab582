import AnimeLookup.Lookup.Ladder
import AnimeLookup.Proofs.Catalog.Entries

/-!
# How a lookup goes

A lookup is written as a plan, and `Plan.run` holds it with a catalog.  This file describes what
comes of the two together without speaking of plans: which questions the catalog is asked, in which
order, and what each of its answers leads to.

* `queries` is the list of texts that are searched for.  It is said in one line, as a list without
  repetitions, where `rawQueries` tells the cases apart; `ladder_eq_queries` says that the two
  agree.
* `Tries` says what a single query comes to.  It ends the lookup, with a record or with an error,
  or it leads nowhere: because there is no candidate, or because the first candidate has no
  record any more.
* `Climbs` says what a list of queries comes to, and `LooksUp` what a lookup comes to.

`lookup_run_iff` is the headline: nobody cancelling, a run is what `LooksUp` describes, and
nothing else is.  As a run always exists and is only one, `LooksUp` is total and deterministic for
every catalog, whatever its state and its answers.
-/

set_option autoImplicit false

namespace AnimeLookup.Lookup

open Catalog Title

/-! ## The queries -/

/-- **The texts that are searched for**: the guess (if one is wanted) and the title, each
preprocessed, without repetition and without empty ones, and then the cleaned title unless it is
blank. -/
def queries (settings : Settings) (tokenizer : Tokenizer) (title : String) :
    List (Tier × String) :=
  let guessed := if settings.useTitleTokenizer then (tokenizer title).toList else []
  let raw := ((guessed ++ [title]).map (onString preprocess)).eraseDups.filter (· ≠ "")
  let cleaned := [onString lightClean title].filter (onString Text.trim · ≠ "")
  raw.map (Tier.raw, ·) ++ cleaned.map (Tier.cleaned, ·)

theorem eraseDups_pair (x y : String) : [x, y].eraseDups = if x = y then [y] else [x, y] := by
  rw [List.eraseDups_cons]
  by_cases h : x = y
  · simp [h]
  · simp [h, Ne.symm h, List.eraseDups_cons]

/-- The queries that tell the cases of a guess apart are the ones without repetitions. -/
theorem rawQueries_eq (settings : Settings) (tokenizer : Tokenizer) (title : String) :
    rawQueries settings tokenizer title =
      (((if settings.useTitleTokenizer then (tokenizer title).toList else []) ++ [title]).map
        (onString preprocess)).eraseDups.filter (· ≠ "") := by
  have hone : [onString preprocess title].eraseDups = [onString preprocess title] := by
    simp [List.eraseDups_cons]
  rw [rawQueries, guess]
  by_cases hwanted : settings.useTitleTokenizer = true
  · rw [if_pos hwanted, if_pos hwanted]
    cases tokenizer title with
    | none => rw [Option.toList_none, List.nil_append, List.map_singleton, hone]
    | some g =>
      rw [Option.toList_some, List.singleton_append, List.map_cons, List.map_singleton,
        eraseDups_pair]
  · rw [if_neg hwanted, if_neg hwanted, List.nil_append, List.map_singleton, hone]

theorem cleanedQueries_eq (title : String) :
    cleanedQueries title = [onString lightClean title].filter (onString Text.trim · ≠ "") := by
  rw [cleanedQueries]
  by_cases hblank : Text.allBlank (onString lightClean title).toList = true
  · have htrim := (onString_eq_empty_iff Text.trim _).mpr ((Text.trim_eq_nil_iff _).mpr hblank)
    rw [if_pos hblank, List.filter_cons_of_neg (by simpa using htrim), List.filter_nil]
  · have htrim : onString Text.trim (onString lightClean title) ≠ "" := fun h ↦
      hblank ((Text.trim_eq_nil_iff _).mp ((onString_eq_empty_iff Text.trim _).mp h))
    rw [if_neg hblank, List.filter_cons_of_pos (by simpa using htrim), List.filter_nil]

theorem ladder_eq_queries (settings : Settings) (tokenizer : Tokenizer) (title : String) :
    ladder settings tokenizer title = queries settings tokenizer title := by
  rw [ladder, queries, rawQueries_eq, cleanedQueries_eq]

/-! ## A single query -/

section Specification

variable {σ : Type} (b : Backend σ) (title : String)

/-- **What a single query comes to**: the questions that it takes, how the lookup ends with it, if
it does, and the state it leaves the catalog in.  The record of a candidate is asked for by the
number of the candidate, in decimal. -/
inductive Tries (tier : Tier) (query : String) (st : σ) :
    List Question → Option (Except LookupError Media) → σ → Prop
  /-- The search fails. -/
  | searchFailed {e : CatalogError} {st₁ : σ} (hs : b.search query st = (.error e, st₁)) :
      Tries tier query st [.search query] (some (.error (.catalog title tier e))) st₁
  /-- There is no candidate. -/
  | noCandidate {st₁ : σ} (hs : b.search query st = (.ok [], st₁)) :
      Tries tier query st [.search query] none st₁
  /-- The record of the first candidate cannot be fetched. -/
  | fetchFailed {c : Candidate} {others : List Candidate} {id : String} {e : CatalogError}
      {st₁ st₂ : σ} (hs : b.search query st = (.ok (c :: others), st₁))
      (hid : Text.IsDecimal id.toList c.id.toNat) (hf : b.fetch id st₁ = (.error e, st₂)) :
      Tries tier query st [.search query, .fetch id] (some (.error (.catalog title tier e))) st₂
  /-- The first candidate has no record any more. -/
  | stale {c : Candidate} {others : List Candidate} {id : String} {st₁ st₂ : σ}
      (hs : b.search query st = (.ok (c :: others), st₁))
      (hid : Text.IsDecimal id.toList c.id.toNat) (hf : b.fetch id st₁ = (.ok none, st₂)) :
      Tries tier query st [.search query, .fetch id] none st₂
  /-- The first candidate has a record. -/
  | found {c : Candidate} {others : List Candidate} {id : String} {media : Media} {st₁ st₂ : σ}
      (hs : b.search query st = (.ok (c :: others), st₁))
      (hid : Text.IsDecimal id.toList c.id.toNat) (hf : b.fetch id st₁ = (.ok (some media), st₂)) :
      Tries tier query st [.search query, .fetch id] (some (.ok media)) st₂

/-- Every query comes to something, whatever the catalog answers. -/
theorem exists_tries (tier : Tier) (query : String) (st : σ) :
    ∃ asked ending st', Tries b title tier query st asked ending st' := by
  rcases hs : b.search query st with ⟨_ | _ | ⟨c, others⟩, st₁⟩
  · exact ⟨_, _, _, .searchFailed hs⟩
  · exact ⟨_, _, _, .noCandidate hs⟩
  · rcases hf : b.fetch (idText c.id) st₁ with ⟨_ | _ | media, st₂⟩
    · exact ⟨_, _, _, .fetchFailed hs (isDecimal_idText c.id) hf⟩
    · exact ⟨_, _, _, .stale hs (isDecimal_idText c.id) hf⟩
    · exact ⟨_, _, _, .found hs (isDecimal_idText c.id) hf⟩

/-! ## A list of queries -/

/-- **What a list of queries comes to**: each is tried in turn until the lookup ends. -/
inductive Climbs : List (Tier × String) → σ → Run (Option Media) σ → Prop
  /-- There is no query left, and nothing was found. -/
  | exhausted (st : σ) : Climbs [] st ⟨.ok none, [], st⟩
  /-- The first query ends the lookup. -/
  | ends {tier : Tier} {query : String} {rest : List (Tier × String)} {st st' : σ}
      {asked : List Question} {ending : Except LookupError Media}
      (h : Tries b title tier query st asked (some ending) st') :
      Climbs ((tier, query) :: rest) st ⟨ending.map some, asked, st'⟩
  /-- The first query leads nowhere, and the others are tried. -/
  | goesOn {tier : Tier} {query : String} {rest : List (Tier × String)} {st st' : σ}
      {asked : List Question} {r : Run (Option Media) σ}
      (h : Tries b title tier query st asked none st') (hr : Climbs rest st' r) :
      Climbs ((tier, query) :: rest) st { r with asked := asked ++ r.asked }

variable {b title}

theorem climb_run_of_ends {tier : Tier} {query : String} {rest : List (Tier × String)} {st st' : σ}
    {asked : List Question} {ending : Except LookupError Media}
    (h : Tries b title tier query st asked (some ending) st') :
    (climb ((tier, query) :: rest)).run (.of b) title st = ⟨ending.map some, asked, st'⟩ := by
  cases h with
  | searchFailed hs => simp [climb, Plan.run, Surroundings.of, Run.after, hs, Except.map]
  | fetchFailed hs hid hf =>
    obtain rfl := isDecimal_iff_eq_idText.mp hid
    simp [climb, Plan.run, Surroundings.of, Run.after, hs, hf, Except.map]
  | found hs hid hf =>
    obtain rfl := isDecimal_iff_eq_idText.mp hid
    simp [climb, Plan.run, Surroundings.of, Run.after, hs, hf, Except.map]

theorem climb_run_of_goesOn {tier : Tier} {query : String} {rest : List (Tier × String)}
    {st st' : σ} {asked : List Question} (h : Tries b title tier query st asked none st') :
    (climb ((tier, query) :: rest)).run (.of b) title st =
      { (climb rest).run (.of b) title st' with
        asked := asked ++ ((climb rest).run (.of b) title st').asked } := by
  cases h with
  | noCandidate hs => simp [climb, Plan.run, Surroundings.of, Run.after, hs]
  | stale hs hid hf =>
    obtain rfl := isDecimal_iff_eq_idText.mp hid
    simp [climb, Plan.run, Surroundings.of, Run.after, hs, hf]

theorem climbs_run (l : List (Tier × String)) (st : σ) :
    Climbs b title l st ((climb l).run (.of b) title st) := by
  induction l generalizing st with
  | nil => exact .exhausted st
  | cons step rest ih =>
    obtain ⟨tier, query⟩ := step
    obtain ⟨asked, _ | ending, st', h⟩ := exists_tries b title tier query st
    · rw [climb_run_of_goesOn h]
      exact .goesOn h (ih st')
    · rw [climb_run_of_ends h]
      exact .ends h

theorem Climbs.eq_run {l : List (Tier × String)} {st : σ} {r : Run (Option Media) σ}
    (h : Climbs b title l st r) : r = (climb l).run (.of b) title st := by
  induction h with
  | exhausted st => rfl
  | ends h => exact (climb_run_of_ends h).symm
  | goesOn h _ ih => rw [climb_run_of_goesOn h, ← ih]

/-! ## A lookup -/

variable (b title)

/-- **What a lookup comes to.** -/
inductive LooksUp (settings : Settings) (tokenizer : Tokenizer) (existingId : Option String)
    (st : σ) : Run (Option Media) σ → Prop
  /-- An identifier is known.  Its record is fetched, and the answer is the result, even if there
  is no such record. -/
  | known {given : String} {answer : Except CatalogError (Option Media)} {st' : σ}
      (h : existingId = some given) (hne : onString Text.trim given ≠ "")
      (hf : b.fetch (onString Text.trim given) st = (answer, st')) :
      LooksUp settings tokenizer existingId st
        ⟨answer.mapError (.catalog title .id), [.fetch (onString Text.trim given)], st'⟩
  /-- No identifier is known, or only a blank one.  The queries are climbed. -/
  | unknown {r : Run (Option Media) σ} (h : ∀ given ∈ existingId, onString Text.trim given = "")
      (hc : Climbs b title (queries settings tokenizer title) st r) :
      LooksUp settings tokenizer existingId st r

variable {b title}

theorem knownId_eq_some_iff {existingId : Option String} {id : String} :
    knownId existingId = some id ↔
      ∃ given, existingId = some given ∧ id = onString Text.trim given ∧ id ≠ "" := by
  rw [knownId, Option.filter_eq_some_iff]
  constructor
  · rintro ⟨hmap, hne⟩
    obtain ⟨given, hgiven, hid⟩ := Option.map_eq_some_iff.mp hmap
    exact ⟨given, hgiven, hid.symm, of_decide_eq_true hne⟩
  · rintro ⟨given, rfl, rfl, hne⟩
    exact ⟨rfl, decide_eq_true hne⟩

theorem knownId_eq_none_iff {existingId : Option String} :
    knownId existingId = none ↔ ∀ given ∈ existingId, onString Text.trim given = "" := by
  rw [Option.eq_none_iff_forall_ne_some]
  constructor
  · intro h given hgiven
    refine Decidable.byContradiction fun hne ↦ ?_
    exact h _ (knownId_eq_some_iff.mpr ⟨given, hgiven, rfl, hne⟩)
  · intro h id hid
    obtain ⟨given, hgiven, hid, hne⟩ := knownId_eq_some_iff.mp hid
    exact hne (hid.trans (h given hgiven))

/-- A request for a record that is the whole plan. -/
theorem run_fetch_done (tier : Tier) (id : String) (st : σ) :
    (Plan.fetch tier id .done).run (.of b) title st =
      ⟨(b.fetch id st).1.mapError (.catalog title tier), [.fetch id], (b.fetch id st).2⟩ := by
  rw [Plan.run]
  rcases hf : b.fetch id st with ⟨_ | media, st'⟩ <;> simp only [Surroundings.of, hf] <;> rfl

end Specification

/-- **A lookup goes as described, and in no other way**: with an identifier that is known it is one
request for that record, and otherwise it climbs the queries. -/
theorem lookup_run_iff {σ : Type} (b : Backend σ) (settings : Settings) (tokenizer : Tokenizer)
    (title : String) (existingId : Option String) (st : σ) (r : Run (Option Media) σ) :
    (lookup settings tokenizer title existingId).run (.of b) title st = r ↔
      LooksUp b title settings tokenizer existingId st r := by
  constructor
  · rintro rfl
    rw [lookup]
    cases hk : knownId existingId with
    | some id =>
      obtain ⟨given, hgiven, rfl, hne⟩ := knownId_eq_some_iff.mp hk
      rw [run_fetch_done]
      exact .known hgiven hne rfl
    | none =>
      refine .unknown (knownId_eq_none_iff.mp hk) ?_
      rw [← ladder_eq_queries]
      exact climbs_run _ st
  · intro h
    rw [lookup]
    cases h with
    | known hgiven hne hf =>
      rw [knownId_eq_some_iff.mpr ⟨_, hgiven, rfl, hne⟩, run_fetch_done, hf]
    | unknown hblank hc =>
      rw [knownId_eq_none_iff.mpr hblank, ladder_eq_queries]
      exact hc.eq_run.symm

end AnimeLookup.Lookup
