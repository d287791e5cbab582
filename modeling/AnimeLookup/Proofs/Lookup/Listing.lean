import AnimeLookup.Proofs.Lookup.Climbing

/-!
# How a search listing goes

A listing takes less thought than a lookup: at most one record is asked for, and at most one search
is made.  What can happen is said for each of the two by itself and then for both together.

* `Recalls` says what the known identifier comes to: nothing without one, and otherwise one request
  for its record.
* `Finds` says what the title comes to: nothing if it is blank, and otherwise one search for the
  title exactly as it was given.
* `Lists` puts them in order.  A failure of the first is the end, and the title is not searched for;
  a failure of the second leaves nothing of what the first has found.  Otherwise there is one entry
  for each work, which says of it what `IsEntry` describes.

`searchResults_run_iff` says that this is what a run is, and that it is nothing else, for every
catalog.
-/

set_option autoImplicit false

namespace AnimeLookup.Lookup

open Catalog

theorem onString_trim_eq_empty_iff (s : String) :
    onString Text.trim s = "" ↔ Text.allBlank s.toList = true :=
  (onString_eq_empty_iff Text.trim s).trans (Text.trim_eq_nil_iff s.toList)

/-! ## What may happen -/

section Specification

variable {σ : Type} (b : Backend σ) (title : String)

/-- **What the known identifier comes to.** -/
inductive Recalls (existingId : Option String) (st : σ) : Run (Option Media) σ → Prop
  /-- No identifier is known, or only a blank one.  Nothing is asked. -/
  | unknown (h : ∀ given ∈ existingId, onString Text.trim given = "") :
      Recalls existingId st ⟨.ok none, [], st⟩
  /-- An identifier is known.  Its record is asked for by the identifier without the white space
  around it. -/
  | known {given : String} {answer : Except CatalogError (Option Media)} {st' : σ}
      (h : existingId = some given) (hne : onString Text.trim given ≠ "")
      (hf : b.fetch (onString Text.trim given) st = (answer, st')) :
      Recalls existingId st
        ⟨answer.mapError (.catalog title .id), [.fetch (onString Text.trim given)], st'⟩

/-- **What the title comes to.** -/
inductive Finds (st : σ) : Run (List Candidate) σ → Prop
  /-- The title is blank.  Nothing is asked. -/
  | blank (h : onString Text.trim title = "") : Finds st ⟨.ok [], [], st⟩
  /-- The title is searched for as it is. -/
  | searched {answer : Except CatalogError (List Candidate)} {st' : σ}
      (hne : onString Text.trim title ≠ "") (hs : b.search title st = (answer, st')) :
      Finds st ⟨answer.mapError (.catalog title .raw), [.search title], st'⟩

/-- **What a search listing comes to.** -/
inductive Lists (settings : Settings) (existingId : Option String) (st : σ) :
    Run (List SearchResult) σ → Prop
  /-- The record cannot be fetched. -/
  | notRecalled {e : LookupError} {asked : List Question} {st' : σ}
      (hr : Recalls b title existingId st ⟨.error e, asked, st'⟩) :
      Lists settings existingId st ⟨.error e, asked, st'⟩
  /-- The title cannot be searched for. -/
  | notFound {record : Option Media} {e : LookupError} {asked asked' : List Question} {st₁ st₂ : σ}
      (hr : Recalls b title existingId st ⟨.ok record, asked, st₁⟩)
      (hf : Finds b title st₁ ⟨.error e, asked', st₂⟩) :
      Lists settings existingId st ⟨.error e, asked ++ asked', st₂⟩
  /-- The entry of the record, if there is one, is followed by those of the candidates, one for each
  of them and in their order. -/
  | listed {record : Option Media} {candidates : List Candidate}
      {recalled found : List SearchResult} {asked asked' : List Question} {st₁ st₂ : σ}
      (hr : Recalls b title existingId st ⟨.ok record, asked, st₁⟩)
      (hf : Finds b title st₁ ⟨.ok candidates, asked', st₂⟩)
      (hrecalled : List.Forall₂ (fun m ↦ IsEntry settings m.id m.titles m.startDate m.cover)
        record.toList recalled)
      (hfound : List.Forall₂ (fun c ↦ IsEntry settings c.id c.titles c.startDate c.cover)
        candidates found) :
      Lists settings existingId st ⟨.ok (recalled ++ found), asked ++ asked', st₂⟩

/-! ## What does happen -/

/-- With or without an identifier something comes of it, whatever the catalog answers. -/
theorem exists_recalls (existingId : Option String) (st : σ) :
    ∃ run, Recalls b title existingId st run := by
  cases hk : knownId existingId with
  | none => exact ⟨_, .unknown (knownId_eq_none_iff.mp hk)⟩
  | some id =>
    obtain ⟨given, hgiven, rfl, hne⟩ := knownId_eq_some_iff.mp hk
    exact ⟨_, .known hgiven hne rfl⟩

theorem exists_finds (st : σ) : ∃ run, Finds b title st run := by
  by_cases h : onString Text.trim title = ""
  · exact ⟨_, .blank h⟩
  · exact ⟨_, .searched h rfl⟩

theorem exists_lists (settings : Settings) (existingId : Option String) (st : σ) :
    ∃ run, Lists b title settings existingId st run := by
  obtain ⟨⟨_ | record, asked, st₁⟩, hr⟩ := exists_recalls b title existingId st
  · exact ⟨_, .notRecalled hr⟩
  · obtain ⟨⟨_ | candidates, asked', st₂⟩, hf⟩ := exists_finds b title st₁
    · exact ⟨_, .notFound hr hf⟩
    · exact ⟨_, .listed hr hf (forall₂_isEntry_media_iff.mpr rfl) (forall₂_isEntry_iff.mpr rfl)⟩

variable {b title} {settings : Settings} {existingId : Option String} {st : σ}

/-- The search of a listing, behind the entries that were found before it. -/
theorem Finds.run_eq {run : Run (List Candidate) σ} (h : Finds b title st run)
    (found : List SearchResult) :
    (listCandidates settings title found).run (.of b) title st =
      ⟨run.result.map fun candidates ↦ found ++ candidates.map (·.toSearchResult settings),
        run.asked, run.state⟩ := by
  rw [listCandidates]
  cases h with
  | blank h =>
    have hnone : (Except.ok found : Except LookupError (List SearchResult)) = .ok (found ++ []) :=
      congrArg Except.ok (List.append_nil found).symm
    rw [if_pos ((onString_trim_eq_empty_iff title).mp h), Plan.run, hnone]
    rfl
  | @searched answer st' hne hs =>
    rw [if_neg fun hblank ↦ hne ((onString_trim_eq_empty_iff title).mpr hblank), Plan.run]
    simp only [Surroundings.of, hs]
    cases answer <;> rfl

/-- A listing is over if the record cannot be fetched, and otherwise goes on with the search, behind
the entry of the record. -/
theorem Recalls.run_eq {run : Run (Option Media) σ} (h : Recalls b title existingId st run) :
    (searchResults settings title existingId).run (.of b) title st =
      match run.result with
      | .error e => ⟨.error e, run.asked, run.state⟩
      | .ok record =>
        let rest := (listCandidates settings title
          (record.toList.map (·.toSearchResult settings))).run (.of b) title run.state
        ⟨rest.result, run.asked ++ rest.asked, rest.state⟩ := by
  rw [searchResults]
  cases h with
  | unknown h =>
    rw [knownId_eq_none_iff.mpr h]
    rfl
  | @known given answer st' hgiven hne hf =>
    rw [knownId_eq_some_iff.mpr ⟨given, hgiven, rfl, hne⟩, Plan.run]
    simp only [Surroundings.of, hf]
    cases answer <;> rfl

theorem Lists.eq_run {run : Run (List SearchResult) σ}
    (h : Lists b title settings existingId st run) :
    (searchResults settings title existingId).run (.of b) title st = run := by
  cases h with
  | notRecalled hr => rw [hr.run_eq]
  | notFound hr hf =>
    rw [hr.run_eq]
    simp only [hf.run_eq]
    rfl
  | listed hr hf hrecalled hfound =>
    obtain rfl := forall₂_isEntry_media_iff.mp hrecalled
    obtain rfl := forall₂_isEntry_iff.mp hfound
    rw [hr.run_eq]
    simp only [hf.run_eq]
    rfl

end Specification

/-- **A search listing goes as described, and in no other way**: the record with the known
identifier is asked for first, then the title is searched for as it is, and the entries of both are
listed in this order; the first failure ends it, and nothing is listed. -/
theorem searchResults_run_iff {σ : Type} (b : Backend σ) (settings : Settings) (title : String)
    (existingId : Option String) (st : σ) (r : Run (List SearchResult) σ) :
    (searchResults settings title existingId).run (.of b) title st = r ↔
      Lists b title settings existingId st r := by
  refine ⟨?_, Lists.eq_run⟩
  rintro rfl
  obtain ⟨run, hrun⟩ := exists_lists b title settings existingId st
  rwa [hrun.eq_run]

end AnimeLookup.Lookup
