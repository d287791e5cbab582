import AnimeLookup.Catalog.Backend
import AnimeLookup.Catalog.GraphQl
import AnimeLookup.Catalog.RateLimit
import AnimeLookup.Catalog.Wire

/-!
# The AniList catalog

AniList answers GraphQL questions that are posted to it.  This module says which questions are
posted, and what an answer comes to.  How a question travels is left to a `Transport`.

An answer is judged from the outside in: none at all, a refusal (which is recognised before the
body is read), a body that breaks off, a status that means failure, and only then what the body
says.  A search passes every failure on.  A request for a record takes a status 404 for an answer,
namely that there is no such record, whether the server or the body of the answer says so.

Nothing is asked twice.
-/

set_option autoImplicit false

namespace AnimeLookup.Catalog.AniList

open GraphQl (Question Selection leaf branch)

/-- The name of the catalog. -/
def name : String := "AniList"

/-- What the program calls itself in its requests. -/
def userAgent : String := "animatch/0.1.0"

/-! ## Questions -/

/-- The fields of a candidate. -/
def candidateFields : List Selection :=
  [leaf "id", branch "title" ["romaji", "english", "native"],
    branch "coverImage" ["medium", "large", "extraLarge"],
    branch "startDate" ["year", "month", "day"]]

/-- The fields of a record. -/
def mediaFields : List Selection :=
  [leaf "id", branch "title" ["romaji", "english", "native"],
    branch "startDate" ["year", "month", "day"], branch "endDate" ["year", "month", "day"],
    branch "coverImage" ["medium", "large", "extraLarge"], leaf "bannerImage", leaf "format",
    leaf "status", leaf "episodes", leaf "duration", leaf "description", leaf "averageScore",
    leaf "genres", leaf "synonyms", branch "tags" ["name", "isMediaSpoiler"],
    .field "studios" [branch "nodes" ["name"]],
    .field "characters(sort: [ROLE])" [.field "edges" [
      .field "node" [branch "name" ["full", "native"]], leaf "role",
      .field "voiceActors" [branch "name" ["full", "native"], branch "image" ["medium", "large"],
        leaf "language"]]]]

/-- The question for the candidates for a title. -/
def searchQuestion (title : String) : Question where
  document := Selection.render <| .field "query ($query: String, $type: MediaType)" [
    .field "Page" [.field "media(search: $query, type: $type)" candidateFields]]
  values := Json.record [("query", Json.text title), ("type", Json.text "ANIME")]

/-- The question for the record with a number. -/
def mediaQuestion (id : UInt64) : Question where
  document := Selection.render <| .field "query ($id: Int!, $type: MediaType)" [
    .field "Media(id: $id, type: $type)" mediaFields]
  values := Json.record [("id", Json.nat id.toNat), ("type", Json.text "ANIME")]

/-! ## Data -/

/-- The candidates in the data of an answer to a search. -/
def searchData (v : Json) : Option (List Candidate) := do
  let f ← Json.Fields.of ["Page"] v
  f.required "Page" fun page ↦ do
    let p ← Json.Fields.of ["media"] page
    return (← p.optional "media" (Json.toList Candidate.ofJson)).getD []

/-- The record in the data of an answer to a request for one. -/
def mediaData (v : Json) : Option (Option Media) := do
  let f ← Json.Fields.of ["Media"] v
  f.optional "Media" Media.ofJson

/-! ## Answers -/

/-- The body of an answer. -/
inductive Body where
  /-- All of it. -/
  | complete (bytes : List UInt8)
  /-- It broke off. -/
  | cutShort

/-- An answer of a server. -/
structure Reply where
  /-- The status. -/
  status : Nat
  /-- The headers. -/
  headers : List Header
  /-- The body. -/
  body : Body

/-- A way to post a question, on some state: the answer to it, or none. -/
abbrev Transport (τ : Type) := Question → τ → Option Reply × τ

/-- Whether a status means success. -/
def isSuccess (status : Nat) : Bool := 200 ≤ status && status < 300

/-- **What the answer to a question comes to**, with a reader for the data. -/
def classify {α : Type} (read : Json → Option α) : Option Reply → Except CatalogError α
  | none => .error .http
  | some reply => do
    checkRateLimit reply.status reply.headers
    match reply.body with
    | .cutShort => .error .http
    | .complete bytes =>
      if isSuccess reply.status then GraphQl.decode read bytes else .error (.status reply.status)

/-- A missing record in the place of a status 404. -/
def absentIfNotFound : Except CatalogError (Option Media) → Except CatalogError (Option Media)
  | .error (.status 404) => .ok none
  | r => r

/-- The number that an identifier denotes. -/
def readId (id : String) : Option UInt64 :=
  (Text.readUnsigned UInt64.size (Text.trim id.toList)).map UInt64.ofNat

/-- **The catalog**, reached by a transport. -/
def backend {τ : Type} (post : Transport τ) : Backend τ where
  search title st := (post (searchQuestion title) st).map (classify searchData) id
  fetch i st :=
    match readId i with
    | some n => (post (mediaQuestion n) st).map (absentIfNotFound ∘ classify mediaData) id
    | none => (.error (.invalidId i), st)

end AnimeLookup.Catalog.AniList
