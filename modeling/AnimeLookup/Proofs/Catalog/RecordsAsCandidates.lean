import AnimeLookup.Catalog.Wire
import AnimeLookup.Proofs.Json.RecordFields
import AnimeLookup.Proofs.Json.RoundTrip

/-!
# Records read as candidates

A candidate has four of the fields of a record.  An object that can be read as a record can be read
as a candidate, with the same four fields, and both are listed in the same way
(`candidate_of_record`).

Nothing that stands in the other fields can spoil this.  A reader of candidates has never heard of
them: it passes over whatever is there, even if it is there twice, and needs only that the keys are
texts (`Fields.of_object_mono`).  The converse fails, of course.  An array is another matter, too,
since it has no room for further fields; that is why the text has to be that of an object.
-/

set_option autoImplicit false

namespace AnimeLookup.Catalog

open Json (Fields bind_of_eq_some)

/-- The names of the fields of a candidate. -/
def Candidate.fieldNames : List String := ["id", "title", "startDate", "coverImage"]

theorem Candidate.fieldNames_subset : Candidate.fieldNames ⊆ Media.fieldNames := by decide

/-- What was read for a record is in its fields.  Only those are listed here that a candidate has
as well. -/
theorem Media.exists_fields_of_ofJson {v : Json} {m : Media} (h : Media.ofJson v = some m) :
    ∃ f, Fields.of Media.fieldNames v = some f ∧
      f.required "id" Json.toUInt64 = some m.id ∧
      f.defaulted "title" .empty Titles.ofJson = some m.titles ∧
      f.defaulted "startDate" .unknown PartialDate.ofJson = some m.startDate ∧
      f.defaulted "coverImage" .empty CoverImage.ofJson = some m.cover := by
  rw [Media.ofJson] at h
  obtain ⟨f, hf, h⟩ := Option.bind_eq_some_iff.mp h
  obtain ⟨id, hid, h⟩ := Option.bind_eq_some_iff.mp h
  obtain ⟨titles, htitles, h⟩ := Option.bind_eq_some_iff.mp h
  obtain ⟨start, hstart, h⟩ := Option.bind_eq_some_iff.mp h
  obtain ⟨_, -, h⟩ := Option.bind_eq_some_iff.mp h
  obtain ⟨cover, hcover, h⟩ := Option.bind_eq_some_iff.mp h
  -- The twelve fields that are left are those which a candidate has not.
  iterate 12 obtain ⟨_, -, h⟩ := Option.bind_eq_some_iff.mp h
  obtain rfl := Option.some.inj h
  exact ⟨f, hf, hid, htitles, hstart, hcover⟩

/-- **An object that is a record is a candidate**, namely the one that the record contains. -/
theorem Candidate.ofJson_of_media {members : List (Option String × Json)} {m : Media}
    (h : Media.ofJson (.object members) = some m) :
    Candidate.ofJson (.object members) = some m.toCandidate := by
  obtain ⟨f, hf, hid, htitles, hstart, hcover⟩ := Media.exists_fields_of_ofJson h
  have hfields : Fields.of Candidate.fieldNames (.object members) = some f :=
    Fields.of_object_mono Candidate.fieldNames_subset hf
  exact bind_of_eq_some hfields <| bind_of_eq_some hid <| bind_of_eq_some htitles <|
    bind_of_eq_some hstart <| bind_of_eq_some hcover rfl

/-- A record and the candidate in it are listed in the same way. -/
theorem Media.toSearchResult_toCandidate (m : Media) (settings : Settings) :
    m.toCandidate.toSearchResult settings = m.toSearchResult settings := by
  rw [Candidate.toSearchResult, Media.toSearchResult, Media.title, Media.imageUrl, toCandidate]

/-- **What is read as a record is read as a candidate, too**, if it is an object.  The two have the
same number, titles, start and cover, and make the same entry of a search listing, whatever the
settings are. -/
theorem candidate_of_record {bytes : List UInt8} {members : List (Option String × Json)} {m : Media}
    (hobject : Json.readBytes bytes = some (.object members))
    (hrecord : (Json.readBytes bytes).bind Media.ofJson = some m) :
    ∃ c : Candidate, (Json.readBytes bytes).bind Candidate.ofJson = some c ∧
      c.id = m.id ∧ c.titles = m.titles ∧ c.startDate = m.startDate ∧ c.cover = m.cover ∧
      ∀ settings, c.toSearchResult settings = m.toSearchResult settings := by
  rw [hobject, Option.bind_some] at hrecord
  refine ⟨m.toCandidate, ?_, rfl, rfl, rfl, rfl, m.toSearchResult_toCandidate⟩
  rw [hobject, Option.bind_some]
  exact Candidate.ofJson_of_media hrecord

/-- The members of a record with titles in an array, tags, an unreadable field that is there twice,
and a number that no field could take. -/
def crowdedMembers : List (Option String × Json) :=
  [(some "id", Json.nat 7),
    (some "title", .array [Json.text "Mushishi", Json.text "Mushi-Shi", .null]),
    (some "tags", .array [Json.record [("name", Json.text "Iyashikei"), ("rank", .inexact)]]),
    (some "remark", .string none), (some "remark", .inexact),
    (some "startDate", Json.record [("year", Json.nat 2005), ("month", Json.nat 10)]),
    (some "studios", Json.record [("nodes", .array [.array [Json.text "Artland"]])])]

/-- A record that is read from a crowded text, and its entry as a candidate. -/
theorem candidate_of_crowded :
    let bytes := Text.Utf8.encode ((Json.object crowdedMembers).write .compact)
    ∃ m, (Json.readBytes bytes).bind Media.ofJson = some m ∧ m.studios = some ["Artland"] ∧
      ∃ c, (Json.readBytes bytes).bind Candidate.ofJson = some c ∧
        c.toSearchResult .default = m.toSearchResult .default ∧
        (m.toSearchResult .default).name = some "Mushi-Shi" := by
  intro bytes
  have hobject : Json.readBytes bytes = some (.object crowdedMembers) :=
    Json.readBytes_encode_write _ _
  have hrecord : (Json.readBytes bytes).bind Media.ofJson =
      some { id := 7, titles := ⟨some "Mushishi", some "Mushi-Shi", none⟩,
             startDate := ⟨some 2005, some 10, none⟩, endDate := .unknown, cover := .empty,
             bannerImage := none, format := none, status := none, episodes := none,
             duration := none, description := none, averageScore := none, genres := none,
             synonyms := none, tags := some [⟨"Iyashikei", false⟩], studios := some ["Artland"],
             characters := none } := by
    rw [hobject]
    rfl
  obtain ⟨c, hc, -, -, -, -, hlisted⟩ := candidate_of_record hobject hrecord
  exact ⟨_, hrecord, rfl, c, hc, hlisted _, by decide⟩

end AnimeLookup.Catalog
