import AnimeLookup.Catalog.AniList
import AnimeLookup.CommandLine.Execution
import AnimeLookup.Proofs.Json.RecordFields
import AnimeLookup.Proofs.Json.RoundTrip

/-!
# Writing records and reading them back

What the program prints of a record can be read again, and so can an answer of the catalog that
holds the same record, or the same candidates.  Nothing is lost on the way, whatever characters the
texts have, however large the numbers are, and whichever parts are missing (`records_readable`).

Each type has its own lemma, with one line for every field in the order in which the fields are
read.  A type that is made of others uses their lemmas.
-/

set_option autoImplicit false

namespace AnimeLookup.Catalog

open Json (Fields text nat orNull record bind_of_eq_some)

/-! ## Titles, dates and pictures -/

theorem Titles.ofJson_toJson (t : Titles) : Titles.ofJson t.toJson = some t := by
  rw [Titles.ofJson, Titles.toJson]
  exact bind_of_eq_some (Fields.of_record rfl (by decide)) <|
    bind_of_eq_some (Fields.optional_text rfl) <|
    bind_of_eq_some (Fields.optional_text rfl) <|
    bind_of_eq_some (Fields.optional_text rfl) rfl

theorem PartialDate.ofJson_toJson (d : PartialDate) : PartialDate.ofJson d.toJson = some d := by
  rw [PartialDate.ofJson, PartialDate.toJson]
  exact bind_of_eq_some (Fields.of_record rfl (by decide)) <|
    bind_of_eq_some (Fields.optional_ofRecord rfl Json.toInt32_integer nofun) <|
    bind_of_eq_some (Fields.optional_ofRecord rfl Json.toUInt32_nat nofun) <|
    bind_of_eq_some (Fields.optional_ofRecord rfl Json.toUInt32_nat nofun) rfl

theorem CoverImage.ofJson_toJson (c : CoverImage) : CoverImage.ofJson c.toJson = some c := by
  rw [CoverImage.ofJson, CoverImage.toJson]
  exact bind_of_eq_some (Fields.of_record rfl (by decide)) <|
    bind_of_eq_some (Fields.optional_text rfl) <|
    bind_of_eq_some (Fields.optional_text rfl) <|
    bind_of_eq_some (Fields.optional_text rfl) rfl

/-! ## Candidates -/

/-- **A candidate that is written can be read again.** -/
theorem Candidate.ofJson_toJson (c : Candidate) : Candidate.ofJson c.toJson = some c := by
  rw [Candidate.ofJson, Candidate.toJson]
  exact bind_of_eq_some (Fields.of_record rfl (by decide)) <|
    bind_of_eq_some (Fields.required_ofRecord rfl (Json.toUInt64_nat c.id)) <|
    bind_of_eq_some (Fields.defaulted_ofRecord rfl c.titles.ofJson_toJson) <|
    bind_of_eq_some (Fields.defaulted_ofRecord rfl c.startDate.ofJson_toJson) <|
    bind_of_eq_some (Fields.defaulted_ofRecord rfl c.cover.ofJson_toJson) rfl

/-! ## Tags and studios -/

theorem Tag.ofJson_toJson (t : Tag) : Tag.ofJson t.toJson = some t := by
  rw [Tag.ofJson, Tag.toJson]
  exact bind_of_eq_some (Fields.of_record rfl (by decide)) <|
    bind_of_eq_some (Fields.required_ofRecord rfl (Json.toText_text t.name)) <|
    bind_of_eq_some (Fields.defaulted_ofRecord rfl rfl) rfl

theorem studiosOfJson_studiosToJson (names : List String) :
    studiosOfJson (studiosToJson names) = some names := by
  have hstudio : ∀ name, studioOfJson (record [("name", text name)]) = some name := fun name ↦ by
    rw [studioOfJson]
    exact bind_of_eq_some (Fields.of_record rfl (by decide)) <|
      Fields.required_ofRecord rfl (Json.toText_text name)
  rw [studiosOfJson, studiosToJson]
  exact bind_of_eq_some (Fields.of_record rfl (by decide)) <|
    Fields.defaulted_ofRecord rfl (Json.toList_array_map hstudio names)

/-! ## People and characters -/

theorem Name.ofJson_toJson (n : Name) : Name.ofJson n.toJson = some n := by
  rw [Name.ofJson, Name.toJson]
  exact bind_of_eq_some (Fields.of_record rfl (by decide)) <|
    bind_of_eq_some (Fields.optional_text rfl) <|
    bind_of_eq_some (Fields.optional_text rfl) rfl

theorem Portrait.ofJson_toJson (p : Portrait) : Portrait.ofJson p.toJson = some p := by
  rw [Portrait.ofJson, Portrait.toJson]
  exact bind_of_eq_some (Fields.of_record rfl (by decide)) <|
    bind_of_eq_some (Fields.optional_text rfl) <|
    bind_of_eq_some (Fields.optional_text rfl) rfl

theorem VoiceActor.ofJson_toJson (a : VoiceActor) : VoiceActor.ofJson a.toJson = some a := by
  rw [VoiceActor.ofJson, VoiceActor.toJson]
  exact bind_of_eq_some (Fields.of_record rfl (by decide)) <|
    bind_of_eq_some (Fields.defaulted_ofRecord rfl a.name.ofJson_toJson) <|
    bind_of_eq_some (Fields.defaulted_ofRecord rfl a.image.ofJson_toJson) <|
    bind_of_eq_some (Fields.optional_text rfl) rfl

theorem CharacterEdge.ofJson_toJson (e : CharacterEdge) :
    CharacterEdge.ofJson e.toJson = some e := by
  have hcharacter : characterOfJson (record [("name", e.character.toJson)]) = some e.character := by
    rw [characterOfJson]
    exact bind_of_eq_some (Fields.of_record rfl (by decide)) <|
      Fields.defaulted_ofRecord rfl e.character.ofJson_toJson
  rw [CharacterEdge.ofJson, CharacterEdge.toJson]
  exact bind_of_eq_some (Fields.of_record rfl (by decide)) <|
    bind_of_eq_some (Fields.defaulted_ofRecord rfl hcharacter) <|
    bind_of_eq_some (Fields.optional_text rfl) <|
    bind_of_eq_some (Fields.defaulted_ofRecord rfl
      (Json.toList_array_map VoiceActor.ofJson_toJson e.voiceActors)) rfl

theorem charactersOfJson_charactersToJson (edges : List CharacterEdge) :
    charactersOfJson (charactersToJson edges) = some edges := by
  rw [charactersOfJson, charactersToJson]
  exact bind_of_eq_some (Fields.of_record rfl (by decide)) <|
    Fields.defaulted_ofRecord rfl (Json.toList_array_map CharacterEdge.ofJson_toJson edges)

/-! ## Records -/

theorem toList_textsToJson (texts : List String) :
    Json.toList Json.toText (textsToJson texts) = some texts :=
  Json.toList_array_map Json.toText_text texts

/-- **A record that is written can be read again.** -/
theorem Media.ofJson_toJson (m : Media) : Media.ofJson m.toJson = some m := by
  rw [Media.ofJson, Media.toJson]
  exact bind_of_eq_some (Fields.of_record rfl (by decide)) <|
    bind_of_eq_some (Fields.required_ofRecord rfl (Json.toUInt64_nat m.id)) <|
    bind_of_eq_some (Fields.defaulted_ofRecord rfl m.titles.ofJson_toJson) <|
    bind_of_eq_some (Fields.defaulted_ofRecord rfl m.startDate.ofJson_toJson) <|
    bind_of_eq_some (Fields.defaulted_ofRecord rfl m.endDate.ofJson_toJson) <|
    bind_of_eq_some (Fields.defaulted_ofRecord rfl m.cover.ofJson_toJson) <|
    bind_of_eq_some (Fields.optional_text rfl) <|
    bind_of_eq_some (Fields.optional_text rfl) <|
    bind_of_eq_some (Fields.optional_text rfl) <|
    bind_of_eq_some (Fields.optional_ofRecord rfl Json.toUInt32_nat nofun) <|
    bind_of_eq_some (Fields.optional_ofRecord rfl Json.toUInt32_nat nofun) <|
    bind_of_eq_some (Fields.optional_text rfl) <|
    bind_of_eq_some (Fields.optional_ofRecord rfl Json.toUInt32_nat nofun) <|
    bind_of_eq_some (Fields.optional_ofRecord rfl toList_textsToJson nofun) <|
    bind_of_eq_some (Fields.optional_ofRecord rfl toList_textsToJson nofun) <|
    bind_of_eq_some (Fields.optional_ofRecord rfl (Json.toList_array_map Tag.ofJson_toJson)
      nofun) <|
    bind_of_eq_some (Fields.optional_ofRecord rfl studiosOfJson_studiosToJson nofun) <|
    bind_of_eq_some (Fields.optional_ofRecord rfl charactersOfJson_charactersToJson nofun) rfl

/-! ## Answers -/

section Answers

open GraphQl AniList

/-- An answer without errors comes to its data. -/
theorem decode_data {α : Type} {read : Json → Option α} {members : List (String × Json)} {a : α}
    (h : read (record members) = some a) (layout : Json.Layout) :
    decode read (Text.Utf8.encode ((record [("data", record members)]).write layout)) = .ok a := by
  have hdata : Fields.nullable read (record members) = some (some a) := by
    show (read (record members)).map some = some (some a)
    rw [h, Option.map_some]
  have henvelope : Envelope.ofJson read (record [("data", record members)]) =
      some ⟨some a, none⟩ := by
    rw [Envelope.ofJson]
    exact bind_of_eq_some (Fields.of_record_of_keys _ rfl (by simp)) <|
      bind_of_eq_some (Fields.optional_ofRecord_given rfl hdata) <|
      bind_of_eq_some (Fields.optional_ofRecord_omitted rfl) rfl
  rw [decode, Json.readBytes_encode_write, Option.bind_some, henvelope]
  rfl

theorem mediaData_record (m : Media) :
    mediaData (record [("Media", m.toJson)]) = some (some m) := by
  rw [mediaData]
  refine bind_of_eq_some (Fields.of_record rfl (by decide)) <|
    Fields.optional_ofRecord_given rfl ?_
  show (Media.ofJson m.toJson).map some = some (some m)
  rw [m.ofJson_toJson, Option.map_some]

theorem searchData_record (candidates : List Candidate) :
    searchData (record [("Page", record [("media", .array (candidates.map Candidate.toJson))])]) =
      some candidates := by
  have hlist : Fields.nullable (Json.toList Candidate.ofJson)
      (.array (candidates.map Candidate.toJson)) = some (some candidates) := by
    show (Json.toList Candidate.ofJson _).map some = _
    rw [Json.toList_array_map Candidate.ofJson_toJson, Option.map_some]
  rw [searchData]
  refine bind_of_eq_some (Fields.of_record rfl (by decide)) <|
    Fields.required_ofRecord rfl ?_
  exact bind_of_eq_some (Fields.of_record rfl (by decide)) <|
    bind_of_eq_some (Fields.optional_ofRecord_given rfl hlist) rfl

end Answers

/-! ## What is printed -/

/-- What is printed of a record is read as the record in JSON. -/
theorem read_showLookup (m : Media) (title : String) (colour : Bool) (settings : Settings) :
    Json.read (CommandLine.showLookup title true colour settings (.ok (some m))) =
      some m.toJson := by
  have hprinted : CommandLine.showLookup title true colour settings (.ok (some m)) =
      m.toJson.write .pretty ++ ['\n'] := by
    show m.toJson.pretty.toList ++ ['\n'] = _
    rw [Json.pretty, String.toList_ofList]
  rw [hprinted]
  exact Json.read_write_append .pretty m.toJson (by simp)

/-- **What is printed of a record can be read again**, from the text as well as from its bytes.  An
answer of the catalog that holds a record, or a list of candidates, comes to the same record, or to
the same candidates in their order. -/
theorem records_readable :
    (∀ (m : Media) (title : String) (colour : Bool) (settings : Settings),
      let printed := CommandLine.showLookup title true colour settings (.ok (some m))
      (Json.read printed).bind Media.ofJson = some m ∧
        (Json.readBytes (Text.Utf8.encode printed)).bind Media.ofJson = some m) ∧
      (∀ (m : Media) (layout : Json.Layout),
        GraphQl.decode AniList.mediaData (Text.Utf8.encode
          ((record [("data", record [("Media", m.toJson)])]).write layout)) = .ok (some m)) ∧
      ∀ (candidates : List Candidate) (layout : Json.Layout),
        GraphQl.decode AniList.searchData (Text.Utf8.encode
          ((record [("data", record [("Page", record
            [("media", .array (candidates.map Candidate.toJson))])])]).write layout)) =
          .ok candidates := by
  refine ⟨?_, fun m layout ↦ decode_data (mediaData_record m) layout,
    fun candidates layout ↦ decode_data (searchData_record candidates) layout⟩
  intro m title colour settings printed
  have hread : Json.read printed = some m.toJson := read_showLookup m title colour settings
  have hbytes : Json.readBytes (Text.Utf8.encode printed) = Json.read printed := by
    rw [Json.readBytes, Text.Utf8.units_encode, Json.read]
  rw [hbytes, hread, Option.bind_some]
  exact ⟨m.ofJson_toJson, m.ofJson_toJson⟩

end AnimeLookup.Catalog
