import AnimeLookup.Catalog.Media
import AnimeLookup.Json.Fields

/-!
# Records in JSON

How the catalog writes candidates and records, and how the program reads and writes them.  A part
of a record that has parts of its own is defaulted: a catalog may leave it out, but does not write
null for it.  A part that is a plain value is optional, and is written as null when it is missing.

Each type has its reader (`ofJson`) and its writer (`toJson`) next to each other.  The writer puts
every field down, so that the order of the fields in an array is the order in which they are
written.
-/

set_option autoImplicit false

namespace AnimeLookup.Catalog

open Json (Fields text nat orNull record)

/-! ## Titles, dates and pictures -/

/-- The titles of a work, from JSON. -/
def Titles.ofJson (v : Json) : Option Titles := do
  let f ← Fields.of ["romaji", "english", "native"] v
  return ⟨← f.optional "romaji" Json.toText, ← f.optional "english" Json.toText,
    ← f.optional "native" Json.toText⟩

/-- The titles of a work, as JSON. -/
def Titles.toJson (t : Titles) : Json :=
  record [("romaji", orNull text t.romaji), ("english", orNull text t.english),
    ("native", orNull text t.native)]

/-- A partial date, from JSON. -/
def PartialDate.ofJson (v : Json) : Option PartialDate := do
  let f ← Fields.of ["year", "month", "day"] v
  return ⟨← f.optional "year" Json.toInt32, ← f.optional "month" Json.toUInt32,
    ← f.optional "day" Json.toUInt32⟩

/-- A partial date, as JSON. -/
def PartialDate.toJson (d : PartialDate) : Json :=
  record [("year", orNull (.integer ·.toInt) d.year), ("month", orNull (nat ·.toNat) d.month),
    ("day", orNull (nat ·.toNat) d.day)]

/-- The pictures of a cover, from JSON. -/
def CoverImage.ofJson (v : Json) : Option CoverImage := do
  let f ← Fields.of ["medium", "large", "extraLarge"] v
  return ⟨← f.optional "medium" Json.toText, ← f.optional "large" Json.toText,
    ← f.optional "extraLarge" Json.toText⟩

/-- The pictures of a cover, as JSON. -/
def CoverImage.toJson (c : CoverImage) : Json :=
  record [("medium", orNull text c.medium), ("large", orNull text c.large),
    ("extraLarge", orNull text c.extraLarge)]

/-! ## Candidates -/

/-- A candidate, from JSON. -/
def Candidate.ofJson (v : Json) : Option Candidate := do
  let f ← Fields.of ["id", "title", "startDate", "coverImage"] v
  return ⟨← f.required "id" Json.toUInt64, ← f.defaulted "title" .empty Titles.ofJson,
    ← f.defaulted "startDate" .unknown PartialDate.ofJson,
    ← f.defaulted "coverImage" .empty CoverImage.ofJson⟩

/-- A candidate, as JSON. -/
def Candidate.toJson (c : Candidate) : Json :=
  record [("id", nat c.id.toNat), ("title", c.titles.toJson), ("startDate", c.startDate.toJson),
    ("coverImage", c.cover.toJson)]

/-- An entry of a search listing, as JSON. -/
def SearchResult.toJson (r : SearchResult) : Json :=
  record [("name", orNull text r.name),
    ("production_year", orNull (.integer ·.toInt) r.productionYear),
    ("premiere_date", orNull PartialDate.toJson r.premiereDate),
    ("image_url", orNull text r.imageUrl), ("provider_id", text r.providerId)]

/-! ## Tags and studios -/

/-- A tag, from JSON. -/
def Tag.ofJson (v : Json) : Option Tag := do
  let f ← Fields.of ["name", "isMediaSpoiler"] v
  return ⟨← f.required "name" Json.toText, ← f.defaulted "isMediaSpoiler" false Json.toBool⟩

/-- A tag, as JSON. -/
def Tag.toJson (t : Tag) : Json :=
  record [("name", text t.name), ("isMediaSpoiler", .bool t.isSpoiler)]

/-- The name of a studio, from the JSON of the studio. -/
def studioOfJson (v : Json) : Option String := do
  let f ← Fields.of ["name"] v
  f.required "name" Json.toText

/-- The names of studios, from the JSON of their connection to a work. -/
def studiosOfJson (v : Json) : Option (List String) := do
  let f ← Fields.of ["nodes"] v
  f.defaulted "nodes" [] (Json.toList studioOfJson)

/-- The connection of studios to a work, as JSON. -/
def studiosToJson (names : List String) : Json :=
  record [("nodes", .array (names.map fun name ↦ record [("name", text name)]))]

/-! ## People and characters -/

/-- A name, from JSON. -/
def Name.ofJson (v : Json) : Option Name := do
  let f ← Fields.of ["full", "native"] v
  return ⟨← f.optional "full" Json.toText, ← f.optional "native" Json.toText⟩

/-- A name, as JSON. -/
def Name.toJson (n : Name) : Json :=
  record [("full", orNull text n.full), ("native", orNull text n.native)]

/-- The pictures of a person, from JSON. -/
def Portrait.ofJson (v : Json) : Option Portrait := do
  let f ← Fields.of ["medium", "large"] v
  return ⟨← f.optional "medium" Json.toText, ← f.optional "large" Json.toText⟩

/-- The pictures of a person, as JSON. -/
def Portrait.toJson (p : Portrait) : Json :=
  record [("medium", orNull text p.medium), ("large", orNull text p.large)]

/-- A voice actor, from JSON. -/
def VoiceActor.ofJson (v : Json) : Option VoiceActor := do
  let f ← Fields.of ["name", "image", "language"] v
  return ⟨← f.defaulted "name" .empty Name.ofJson, ← f.defaulted "image" .empty Portrait.ofJson,
    ← f.optional "language" Json.toText⟩

/-- A voice actor, as JSON. -/
def VoiceActor.toJson (a : VoiceActor) : Json :=
  record [("name", a.name.toJson), ("image", a.image.toJson),
    ("language", orNull text a.language)]

/-- The name of a character, from the JSON of the character. -/
def characterOfJson (v : Json) : Option Name := do
  let f ← Fields.of ["name"] v
  f.defaulted "name" .empty Name.ofJson

/-- A character with its actors, from JSON. -/
def CharacterEdge.ofJson (v : Json) : Option CharacterEdge := do
  let f ← Fields.of ["node", "role", "voiceActors"] v
  return ⟨← f.defaulted "node" .empty characterOfJson, ← f.optional "role" Json.toText,
    ← f.defaulted "voiceActors" [] (Json.toList VoiceActor.ofJson)⟩

/-- A character with its actors, as JSON. -/
def CharacterEdge.toJson (e : CharacterEdge) : Json :=
  record [("node", record [("name", e.character.toJson)]), ("role", orNull text e.role),
    ("voiceActors", .array (e.voiceActors.map VoiceActor.toJson))]

/-- The characters of a work, from the JSON of their connection to it. -/
def charactersOfJson (v : Json) : Option (List CharacterEdge) := do
  let f ← Fields.of ["edges"] v
  f.defaulted "edges" [] (Json.toList CharacterEdge.ofJson)

/-- The connection of characters to a work, as JSON. -/
def charactersToJson (edges : List CharacterEdge) : Json :=
  record [("edges", .array (edges.map CharacterEdge.toJson))]

/-- A credit, as JSON. -/
def Credit.toJson (c : Credit) : Json :=
  record [("name", text c.name), ("role", orNull text c.role),
    ("image_url", orNull text c.imageUrl)]

/-! ## Records -/

/-- The names of the fields of a record. -/
def Media.fieldNames : List String :=
  ["id", "title", "startDate", "endDate", "coverImage", "bannerImage", "format", "status",
    "episodes", "duration", "description", "averageScore", "genres", "synonyms", "tags", "studios",
    "characters"]

/-- **A record, from JSON.** -/
def Media.ofJson (v : Json) : Option Media := do
  let f ← Fields.of Media.fieldNames v
  return {
    id := ← f.required "id" Json.toUInt64
    titles := ← f.defaulted "title" .empty Titles.ofJson
    startDate := ← f.defaulted "startDate" .unknown PartialDate.ofJson
    endDate := ← f.defaulted "endDate" .unknown PartialDate.ofJson
    cover := ← f.defaulted "coverImage" .empty CoverImage.ofJson
    bannerImage := ← f.optional "bannerImage" Json.toText
    format := ← f.optional "format" Json.toText
    status := ← f.optional "status" Json.toText
    episodes := ← f.optional "episodes" Json.toUInt32
    duration := ← f.optional "duration" Json.toUInt32
    description := ← f.optional "description" Json.toText
    averageScore := ← f.optional "averageScore" Json.toUInt32
    genres := ← f.optional "genres" (Json.toList Json.toText)
    synonyms := ← f.optional "synonyms" (Json.toList Json.toText)
    tags := ← f.optional "tags" (Json.toList Tag.ofJson)
    studios := ← f.optional "studios" studiosOfJson
    characters := ← f.optional "characters" charactersOfJson }

/-- A list of texts, as JSON. -/
def textsToJson (texts : List String) : Json := .array (texts.map text)

/-- **A record, as JSON.** -/
def Media.toJson (m : Media) : Json :=
  record [("id", nat m.id.toNat), ("title", m.titles.toJson), ("startDate", m.startDate.toJson),
    ("endDate", m.endDate.toJson), ("coverImage", m.cover.toJson),
    ("bannerImage", orNull text m.bannerImage), ("format", orNull text m.format),
    ("status", orNull text m.status), ("episodes", orNull (nat ·.toNat) m.episodes),
    ("duration", orNull (nat ·.toNat) m.duration), ("description", orNull text m.description),
    ("averageScore", orNull (nat ·.toNat) m.averageScore), ("genres", orNull textsToJson m.genres),
    ("synonyms", orNull textsToJson m.synonyms),
    ("tags", orNull (fun tags ↦ .array (tags.map Tag.toJson)) m.tags),
    ("studios", orNull studiosToJson m.studios),
    ("characters", orNull charactersToJson m.characters)]

end AnimeLookup.Catalog
