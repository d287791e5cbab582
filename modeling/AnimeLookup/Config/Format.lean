import AnimeLookup.Config.Basic
import AnimeLookup.Text.Utf8
import AnimeLookup.Toml.Reader
import AnimeLookup.Toml.Writer

/-!
# Configuration files

A configuration is kept as a TOML document.  `Config.read` reads the bytes of one, `Config.write`
writes one.

Reading is lenient about what it does not know, and strict about what it does: sections and entries
with other names are ignored, but an entry that is known must hold a value of its kind.  A section
may also be written as an array of its entries in their order, and a value from a vocabulary as a
table with that word for its only key.

Writing keeps the order in which sections and entries are declared, and leaves out what is unset.
A number that does not fit into 64 bits with a sign cannot be written.
-/

set_option autoImplicit false

namespace AnimeLookup

/-- Why a configuration file could not be used. -/
inductive ConfigError where
  /-- There is no such file, it cannot be written, or it is no text. -/
  | inaccessible
  /-- It is no TOML document, or an entry holds a value of another kind. -/
  | malformed
  /-- The configuration holds a number that TOML has no room for. -/
  | unwritable
  /-- There is no directory for configuration files. -/
  | noDirectory
  deriving DecidableEq

/-- The text of an error. -/
def ConfigError.message : ConfigError → String
  | .inaccessible => "config file cannot be accessed"
  | .malformed => "config file is malformed"
  | .unwritable => "config holds a number out of range"
  | .noDirectory => "no platform config directory"

namespace Config

/-! ## Values of entries -/

/-- A text. -/
def readText : Toml → Option String
  | .string s => some s
  | _ => none

/-- A truth value. -/
def readBool : Toml → Option Bool
  | .bool b => some b
  | _ => none

/-- A natural number of at most 64 bits. -/
def readNat : Toml → Option UInt64
  | .integer n => if 0 ≤ n ∧ n < UInt64.size then some (UInt64.ofNat n.toNat) else none
  | _ => none

/-- Whether a value is an empty table or an empty array. -/
def isEmptyValue : Toml → Bool
  | .table [] => true
  | .array [] => true
  | _ => false

/-- A word of a vocabulary, which may stand alone or be the only key of a table. -/
def readWord {α : Type} (ofName : String → Option α) : Toml → Option α
  | .string s => ofName s
  | .table [(s, v)] => if isEmptyValue v then ofName s else none
  | _ => none

/-! ## Sections -/

/-- The entries of a section, by name. -/
abbrev Lookup := String → Option Toml

/-- The entries of a section whose entries have the given names, in this order.  A date has none of
them. -/
def entriesOf (names : List String) : Toml → Option Lookup
  | .table entries => some fun name ↦ entries.lookup name
  | .array items =>
    if names.length ≤ items.length then some fun name ↦ (names.zip items).lookup name else none
  | .datetime => some fun _ ↦ none
  | _ => none

/-- An entry that may be missing. -/
def entry {α : Type} (entries : Lookup) (name : String) (read : Toml → Option α) :
    Option (Option α) :=
  match entries name with
  | some v => (read v).map some
  | none => some none

end Config

open Config (readText readBool readNat readWord entriesOf entry)

/-- The names of the entries about titles. -/
def TitleSection.names : List String := ["title_preference", "original_title_preference", "locale"]

/-- The section about titles in a document. -/
def TitleSection.ofToml (v : Toml) : Option TitleSection := do
  let entries ← entriesOf names v
  return ⟨← entry entries "title_preference" (readWord TitlePreference.ofName),
    ← entry entries "original_title_preference" (readWord TitlePreference.ofName),
    ← entry entries "locale" readText⟩

/-- The names of the entries about genres and tags. -/
def GenreSection.names : List String := ["max_genres", "default_genre", "show_spoiler_tags"]

/-- The section about genres and tags in a document. -/
def GenreSection.ofToml (v : Toml) : Option GenreSection := do
  let entries ← entriesOf names v
  return ⟨← entry entries "max_genres" readNat,
    ← entry entries "default_genre" (readWord DefaultGenre.ofName),
    ← entry entries "show_spoiler_tags" readBool⟩

/-- The names of the entries about people. -/
def PeopleSection.names : List String := ["filter_by_title_preference"]

/-- The section about people in a document. -/
def PeopleSection.ofToml (v : Toml) : Option PeopleSection := do
  let entries ← entriesOf names v
  return ⟨← entry entries "filter_by_title_preference" readBool⟩

/-- The names of the entries about searching. -/
def SearchSection.names : List String := ["use_title_tokenizer"]

/-- The section about searching in a document. -/
def SearchSection.ofToml (v : Toml) : Option SearchSection := do
  let entries ← entriesOf names v
  return ⟨← entry entries "use_title_tokenizer" readBool⟩

/-- The names of the entries about the connection. -/
def NetworkSection.names : List String := ["endpoint", "request_interval_ms", "timeout_secs"]

/-- The section about the connection in a document. -/
def NetworkSection.ofToml (v : Toml) : Option NetworkSection := do
  let entries ← entriesOf names v
  return ⟨← entry entries "endpoint" readText, ← entry entries "request_interval_ms" readNat,
    ← entry entries "timeout_secs" readNat⟩

namespace Config

/-! ## Reading -/

/-- The configuration in a document. -/
def ofToml : Toml → Option Config
  | .table sections => do
    let section? : Lookup := fun name ↦ sections.lookup name
    return ⟨← entry section? "titles" TitleSection.ofToml,
      ← entry section? "genres" GenreSection.ofToml,
      ← entry section? "people" PeopleSection.ofToml,
      ← entry section? "search" SearchSection.ofToml,
      ← entry section? "network" NetworkSection.ofToml⟩
  | _ => none

/-- **The configuration in a file** with the given content, if there is such a file. -/
def read (content : Option (List UInt8)) : Except ConfigError Config :=
  match content.bind Text.Utf8.text with
  | some text =>
    match (Toml.read text).bind ofToml with
    | some c => .ok c
    | none => .error .malformed
  | none => .error .inaccessible

/-! ## Writing -/

/-- The entry with a value, if there is one. -/
def entryOf {α : Type} (name : String) (scalar : α → Toml.Scalar) (v : Option α) :
    List (String × Toml.Scalar) :=
  (v.map fun a ↦ (name, scalar a)).toList

/-- A number, as it is written. -/
def ofUInt64 (n : UInt64) : Toml.Scalar := .nat n.toNat

end Config

open Config (entryOf ofUInt64)

/-- The section about titles, as it is written. -/
def TitleSection.toSection (s : TitleSection) : Toml.Section where
  name := "titles"
  entries :=
    entryOf "title_preference" (.string ·.name) s.titlePreference ++
    entryOf "original_title_preference" (.string ·.name) s.secondTitlePreference ++
    entryOf "locale" .string s.locale

/-- The section about genres and tags, as it is written. -/
def GenreSection.toSection (s : GenreSection) : Toml.Section where
  name := "genres"
  entries :=
    entryOf "max_genres" ofUInt64 s.maxGenres ++
    entryOf "default_genre" (.string ·.name) s.defaultGenre ++
    entryOf "show_spoiler_tags" .bool s.showSpoilerTags

/-- The section about people, as it is written. -/
def PeopleSection.toSection (s : PeopleSection) : Toml.Section where
  name := "people"
  entries := entryOf "filter_by_title_preference" .bool s.filterByTitlePreference

/-- The section about searching, as it is written. -/
def SearchSection.toSection (s : SearchSection) : Toml.Section where
  name := "search"
  entries := entryOf "use_title_tokenizer" .bool s.useTitleTokenizer

/-- The section about the connection, as it is written. -/
def NetworkSection.toSection (s : NetworkSection) : Toml.Section where
  name := "network"
  entries :=
    entryOf "endpoint" .string s.endpoint ++
    entryOf "request_interval_ms" ofUInt64 s.requestIntervalMs ++
    entryOf "timeout_secs" ofUInt64 s.timeoutSecs

namespace Config

/-- The sections of a configuration, as they are written. -/
def toSections (c : Config) : List Toml.Section :=
  (c.titles.map TitleSection.toSection).toList ++ (c.genres.map GenreSection.toSection).toList ++
    (c.people.map PeopleSection.toSection).toList ++
    (c.search.map SearchSection.toSection).toList ++
    (c.network.map NetworkSection.toSection).toList

/-- **The content of a file** with the given configuration. -/
def write (c : Config) : Except ConfigError (List UInt8) :=
  match Toml.write c.toSections with
  | some text => .ok (Text.Utf8.encode text)
  | none => .error .unwritable

end Config

end AnimeLookup
