import AnimeLookup.Config.Format
import Mathlib.Data.List.Basic

/-!
# What a configuration file says

A configuration file is a document with sections, and a section has entries.  This file says what
such a document says about a setting, entry by entry, and when a file can be used at all.  It speaks
of documents and their values only.

* `Setting` says where a setting is found: in which section, under which key, and at which place if
  the section is written as an array.  It also says which values mean what.
* `IsConfiguration` says which documents are configurations.  Sections and keys that are not known
  do no harm, but a value of a known key has to be one of its kind.
* `Sets` says that a file with some content sets a setting to a value.  A file that is missing,
  that is no text, or that is no configuration sets nothing.

The reader of configurations works section by section and gives up at the first value that it
cannot use.  `exists_read_iff` and `read_eq_error_iff` say which files it takes, and why it refuses
the others.  `ReadAs` says that it finds what a file sets, for each setting.
-/

set_option autoImplicit false

namespace AnimeLookup.Config

/-! ## Values -/

/-- A value that is a text. -/
inductive IsText : Toml → String → Prop
  /-- A string is the text that it holds. -/
  | string (s : String) : IsText (.string s) s

/-- A value that is a truth value. -/
inductive IsFlag : Toml → Bool → Prop
  /-- A truth value is itself. -/
  | bool (b : Bool) : IsFlag (.bool b) b

/-- A value that is a natural number of at most 64 bits. -/
inductive IsNumber : Toml → UInt64 → Prop
  /-- A number is itself. -/
  | integer (n : UInt64) : IsNumber (.integer n.toNat) n

/-- **A value that is a word** of a vocabulary. -/
inductive IsWord {α : Type} (words : List (String × α)) : Toml → α → Prop
  /-- The word stands alone. -/
  | alone {word : String} {a : α} (h : (word, a) ∈ words) : IsWord words (.string word) a
  /-- The word is the only key of a table, with nothing in it. -/
  | key {word : String} {a : α} {v : Toml} (h : (word, a) ∈ words)
      (hv : v = .table [] ∨ v = .array []) : IsWord words (.table [(word, v)]) a

/-- The words for title preferences. -/
def preferenceWords : List (String × TitlePreference) :=
  [("localized", .localized), ("primary_script", .primaryScript),
    ("primary_script_romanized", .primaryScriptRomanized)]

/-- The words for default genres. -/
def genreWords : List (String × DefaultGenre) :=
  [("none", .none), ("anime", .anime), ("animation", .animation)]

section Values

variable {v : Toml}

theorem readText_eq_some_iff {s : String} : readText v = some s ↔ IsText v s := by
  constructor
  · intro h
    cases v <;> cases h
    exact .string s
  · rintro ⟨⟩
    rfl

theorem readBool_eq_some_iff {b : Bool} : readBool v = some b ↔ IsFlag v b := by
  constructor
  · intro h
    cases v <;> cases h
    exact .bool b
  · rintro ⟨⟩
    rfl

theorem readNat_eq_some_iff {n : UInt64} : readNat v = some n ↔ IsNumber v n := by
  constructor
  · intro h
    cases v with
    | integer k =>
      rw [readNat, Option.ite_none_right_eq_some, Option.some_inj] at h
      obtain ⟨⟨hlow, hhigh⟩, rfl⟩ := h
      have hk : ((UInt64.ofNat k.toNat).toNat : Int) = k := by
        rw [UInt64.toNat_ofNat_of_lt' (by omega), Int.toNat_of_nonneg hlow]
      have hinteger := IsNumber.integer (UInt64.ofNat k.toNat)
      rwa [hk] at hinteger
    | _ => cases h
  · rintro ⟨⟩
    have hbounds : 0 ≤ (n.toNat : Int) ∧ (n.toNat : Int) < UInt64.size :=
      ⟨Int.natCast_nonneg n.toNat, Int.ofNat_lt.mpr n.toNat_lt⟩
    rw [readNat, if_pos hbounds, Int.toNat_natCast, UInt64.ofNat_toNat]

theorem isEmptyValue_iff : isEmptyValue v = true ↔ v = .table [] ∨ v = .array [] := by
  unfold isEmptyValue
  split
  · simp
  · simp
  · rename_i htable harray
    exact iff_of_false (by simp) fun h ↦ h.elim htable harray

theorem readWord_eq_some_iff {α : Type} {ofName : String → Option α} {words : List (String × α)}
    (hwords : ∀ word a, ofName word = some a ↔ (word, a) ∈ words) {a : α} :
    readWord ofName v = some a ↔ IsWord words v a := by
  constructor
  · intro h
    unfold readWord at h
    split at h
    · exact .alone ((hwords _ a).mp h)
    · rw [Option.ite_none_right_eq_some] at h
      exact .key ((hwords _ a).mp h.2) (isEmptyValue_iff.mp h.1)
    · cases h
  · intro h
    cases h with
    | alone h => exact (hwords _ a).mpr h
    | key h hv =>
      rw [readWord, if_pos (isEmptyValue_iff.mpr hv)]
      exact (hwords _ a).mpr h

theorem titlePreference_ofName_iff (word : String) (p : TitlePreference) :
    TitlePreference.ofName word = some p ↔ (word, p) ∈ preferenceWords := by
  constructor
  · intro h
    have hfind : TitlePreference.all.find? (fun q ↦ q.name == word) = some p := h
    have hname := List.find?_some hfind
    obtain rfl := beq_iff_eq.mp hname
    cases p <;> simp [preferenceWords, TitlePreference.name]
  · intro h
    simp only [preferenceWords, List.mem_cons, List.not_mem_nil, or_false, Prod.mk.injEq] at h
    rcases h with ⟨rfl, rfl⟩ | ⟨rfl, rfl⟩ | ⟨rfl, rfl⟩
    · exact TitlePreference.ofName_name .localized
    · exact TitlePreference.ofName_name .primaryScript
    · exact TitlePreference.ofName_name .primaryScriptRomanized

theorem defaultGenre_ofName_iff (word : String) (g : DefaultGenre) :
    DefaultGenre.ofName word = some g ↔ (word, g) ∈ genreWords := by
  constructor
  · intro h
    have hfind : DefaultGenre.all.find? (fun q ↦ q.name == word) = some g := h
    have hname := List.find?_some hfind
    obtain rfl := beq_iff_eq.mp hname
    cases g <;> simp [genreWords, DefaultGenre.name]
  · intro h
    simp only [genreWords, List.mem_cons, List.not_mem_nil, or_false, Prod.mk.injEq] at h
    rcases h with ⟨rfl, rfl⟩ | ⟨rfl, rfl⟩ | ⟨rfl, rfl⟩
    · exact DefaultGenre.ofName_name .none
    · exact DefaultGenre.ofName_name .anime
    · exact DefaultGenre.ofName_name .animation

end Values

/-! ## Sections -/

/-- A value under a key of a section, which is at a certain place if the section is an array. -/
inductive HasEntry (key : String) (place : Nat) : Toml → Toml → Prop
  /-- In a table it is found by its key. -/
  | table {entries : List (String × Toml)} {v : Toml} (h : entries.lookup key = some v) :
      HasEntry key place (.table entries) v
  /-- In an array it is found by its place. -/
  | array {items : List Toml} {v : Toml} (h : items[place]? = some v) :
      HasEntry key place (.array items) v

/-- **A section that can be used**, from its keys and what their values have to be. -/
structure IsSection (kinds : List (String × (Toml → Prop))) (v : Toml) : Prop where
  /-- It is a table, an array with a value for each key, or a date, which has no entries. -/
  shape : (∃ entries, v = .table entries) ∨
    (∃ items, v = .array items ∧ kinds.length ≤ items.length) ∨ v = .datetime
  /-- The value of a key is one of its kind. -/
  values : ∀ place key kind, kinds[place]? = some (key, kind) →
    ∀ u, HasEntry key place v u → kind u

/-- **Where a setting is found** in a configuration, and what its values mean. -/
structure Setting (α : Type) where
  /-- The name of its section. -/
  inSection : String
  /-- Its key. -/
  key : String
  /-- Its place, if the section is an array. -/
  place : Nat
  /-- What its values mean. -/
  Means : Toml → α → Prop

namespace Setting

/-- The key of a setting, and the values that mean something. -/
def kind {α : Type} (s : Setting α) : String × (Toml → Prop) := (s.key, fun v ↦ ∃ a, s.Means v a)

/-- Which title is shown. -/
def titlePreference : Setting TitlePreference :=
  ⟨"titles", "title_preference", 0, IsWord preferenceWords⟩

/-- Which title is shown beside it. -/
def secondTitlePreference : Setting TitlePreference :=
  ⟨"titles", "original_title_preference", 1, IsWord preferenceWords⟩

/-- The language of the metadata. -/
def locale : Setting String := ⟨"titles", "locale", 2, IsText⟩

/-- How many genres are listed at most. -/
def maxGenres : Setting UInt64 := ⟨"genres", "max_genres", 0, IsNumber⟩

/-- The genre that stands in for the generic ones. -/
def defaultGenre : Setting DefaultGenre := ⟨"genres", "default_genre", 1, IsWord genreWords⟩

/-- Whether tags that give the plot away are listed. -/
def showSpoilerTags : Setting Bool := ⟨"genres", "show_spoiler_tags", 2, IsFlag⟩

/-- Whether the cast is limited to the language that goes with the title preference. -/
def filterPeopleByTitlePreference : Setting Bool :=
  ⟨"people", "filter_by_title_preference", 0, IsFlag⟩

/-- Whether a title is first taken for the name of a file. -/
def useTitleTokenizer : Setting Bool := ⟨"search", "use_title_tokenizer", 0, IsFlag⟩

/-- The address that requests go to. -/
def endpoint : Setting String := ⟨"network", "endpoint", 0, IsText⟩

/-- The least time between two requests, in milliseconds. -/
def requestIntervalMs : Setting UInt64 := ⟨"network", "request_interval_ms", 1, IsNumber⟩

/-- How long an answer is waited for, in seconds. -/
def timeoutSecs : Setting UInt64 := ⟨"network", "timeout_secs", 2, IsNumber⟩

end Setting

/-- The sections of a configuration, with their keys in order. -/
def sections : List (String × List (String × (Toml → Prop))) :=
  [("titles", [Setting.titlePreference.kind, Setting.secondTitlePreference.kind,
      Setting.locale.kind]),
    ("genres", [Setting.maxGenres.kind, Setting.defaultGenre.kind, Setting.showSpoilerTags.kind]),
    ("people", [Setting.filterPeopleByTitlePreference.kind]),
    ("search", [Setting.useTitleTokenizer.kind]),
    ("network", [Setting.endpoint.kind, Setting.requestIntervalMs.kind, Setting.timeoutSecs.kind])]

/-- **A document that is a configuration**: each section of it that is known can be used. -/
def IsConfiguration (document : List (String × Toml)) : Prop :=
  ∀ s ∈ sections, ∀ v, document.lookup s.1 = some v → IsSection s.2 v

/-! ## Files -/

/-- The document in a file with some content. -/
inductive IsDocument : Option (List UInt8) → List (String × Toml) → Prop
  /-- The content is a text, and the text describes a table. -/
  | intro {bytes : List UInt8} {text : List Char} {document : List (String × Toml)}
      (htext : Text.Utf8.text bytes = some text) (hread : Toml.read text = some (.table document)) :
      IsDocument (some bytes) document

/-- A file that is there and holds a text. -/
def IsReadable (content : Option (List UInt8)) : Prop :=
  ∃ bytes text, content = some bytes ∧ Text.Utf8.text bytes = some text

/-- **A file that can be used.** -/
def IsUsable (content : Option (List UInt8)) : Prop :=
  ∃ document, IsDocument content document ∧ IsConfiguration document

/-- **What a file with some content sets a setting to.** -/
inductive Sets {α : Type} (s : Setting α) (content : Option (List UInt8)) (a : α) : Prop
  /-- The file can be used, and has a value for the setting. -/
  | intro {document : List (String × Toml)} {inside v : Toml}
      (hdocument : IsDocument content document) (husable : IsConfiguration document)
      (hsection : document.lookup s.inSection = some inside)
      (hentry : HasEntry s.key s.place inside v) (hmeans : s.Means v a)

/-! ## Reading entries -/

section Entries

variable {α σ : Type} {names : List String} {entries : Lookup} {name : String} {i : Nat}
  {u v : Toml} {read : Toml → Option α} {o : Option α}

theorem entry_eq_some_iff : entry entries name read = some o ↔
    o = (entries name).bind read ∧ ∀ v, entries name = some v → ∃ a, read v = some a := by
  rw [entry]
  cases entries name with
  | none => simp [eq_comm]
  | some v => cases h : read v <;> simp [h, eq_comm]

theorem exists_entry_iff : (∃ o, entry entries name read = some o) ↔
    ∀ v, entries name = some v → ∃ a, read v = some a := by
  simp only [entry_eq_some_iff, exists_eq_left]

/-- A name is found beside the item at its place. -/
theorem lookup_zip {items : List Toml} (hn : names.Nodup) (hi : names[i]? = some name) :
    (names.zip items).lookup name = items[i]? := by
  induction names generalizing items i with
  | nil => cases hi
  | cons first rest ih =>
    obtain ⟨hfirst, hrest⟩ := List.nodup_cons.mp hn
    cases items with
    | nil => rfl
    | cons item more =>
      rw [List.zip_cons_cons, List.lookup_cons]
      cases i with
      | zero =>
        obtain rfl := Option.some.inj hi
        rw [beq_self_eq_true]
        rfl
      | succ i =>
        -- The first name is another one, since no name stands in two places.
        have hmem : name ∈ rest := List.mem_of_getElem? hi
        have hne : name ≠ first := fun h ↦ hfirst (h ▸ hmem)
        rw [beq_false_of_ne hne]
        exact ih hrest hi

/-- The entries of a section are found by name, and where they are. -/
theorem hasEntry_iff (h : entriesOf names v = some entries) (hn : names.Nodup)
    (hi : names[i]? = some name) : HasEntry name i v u ↔ entries name = some u := by
  cases v with
  | table es =>
    obtain rfl := Option.some.inj h
    exact ⟨fun h ↦ by cases h; assumption, .table⟩
  | array items =>
    rw [entriesOf, Option.ite_none_right_eq_some] at h
    obtain ⟨-, h⟩ := h
    obtain rfl := Option.some.inj h
    show _ ↔ (names.zip items).lookup name = some u
    rw [lookup_zip hn hi]
    exact ⟨fun h ↦ by cases h; assumption, .array⟩
  | datetime =>
    obtain rfl := Option.some.inj h
    exact ⟨nofun, nofun⟩
  | _ => cases h

/-- A section has entries if it has one of the shapes of a section. -/
theorem exists_entriesOf_iff : (∃ entries, entriesOf names v = some entries) ↔
    (∃ es, v = .table es) ∨ (∃ items, v = .array items ∧ names.length ≤ items.length) ∨
      v = .datetime := by
  cases v <;> simp [entriesOf]

/-- **A section can be used** if it has entries and their values are of their kinds. -/
theorem isSection_iff {kinds : List (String × (Toml → Prop))} (hnames : kinds.map Prod.fst = names)
    (hn : names.Nodup) : IsSection kinds v ↔ ∃ entries, entriesOf names v = some entries ∧
      ∀ k ∈ kinds, ∀ u, entries k.1 = some u → k.2 u := by
  have hlength : kinds.length = names.length := by rw [← hnames, List.length_map]
  have hplace {place : Nat} {k : String × (Toml → Prop)} (hk : kinds[place]? = some k) :
      names[place]? = some k.1 := by rw [← hnames, List.getElem?_map, hk, Option.map_some]
  constructor
  · intro h
    have hshape := h.shape
    rw [hlength, ← exists_entriesOf_iff] at hshape
    obtain ⟨entries, hentries⟩ := hshape
    refine ⟨entries, hentries, fun k hk u hu ↦ ?_⟩
    obtain ⟨place, hk⟩ := List.getElem?_of_mem hk
    exact h.values place k.1 k.2 hk u ((hasEntry_iff hentries hn (hplace hk)).mpr hu)
  · rintro ⟨entries, hentries, hvalues⟩
    refine ⟨?_, fun place key kind hk u hu ↦ ?_⟩
    · rw [hlength]
      exact exists_entriesOf_iff.mp ⟨entries, hentries⟩
    · exact hvalues _ (List.mem_of_getElem? hk) u ((hasEntry_iff hentries hn (hplace hk)).mp hu)

/-- The value of a key is of its kind if it can be read. -/
theorem kind_iff {s : Setting α} (hread : ∀ u a, read u = some a ↔ s.Means u a) :
    (∀ u, entries s.kind.1 = some u → s.kind.2 u) ↔ ∃ o, entry entries s.key read = some o := by
  simp only [exists_entry_iff, hread]
  rfl

/-- **A reader finds a setting** in the sections that it takes. -/
def Finds (s : Setting α) (ofToml : Toml → Option σ) (get : σ → Option α) : Prop :=
  ∀ v x, ofToml v = some x → ∀ a, get x = some a ↔ ∃ u, HasEntry s.key s.place v u ∧ s.Means u a

/-- A setting is found if its entry is read. -/
theorem finds_of_entry {s : Setting α} {ofToml : Toml → Option σ} {get : σ → Option α}
    (hn : names.Nodup) (hplace : names[s.place]? = some s.key)
    (hread : ∀ u a, read u = some a ↔ s.Means u a)
    (h : ∀ v x, ofToml v = some x →
      ∃ entries, entriesOf names v = some entries ∧ entry entries s.key read = some (get x)) :
    Finds s ofToml get := by
  intro v x hx a
  obtain ⟨entries, hentries, hentry⟩ := h v x hx
  rw [(entry_eq_some_iff.mp hentry).1, Option.bind_eq_some_iff]
  simp only [hasEntry_iff hentries hn hplace, hread]

end Entries

end AnimeLookup.Config

namespace AnimeLookup

open Config

/-! ## Reading sections -/

section Sections

variable {v : Toml}

theorem TitleSection.nodup_names : names.Nodup := by simp [names]

theorem TitleSection.ofToml_eq_some_iff {s : TitleSection} : ofToml v = some s ↔
    ∃ entries, entriesOf names v = some entries ∧
      entry entries "title_preference" (readWord TitlePreference.ofName) = some s.titlePreference ∧
      entry entries "original_title_preference" (readWord TitlePreference.ofName) =
        some s.secondTitlePreference ∧
      entry entries "locale" readText = some s.locale := by
  cases s
  simp [ofToml, Option.bind_eq_some_iff]

theorem TitleSection.exists_ofToml_iff : (∃ s, ofToml v = some s) ↔
    IsSection [Setting.titlePreference.kind, Setting.secondTitlePreference.kind,
      Setting.locale.kind] v := by
  rw [isSection_iff (show _ = names from rfl) nodup_names]
  simp only [ofToml_eq_some_iff, List.forall_mem_cons, List.not_mem_nil, false_imp_iff,
    implies_true, and_true,
    kind_iff (s := Setting.titlePreference)
      (fun _ _ ↦ readWord_eq_some_iff titlePreference_ofName_iff),
    kind_iff (s := Setting.secondTitlePreference)
      (fun _ _ ↦ readWord_eq_some_iff titlePreference_ofName_iff),
    kind_iff (s := Setting.locale) (fun _ _ ↦ readText_eq_some_iff)]
  constructor
  · rintro ⟨s, entries, hentries, h₁, h₂, h₃⟩
    exact ⟨entries, hentries, ⟨_, h₁⟩, ⟨_, h₂⟩, ⟨_, h₃⟩⟩
  · rintro ⟨entries, hentries, ⟨o₁, h₁⟩, ⟨o₂, h₂⟩, ⟨o₃, h₃⟩⟩
    exact ⟨⟨o₁, o₂, o₃⟩, entries, hentries, h₁, h₂, h₃⟩

theorem GenreSection.nodup_names : names.Nodup := by simp [names]

theorem GenreSection.ofToml_eq_some_iff {s : GenreSection} : ofToml v = some s ↔
    ∃ entries, entriesOf names v = some entries ∧
      entry entries "max_genres" readNat = some s.maxGenres ∧
      entry entries "default_genre" (readWord DefaultGenre.ofName) = some s.defaultGenre ∧
      entry entries "show_spoiler_tags" readBool = some s.showSpoilerTags := by
  cases s
  simp [ofToml, Option.bind_eq_some_iff]

theorem GenreSection.exists_ofToml_iff : (∃ s, ofToml v = some s) ↔
    IsSection [Setting.maxGenres.kind, Setting.defaultGenre.kind,
      Setting.showSpoilerTags.kind] v := by
  rw [isSection_iff (show _ = names from rfl) nodup_names]
  simp only [ofToml_eq_some_iff, List.forall_mem_cons, List.not_mem_nil, false_imp_iff,
    implies_true, and_true,
    kind_iff (s := Setting.maxGenres) (fun _ _ ↦ readNat_eq_some_iff),
    kind_iff (s := Setting.defaultGenre) (fun _ _ ↦ readWord_eq_some_iff defaultGenre_ofName_iff),
    kind_iff (s := Setting.showSpoilerTags) (fun _ _ ↦ readBool_eq_some_iff)]
  constructor
  · rintro ⟨s, entries, hentries, h₁, h₂, h₃⟩
    exact ⟨entries, hentries, ⟨_, h₁⟩, ⟨_, h₂⟩, ⟨_, h₃⟩⟩
  · rintro ⟨entries, hentries, ⟨o₁, h₁⟩, ⟨o₂, h₂⟩, ⟨o₃, h₃⟩⟩
    exact ⟨⟨o₁, o₂, o₃⟩, entries, hentries, h₁, h₂, h₃⟩

theorem PeopleSection.nodup_names : names.Nodup := by simp [names]

theorem PeopleSection.ofToml_eq_some_iff {s : PeopleSection} : ofToml v = some s ↔
    ∃ entries, entriesOf names v = some entries ∧
      entry entries "filter_by_title_preference" readBool = some s.filterByTitlePreference := by
  cases s
  simp [ofToml, Option.bind_eq_some_iff]

theorem PeopleSection.exists_ofToml_iff : (∃ s, ofToml v = some s) ↔
    IsSection [Setting.filterPeopleByTitlePreference.kind] v := by
  rw [isSection_iff (show _ = names from rfl) nodup_names]
  simp only [ofToml_eq_some_iff, List.forall_mem_cons, List.not_mem_nil, false_imp_iff,
    implies_true, and_true,
    kind_iff (s := Setting.filterPeopleByTitlePreference) (fun _ _ ↦ readBool_eq_some_iff)]
  constructor
  · rintro ⟨s, entries, hentries, h⟩
    exact ⟨entries, hentries, _, h⟩
  · rintro ⟨entries, hentries, o, h⟩
    exact ⟨⟨o⟩, entries, hentries, h⟩

theorem SearchSection.nodup_names : names.Nodup := by simp [names]

theorem SearchSection.ofToml_eq_some_iff {s : SearchSection} : ofToml v = some s ↔
    ∃ entries, entriesOf names v = some entries ∧
      entry entries "use_title_tokenizer" readBool = some s.useTitleTokenizer := by
  cases s
  simp [ofToml, Option.bind_eq_some_iff]

theorem SearchSection.exists_ofToml_iff : (∃ s, ofToml v = some s) ↔
    IsSection [Setting.useTitleTokenizer.kind] v := by
  rw [isSection_iff (show _ = names from rfl) nodup_names]
  simp only [ofToml_eq_some_iff, List.forall_mem_cons, List.not_mem_nil, false_imp_iff,
    implies_true, and_true,
    kind_iff (s := Setting.useTitleTokenizer) (fun _ _ ↦ readBool_eq_some_iff)]
  constructor
  · rintro ⟨s, entries, hentries, h⟩
    exact ⟨entries, hentries, _, h⟩
  · rintro ⟨entries, hentries, o, h⟩
    exact ⟨⟨o⟩, entries, hentries, h⟩

theorem NetworkSection.nodup_names : names.Nodup := by simp [names]

theorem NetworkSection.ofToml_eq_some_iff {s : NetworkSection} : ofToml v = some s ↔
    ∃ entries, entriesOf names v = some entries ∧
      entry entries "endpoint" readText = some s.endpoint ∧
      entry entries "request_interval_ms" readNat = some s.requestIntervalMs ∧
      entry entries "timeout_secs" readNat = some s.timeoutSecs := by
  cases s
  simp [ofToml, Option.bind_eq_some_iff]

theorem NetworkSection.exists_ofToml_iff : (∃ s, ofToml v = some s) ↔
    IsSection [Setting.endpoint.kind, Setting.requestIntervalMs.kind,
      Setting.timeoutSecs.kind] v := by
  rw [isSection_iff (show _ = names from rfl) nodup_names]
  simp only [ofToml_eq_some_iff, List.forall_mem_cons, List.not_mem_nil, false_imp_iff,
    implies_true, and_true,
    kind_iff (s := Setting.endpoint) (fun _ _ ↦ readText_eq_some_iff),
    kind_iff (s := Setting.requestIntervalMs) (fun _ _ ↦ readNat_eq_some_iff),
    kind_iff (s := Setting.timeoutSecs) (fun _ _ ↦ readNat_eq_some_iff)]
  constructor
  · rintro ⟨s, entries, hentries, h₁, h₂, h₃⟩
    exact ⟨entries, hentries, ⟨_, h₁⟩, ⟨_, h₂⟩, ⟨_, h₃⟩⟩
  · rintro ⟨entries, hentries, ⟨o₁, h₁⟩, ⟨o₂, h₂⟩, ⟨o₃, h₃⟩⟩
    exact ⟨⟨o₁, o₂, o₃⟩, entries, hentries, h₁, h₂, h₃⟩

end Sections

namespace Config

/-! ## Reading files -/

theorem ofToml_eq_some_iff {document : List (String × Toml)} {c : Config} :
    ofToml (.table document) = some c ↔
      entry (document.lookup ·) "titles" TitleSection.ofToml = some c.titles ∧
      entry (document.lookup ·) "genres" GenreSection.ofToml = some c.genres ∧
      entry (document.lookup ·) "people" PeopleSection.ofToml = some c.people ∧
      entry (document.lookup ·) "search" SearchSection.ofToml = some c.search ∧
      entry (document.lookup ·) "network" NetworkSection.ofToml = some c.network := by
  cases c
  simp [ofToml, Option.bind_eq_some_iff]

/-- **A document is read if it is a configuration.** -/
theorem exists_ofToml_iff {document : List (String × Toml)} :
    (∃ c, ofToml (.table document) = some c) ↔ IsConfiguration document := by
  have hentry {σ : Type} (name : String) (read : Toml → Option σ) :
      (∃ o, entry (document.lookup ·) name read = some o) ↔
        ∀ v, document.lookup name = some v → ∃ a, read v = some a := exists_entry_iff
  simp only [ofToml_eq_some_iff, IsConfiguration, sections, List.forall_mem_cons,
    List.not_mem_nil, false_imp_iff, implies_true, and_true, ← TitleSection.exists_ofToml_iff,
    ← GenreSection.exists_ofToml_iff, ← PeopleSection.exists_ofToml_iff,
    ← SearchSection.exists_ofToml_iff, ← NetworkSection.exists_ofToml_iff, ← hentry]
  constructor
  · rintro ⟨c, h₁, h₂, h₃, h₄, h₅⟩
    exact ⟨⟨_, h₁⟩, ⟨_, h₂⟩, ⟨_, h₃⟩, ⟨_, h₄⟩, ⟨_, h₅⟩⟩
  · rintro ⟨⟨o₁, h₁⟩, ⟨o₂, h₂⟩, ⟨o₃, h₃⟩, ⟨o₄, h₄⟩, ⟨o₅, h₅⟩⟩
    exact ⟨⟨o₁, o₂, o₃, o₄, o₅⟩, h₁, h₂, h₃, h₄, h₅⟩

section Reading

variable {α σ : Type} {content : Option (List UInt8)} {c : Config}

theorem read_eq_ok_iff : read content = .ok c ↔
    ∃ document, IsDocument content document ∧ ofToml (.table document) = some c := by
  constructor
  · intro h
    unfold read at h
    split at h
    · rename_i text htext
      obtain ⟨bytes, rfl, htext⟩ := Option.bind_eq_some_iff.mp htext
      split at h
      · rename_i hread
        cases h
        obtain ⟨v, hread, hv⟩ := Option.bind_eq_some_iff.mp hread
        cases v with
        | table document => exact ⟨document, .intro htext hread, hv⟩
        | _ => cases hv
      · cases h
    · cases h
  · rintro ⟨document, hdocument, hc⟩
    cases hdocument with
    | intro htext hread => simp only [read, Option.bind_some, htext, hread, hc]

/-- **A file is read if it can be used.** -/
theorem exists_read_iff : (∃ c, read content = .ok c) ↔ IsUsable content := by
  simp only [read_eq_ok_iff, IsUsable, ← exists_ofToml_iff]
  constructor
  · rintro ⟨c, document, hdocument, hc⟩
    exact ⟨document, hdocument, c, hc⟩
  · rintro ⟨document, hdocument, c, hc⟩
    exact ⟨c, document, hdocument, hc⟩

theorem isReadable_iff : IsReadable content ↔ ∃ text, content.bind Text.Utf8.text = some text := by
  simp only [IsReadable, Option.bind_eq_some_iff]
  exact exists_comm

/-- **Why a file is refused**: it is missing or no text, or else it cannot be used. -/
theorem read_eq_error_iff {e : ConfigError} : read content = .error e ↔
    e = .inaccessible ∧ ¬ IsReadable content ∨
      e = .malformed ∧ IsReadable content ∧ ¬ IsUsable content := by
  rw [← exists_read_iff, isReadable_iff]
  unfold read
  split
  · rename_i text htext
    split <;> simp [htext, eq_comm]
  · rename_i hnone
    simp [hnone, eq_comm]

/-- **A setting is part of the configurations that are read**: it is what their files set. -/
def ReadAs (s : Setting α) (get : Config → Option α) : Prop :=
  ∀ content a, Sets s content a ↔ ∃ c, read content = .ok c ∧ get c = some a

/-- A file sets what the configuration has, if the setting is found in its section. -/
theorem sets_iff {s : Setting α} {ofSection : Toml → Option σ} {inside : Config → Option σ}
    {get : σ → Option α} (hfinds : Finds s ofSection get)
    (hsection : ∀ document c, ofToml (.table document) = some c →
      entry (document.lookup ·) s.inSection ofSection = some (inside c)) (a : α) :
    Sets s content a ↔ ∃ c, read content = .ok c ∧ (inside c).bind get = some a := by
  constructor
  · rintro ⟨hdocument, husable, hlookup, hentry, hmeans⟩
    -- The other settings of the document matter only here: with all of them the file is read.
    obtain ⟨c, hc⟩ := exists_ofToml_iff.mpr husable
    obtain ⟨hinside, hall⟩ := entry_eq_some_iff.mp (hsection _ c hc)
    obtain ⟨x, hx⟩ := hall _ hlookup
    refine ⟨c, read_eq_ok_iff.mpr ⟨_, hdocument, hc⟩, ?_⟩
    rw [hinside]
    simp only [hlookup, Option.bind_some, hx]
    exact (hfinds _ x hx a).mpr ⟨_, hentry, hmeans⟩
  · rintro ⟨c, hread, hget⟩
    obtain ⟨document, hdocument, hc⟩ := read_eq_ok_iff.mp hread
    obtain ⟨hinside, -⟩ := entry_eq_some_iff.mp (hsection _ c hc)
    obtain ⟨x, hx, ha⟩ := Option.bind_eq_some_iff.mp hget
    obtain ⟨v, hlookup, hv⟩ := Option.bind_eq_some_iff.mp (hinside.symm.trans hx)
    obtain ⟨u, hentry, hmeans⟩ := (hfinds v x hv a).mp ha
    exact ⟨hdocument, exists_ofToml_iff.mp ⟨c, hc⟩, hlookup, hentry, hmeans⟩

/-- **A configuration has what its file sets**, if the entry of the setting is read in its section,
and the section in the document. -/
theorem readAs_of_entry {s : Setting α} (names : List String) (ofSection : Toml → Option σ)
    {read : Toml → Option α} {inside : Config → Option σ} {get : σ → Option α}
    (hn : names.Nodup) (hplace : names[s.place]? = some s.key)
    (hread : ∀ u a, read u = some a ↔ s.Means u a)
    (hentry : ∀ v x, ofSection v = some x →
      ∃ entries, entriesOf names v = some entries ∧ entry entries s.key read = some (get x))
    (hsection : ∀ document c, ofToml (.table document) = some c →
      entry (document.lookup ·) s.inSection ofSection = some (inside c)) :
    ReadAs s fun c ↦ (inside c).bind get :=
  fun _ ↦ sets_iff (finds_of_entry hn hplace hread hentry) hsection

end Reading

/-! ### Every setting -/

/-- **The settings about titles are read.** -/
theorem readAs_titles : ReadAs .titlePreference (·.choices.titlePreference) ∧
    ReadAs .secondTitlePreference (·.choices.secondTitlePreference) ∧
    ReadAs .locale (·.choices.locale) := by
  have hwords (v : Toml) (a : TitlePreference) :
      readWord TitlePreference.ofName v = some a ↔ IsWord preferenceWords v a :=
    readWord_eq_some_iff titlePreference_ofName_iff
  have hsection (document : List (String × Toml)) (c : Config)
      (h : ofToml (.table document) = some c) := (ofToml_eq_some_iff.mp h).1
  refine ⟨readAs_of_entry _ _ TitleSection.nodup_names rfl hwords ?_ hsection,
    readAs_of_entry _ _ TitleSection.nodup_names rfl hwords ?_ hsection,
    readAs_of_entry _ _ TitleSection.nodup_names rfl (fun _ _ ↦ readText_eq_some_iff)
      ?_ hsection⟩
  · intro v x h
    obtain ⟨entries, hentries, h, -, -⟩ := TitleSection.ofToml_eq_some_iff.mp h
    exact ⟨entries, hentries, h⟩
  · intro v x h
    obtain ⟨entries, hentries, -, h, -⟩ := TitleSection.ofToml_eq_some_iff.mp h
    exact ⟨entries, hentries, h⟩
  · intro v x h
    obtain ⟨entries, hentries, -, -, h⟩ := TitleSection.ofToml_eq_some_iff.mp h
    exact ⟨entries, hentries, h⟩

/-- **The settings about genres and tags are read.** -/
theorem readAs_genres : ReadAs .maxGenres (·.choices.maxGenres) ∧
    ReadAs .defaultGenre (·.choices.defaultGenre) ∧
    ReadAs .showSpoilerTags (·.choices.showSpoilerTags) := by
  have hwords (v : Toml) (a : DefaultGenre) :
      readWord DefaultGenre.ofName v = some a ↔ IsWord genreWords v a :=
    readWord_eq_some_iff defaultGenre_ofName_iff
  have hsection (document : List (String × Toml)) (c : Config)
      (h : ofToml (.table document) = some c) := (ofToml_eq_some_iff.mp h).2.1
  refine ⟨readAs_of_entry _ _ GenreSection.nodup_names rfl (fun _ _ ↦ readNat_eq_some_iff)
      ?_ hsection,
    readAs_of_entry _ _ GenreSection.nodup_names rfl hwords ?_ hsection,
    readAs_of_entry _ _ GenreSection.nodup_names rfl (fun _ _ ↦ readBool_eq_some_iff)
      ?_ hsection⟩
  · intro v x h
    obtain ⟨entries, hentries, h, -, -⟩ := GenreSection.ofToml_eq_some_iff.mp h
    exact ⟨entries, hentries, h⟩
  · intro v x h
    obtain ⟨entries, hentries, -, h, -⟩ := GenreSection.ofToml_eq_some_iff.mp h
    exact ⟨entries, hentries, h⟩
  · intro v x h
    obtain ⟨entries, hentries, -, -, h⟩ := GenreSection.ofToml_eq_some_iff.mp h
    exact ⟨entries, hentries, h⟩

/-- **The setting about people is read.** -/
theorem readAs_people :
    ReadAs .filterPeopleByTitlePreference (·.choices.filterPeopleByTitlePreference) := by
  have hsection (document : List (String × Toml)) (c : Config)
      (h : ofToml (.table document) = some c) := (ofToml_eq_some_iff.mp h).2.2.1
  exact readAs_of_entry _ _ PeopleSection.nodup_names rfl (fun _ _ ↦ readBool_eq_some_iff)
    (fun _ _ h ↦ PeopleSection.ofToml_eq_some_iff.mp h) hsection

/-- **The setting about searching is read.** -/
theorem readAs_search : ReadAs .useTitleTokenizer (·.choices.useTitleTokenizer) := by
  have hsection (document : List (String × Toml)) (c : Config)
      (h : ofToml (.table document) = some c) := (ofToml_eq_some_iff.mp h).2.2.2.1
  exact readAs_of_entry _ _ SearchSection.nodup_names rfl (fun _ _ ↦ readBool_eq_some_iff)
    (fun _ _ h ↦ SearchSection.ofToml_eq_some_iff.mp h) hsection

/-- **The settings about the connection are read.** -/
theorem readAs_network : ReadAs .endpoint (·.choices.endpoint) ∧
    ReadAs .requestIntervalMs (·.choices.requestIntervalMs) ∧
    ReadAs .timeoutSecs (·.choices.timeoutSecs) := by
  have hsection (document : List (String × Toml)) (c : Config)
      (h : ofToml (.table document) = some c) := (ofToml_eq_some_iff.mp h).2.2.2.2
  refine ⟨readAs_of_entry _ _ NetworkSection.nodup_names rfl (fun _ _ ↦ readText_eq_some_iff)
      ?_ hsection,
    readAs_of_entry _ _ NetworkSection.nodup_names rfl (fun _ _ ↦ readNat_eq_some_iff)
      ?_ hsection,
    readAs_of_entry _ _ NetworkSection.nodup_names rfl (fun _ _ ↦ readNat_eq_some_iff)
      ?_ hsection⟩
  · intro v x h
    obtain ⟨entries, hentries, h, -, -⟩ := NetworkSection.ofToml_eq_some_iff.mp h
    exact ⟨entries, hentries, h⟩
  · intro v x h
    obtain ⟨entries, hentries, -, h, -⟩ := NetworkSection.ofToml_eq_some_iff.mp h
    exact ⟨entries, hentries, h⟩
  · intro v x h
    obtain ⟨entries, hentries, -, -, h⟩ := NetworkSection.ofToml_eq_some_iff.mp h
    exact ⟨entries, hentries, h⟩

end Config

end AnimeLookup
