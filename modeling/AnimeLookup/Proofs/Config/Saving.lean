import AnimeLookup.Config.Files
import AnimeLookup.Proofs.Config.Contents
import AnimeLookup.Proofs.Files.Growing
import AnimeLookup.Proofs.Json.RecordFields
import AnimeLookup.Proofs.Text.Encoding
import AnimeLookup.Proofs.Toml.RoundTrip

/-!
# Saving a configuration and reading it back

A configuration that is saved can be read again and is the same, with every section that it had and
no other (`read_of_write`), so the file sets what the configuration has (`sets_iff_of_write`).  It
cannot be saved if it sets a number for which TOML has no room, and then nothing is written
(`saveConfig_over_file`).

Sections and configurations are alike in that their parts may be missing.  `present` is what is left
of parts with names when the missing ones are dropped.  Each of them is found by its name
(`lookup_present`), so reading goes part by part.
-/

set_option autoImplicit false

namespace AnimeLookup

open Toml (Scalar Section IsBare AreDistinct)

namespace Config

/-! ## Parts that may be missing -/

/-- **The parts that are there**, with their names. -/
def present {α : Type} (parts : List (String × Option α)) : List (String × α) :=
  parts.filterMap fun (name, part) ↦ part.map (name, ·)

section Present

variable {α β : Type} {parts : List (String × Option α)}

theorem present_cons (name : String) (part : Option α) (rest : List (String × Option α)) :
    present ((name, part) :: rest) = (part.map (name, ·)).toList ++ present rest := by
  cases part <;> rfl

theorem names_present_sublist (parts : List (String × Option α)) :
    ((present parts).map Prod.fst).Sublist (parts.map Prod.fst) := by
  induction parts with
  | nil => exact List.Sublist.refl []
  | cons part rest ih =>
    obtain ⟨name, _ | a⟩ := part
    · exact ih.cons name
    · exact ih.cons_cons name

/-- **A part is found by its name**, if it is there. -/
theorem lookup_present (hnodup : (parts.map Prod.fst).Nodup) {name : String} {part : Option α}
    (h : parts.lookup name = some part) : (present parts).lookup name = part := by
  induction parts with
  | nil => cases h
  | cons first rest ih =>
    obtain ⟨other, o⟩ := first
    rw [List.map_cons, List.nodup_cons] at hnodup
    by_cases hname : name = other
    · subst hname
      rw [List.lookup_cons_self] at h
      cases h
      cases part with
      | none =>
        exact Toml.lookup_eq_none fun hmem ↦ hnodup.1 ((names_present_sublist rest).subset hmem)
      | some a => exact List.lookup_cons_self
    · rw [List.lookup_cons, beq_false_of_ne hname] at h
      cases o with
      | none => exact ih hnodup.2 h
      | some a =>
        rw [present_cons, Option.map_some, Option.toList_some, List.singleton_append,
          List.lookup_cons, beq_false_of_ne hname]
        exact ih hnodup.2 h

theorem lookup_map_values (f : α → β) (entries : List (String × α)) (name : String) :
    (entries.map fun (k, a) ↦ (k, f a)).lookup name = (entries.lookup name).map f := by
  induction entries with
  | nil => rfl
  | cons e rest ih =>
    rw [List.map_cons, List.lookup_cons, List.lookup_cons, ih]
    cases name == e.1 <;> rfl

/-- A part that is written by one function and read by another. -/
theorem entry_of_lookup {lookup : Lookup} {read : Toml → Option α} {f : α → Toml} {name : String}
    {part : Option α} (h : lookup name = part.map f) (hread : ∀ a, read (f a) = some a) :
    entry lookup name read = some part := by
  rw [entry, h]
  cases part with
  | none => rfl
  | some a => exact congrArg (Option.map some) (hread a)

end Present

/-! ## Values of entries -/

theorem readNat_ofUInt64 (n : UInt64) : readNat (ofUInt64 n).toToml = some n := by
  have hbounds : 0 ≤ (n.toNat : Int) ∧ (n.toNat : Int) < UInt64.size :=
    ⟨Int.natCast_nonneg n.toNat, Int.ofNat_lt.mpr n.toNat_lt⟩
  show (if 0 ≤ (n.toNat : Int) ∧ (n.toNat : Int) < UInt64.size then
    some (UInt64.ofNat n.toNat) else none) = some n
  rw [if_pos hbounds, UInt64.ofNat_toNat]

theorem readWord_titlePreference (p : TitlePreference) :
    readWord TitlePreference.ofName (Scalar.string p.name).toToml = some p :=
  TitlePreference.ofName_name p

theorem readWord_defaultGenre (g : DefaultGenre) :
    readWord DefaultGenre.ofName (Scalar.string g.name).toToml = some g :=
  DefaultGenre.ofName_name g

/-! ## Sections -/

/-- **The entries of a section, of which any may be missing**, with names that need no marks and
differ from each other. -/
structure HasParts (s : Section) (names : List String) (parts : List (String × Option Scalar)) :
    Prop where
  /-- The entries are the parts that are there. -/
  entries : s.entries = present parts
  /-- The parts have the given names. -/
  names_eq : parts.map Prod.fst = names
  /-- The names differ. -/
  nodup : names.Nodup
  /-- The names need no marks. -/
  bare : ∀ name ∈ names, IsBare name

namespace HasParts

variable {α : Type} {s : Section} {names : List String} {parts : List (String × Option Scalar)}

theorem keys_sublist (h : HasParts s names parts) : (s.entries.map Prod.fst).Sublist names := by
  rw [h.entries, ← h.names_eq]
  exact names_present_sublist parts

theorem isBare (h : HasParts s names parts) (hname : IsBare s.name) : s.IsBare :=
  ⟨hname, fun e he ↦ h.bare e.1 (h.keys_sublist.subset (List.mem_map_of_mem he))⟩

theorem keys_nodup (h : HasParts s names parts) : (s.entries.map Prod.fst).Nodup :=
  h.nodup.sublist h.keys_sublist

theorem entriesOf_toToml (h : HasParts s names parts) : entriesOf names s.toToml =
    some fun name ↦ ((present parts).map fun (k, v) ↦ (k, v.toToml)).lookup name := by
  rw [Section.toToml, h.entries]
  rfl

/-- **An entry of a written section is read back.** -/
theorem entry_eq (h : HasParts s names parts) {read : Toml → Option α} {write : α → Scalar}
    {name : String} {part : Option α} (hpart : parts.lookup name = some (part.map write))
    (hread : ∀ a, read (write a).toToml = some a) :
    entry (fun name ↦ ((present parts).map fun (k, v) ↦ (k, v.toToml)).lookup name) name read =
      some part := by
  refine entry_of_lookup (f := fun a ↦ (write a).toToml) ?_ hread
  rw [lookup_map_values, lookup_present (h.names_eq ▸ h.nodup) hpart, Option.map_map]
  rfl

end HasParts

theorem bare_of_all {names : List String}
    (h : (names.all fun name ↦ name.toList ≠ [] && name.toList.all Toml.isKeyChar) = true) :
    ∀ name ∈ names, IsBare name := by
  intro name hname
  have hboth := List.all_eq_true.mp h name hname
  rw [Bool.and_eq_true, decide_eq_true_iff] at hboth
  exact ⟨hboth.1, hboth.2⟩

end Config

open Config
open Json (bind_of_eq_some)

theorem TitleSection.hasParts (s : TitleSection) : HasParts s.toSection names
    [("title_preference", s.titlePreference.map (.string ·.name)),
      ("original_title_preference", s.secondTitlePreference.map (.string ·.name)),
      ("locale", s.locale.map .string)] where
  entries := by obtain ⟨_ | _, _ | _, _ | _⟩ := s <;> rfl
  names_eq := rfl
  nodup := by decide
  bare := bare_of_all (by decide)

theorem TitleSection.ofToml_toToml (s : TitleSection) :
    TitleSection.ofToml s.toSection.toToml = some s :=
  bind_of_eq_some s.hasParts.entriesOf_toToml <|
  bind_of_eq_some (s.hasParts.entry_eq rfl readWord_titlePreference) <|
  bind_of_eq_some (s.hasParts.entry_eq rfl readWord_titlePreference) <|
  bind_of_eq_some (s.hasParts.entry_eq rfl fun _ ↦ rfl) rfl

theorem GenreSection.hasParts (s : GenreSection) : HasParts s.toSection names
    [("max_genres", s.maxGenres.map ofUInt64),
      ("default_genre", s.defaultGenre.map (.string ·.name)),
      ("show_spoiler_tags", s.showSpoilerTags.map .bool)] where
  entries := by obtain ⟨_ | _, _ | _, _ | _⟩ := s <;> rfl
  names_eq := rfl
  nodup := by decide
  bare := bare_of_all (by decide)

theorem GenreSection.ofToml_toToml (s : GenreSection) :
    GenreSection.ofToml s.toSection.toToml = some s :=
  bind_of_eq_some s.hasParts.entriesOf_toToml <|
  bind_of_eq_some (s.hasParts.entry_eq rfl readNat_ofUInt64) <|
  bind_of_eq_some (s.hasParts.entry_eq rfl readWord_defaultGenre) <|
  bind_of_eq_some (s.hasParts.entry_eq rfl fun _ ↦ rfl) rfl

theorem PeopleSection.hasParts (s : PeopleSection) : HasParts s.toSection names
    [("filter_by_title_preference", s.filterByTitlePreference.map .bool)] where
  entries := by obtain ⟨_ | _⟩ := s <;> rfl
  names_eq := rfl
  nodup := by decide
  bare := bare_of_all (by decide)

theorem PeopleSection.ofToml_toToml (s : PeopleSection) :
    PeopleSection.ofToml s.toSection.toToml = some s :=
  bind_of_eq_some s.hasParts.entriesOf_toToml <|
  bind_of_eq_some (s.hasParts.entry_eq rfl fun _ ↦ rfl) rfl

theorem SearchSection.hasParts (s : SearchSection) : HasParts s.toSection names
    [("use_title_tokenizer", s.useTitleTokenizer.map .bool)] where
  entries := by obtain ⟨_ | _⟩ := s <;> rfl
  names_eq := rfl
  nodup := by decide
  bare := bare_of_all (by decide)

theorem SearchSection.ofToml_toToml (s : SearchSection) :
    SearchSection.ofToml s.toSection.toToml = some s :=
  bind_of_eq_some s.hasParts.entriesOf_toToml <|
  bind_of_eq_some (s.hasParts.entry_eq rfl fun _ ↦ rfl) rfl

theorem NetworkSection.hasParts (s : NetworkSection) : HasParts s.toSection names
    [("endpoint", s.endpoint.map .string),
      ("request_interval_ms", s.requestIntervalMs.map ofUInt64),
      ("timeout_secs", s.timeoutSecs.map ofUInt64)] where
  entries := by obtain ⟨_ | _, _ | _, _ | _⟩ := s <;> rfl
  names_eq := rfl
  nodup := by decide
  bare := bare_of_all (by decide)

theorem NetworkSection.ofToml_toToml (s : NetworkSection) :
    NetworkSection.ofToml s.toSection.toToml = some s :=
  bind_of_eq_some s.hasParts.entriesOf_toToml <|
  bind_of_eq_some (s.hasParts.entry_eq rfl fun _ ↦ rfl) <|
  bind_of_eq_some (s.hasParts.entry_eq rfl readNat_ofUInt64) <|
  bind_of_eq_some (s.hasParts.entry_eq rfl readNat_ofUInt64) rfl

namespace Config

/-! ## Configurations -/

/-- The sections of a configuration, which may be missing. -/
def parts (c : Config) : List (String × Option Section) :=
  [("titles", c.titles.map TitleSection.toSection),
    ("genres", c.genres.map GenreSection.toSection),
    ("people", c.people.map PeopleSection.toSection),
    ("search", c.search.map SearchSection.toSection),
    ("network", c.network.map NetworkSection.toSection)]

theorem nodup_names_parts (c : Config) : (c.parts.map Prod.fst).Nodup :=
  show ["titles", "genres", "people", "search", "network"].Nodup by decide

theorem toSections_eq (c : Config) :
    (c.toSections.map fun s ↦ (s.name, s)) = present c.parts := by
  obtain ⟨_ | _, _ | _, _ | _, _ | _, _ | _⟩ := c <;> rfl

/-- **The sections of a configuration can be written and read back.** -/
theorem wellFormed_of_mem_toSections {c : Config} {s : Section} (h : s ∈ c.toSections) :
    s.IsBare ∧ (s.entries.map Prod.fst).Nodup := by
  have hname : ∀ name ∈ ["titles", "genres", "people", "search", "network"], IsBare name :=
    bare_of_all (by decide)
  simp only [toSections, List.mem_append, Option.mem_toList, Option.map_eq_some_iff] at h
  rcases h with (((⟨s, -, rfl⟩ | ⟨s, -, rfl⟩) | ⟨s, -, rfl⟩) | ⟨s, -, rfl⟩) | ⟨s, -, rfl⟩
  · exact ⟨s.hasParts.isBare (hname _ (by simp [TitleSection.toSection])), s.hasParts.keys_nodup⟩
  · exact ⟨s.hasParts.isBare (hname _ (by simp [GenreSection.toSection])), s.hasParts.keys_nodup⟩
  · exact ⟨s.hasParts.isBare (hname _ (by simp [PeopleSection.toSection])), s.hasParts.keys_nodup⟩
  · exact ⟨s.hasParts.isBare (hname _ (by simp [SearchSection.toSection])), s.hasParts.keys_nodup⟩
  · exact ⟨s.hasParts.isBare (hname _ (by simp [NetworkSection.toSection])), s.hasParts.keys_nodup⟩

theorem areDistinct_toSections (c : Config) : AreDistinct c.toSections where
  names := by
    have hnames : c.toSections.map Section.name = (present c.parts).map Prod.fst := by
      rw [← toSections_eq, List.map_map]
      rfl
    rw [hnames]
    exact c.nodup_names_parts.sublist (names_present_sublist c.parts)
  keys _ hs := (wellFormed_of_mem_toSections hs).2

/-- A section of a configuration is found in the table that the configuration is. -/
theorem lookup_toSections (c : Config) {name : String} {part : Option Section}
    (h : c.parts.lookup name = some part) :
    (c.toSections.map fun s ↦ (s.name, s.toToml)).lookup name = part.map Section.toToml := by
  have htable : (c.toSections.map fun s ↦ (s.name, s.toToml)) =
      (present c.parts).map fun (k, s) ↦ (k, s.toToml) := by
    rw [← toSections_eq, List.map_map]
    rfl
  rw [htable, lookup_map_values, lookup_present c.nodup_names_parts h]

theorem entry_toSections (c : Config) {α : Type} {name : String} {part : Option α}
    {toSection : α → Section} {read : Toml → Option α}
    (h : c.parts.lookup name = some (part.map toSection))
    (hread : ∀ a, read (toSection a).toToml = some a) :
    entry (fun name ↦ (c.toSections.map fun s ↦ (s.name, s.toToml)).lookup name) name read =
      some part := by
  refine entry_of_lookup (f := fun a ↦ (toSection a).toToml) ?_ hread
  rw [lookup_toSections c h, Option.map_map]
  rfl

/-- **The table of a configuration is read as the configuration.** -/
theorem ofToml_toSections (c : Config) :
    ofToml (.table (c.toSections.map fun s ↦ (s.name, s.toToml))) = some c :=
  bind_of_eq_some (c.entry_toSections rfl TitleSection.ofToml_toToml) <|
  bind_of_eq_some (c.entry_toSections rfl GenreSection.ofToml_toToml) <|
  bind_of_eq_some (c.entry_toSections rfl PeopleSection.ofToml_toToml) <|
  bind_of_eq_some (c.entry_toSections rfl SearchSection.ofToml_toToml) <|
  bind_of_eq_some (c.entry_toSections rfl NetworkSection.ofToml_toToml) rfl

/-- **A configuration that is written can be read again.** -/
theorem read_of_write {c : Config} {bytes : List UInt8} (h : c.write = .ok bytes) :
    Config.read (some bytes) = .ok c := by
  rw [write] at h
  split at h
  · rename_i text htext
    cases h
    have hread : Toml.read text = some (.table (c.toSections.map fun s ↦ (s.name, s.toToml))) :=
      Toml.read_write (fun s hs ↦ (wellFormed_of_mem_toSections hs).1) c.areDistinct_toSections
        htext
    simp only [Config.read, Option.bind_some, Text.Utf8.text_encode, hread, ofToml_toSections]
  · cases h

/-- **A configuration that is written sets what it has**, and nothing else. -/
theorem sets_iff_of_write {α : Type} {s : Setting α} {get : Config → Option α} (hs : ReadAs s get)
    {c : Config} {bytes : List UInt8} (h : c.write = .ok bytes) (a : α) :
    Sets s (some bytes) a ↔ get c = some a := by
  rw [hs, read_of_write h]
  simp

end Config

/-! ## Numbers that can be written -/

theorem TitleSection.isWritable_toSection (s : TitleSection) : s.toSection.isWritable = true := by
  obtain ⟨_ | _, _ | _, _ | _⟩ := s <;> rfl

theorem GenreSection.isWritable_toSection_iff (s : GenreSection) :
    s.toSection.isWritable = true ↔ ∀ n ∈ s.maxGenres, n.toNat ≤ Toml.largestInteger := by
  obtain ⟨_ | n, _ | _, _ | _⟩ := s <;>
    simp [toSection, entryOf, ofUInt64, Section.isWritable, Scalar.isWritable]

theorem PeopleSection.isWritable_toSection (s : PeopleSection) : s.toSection.isWritable = true := by
  obtain ⟨_ | _⟩ := s <;> rfl

theorem SearchSection.isWritable_toSection (s : SearchSection) : s.toSection.isWritable = true := by
  obtain ⟨_ | _⟩ := s <;> rfl

theorem NetworkSection.isWritable_toSection_iff (s : NetworkSection) :
    s.toSection.isWritable = true ↔
      (∀ n ∈ s.requestIntervalMs, n.toNat ≤ Toml.largestInteger) ∧
        ∀ n ∈ s.timeoutSecs, n.toNat ≤ Toml.largestInteger := by
  obtain ⟨_ | _, _ | n, _ | m⟩ := s <;>
    simp [toSection, entryOf, ofUInt64, Section.isWritable, Scalar.isWritable]

namespace Config

/-- The numbers that are chosen. -/
def numbers (c : Choices) : List UInt64 :=
  [c.maxGenres, c.requestIntervalMs, c.timeoutSecs].filterMap id

theorem mem_numbers {c : Choices} {n : UInt64} :
    n ∈ numbers c ↔ n ∈ c.maxGenres ∨ n ∈ c.requestIntervalMs ∨ n ∈ c.timeoutSecs := by
  simp [numbers, eq_comm]

/-- Sections can be written if every number that they set fits into 64 bits with a sign. -/
theorem all_isWritable_iff (c : Config) : c.toSections.all Section.isWritable = true ↔
    ∀ n ∈ numbers c.choices, n.toNat ≤ Toml.largestInteger := by
  have hgenres : (c.genres.map GenreSection.toSection).toList.all Section.isWritable = true ↔
      ∀ n ∈ c.choices.maxGenres, n.toNat ≤ Toml.largestInteger := by
    obtain ⟨_, _ | s, _, _, _⟩ := c
    · simp [choices]
    · simp [choices, s.isWritable_toSection_iff]
  have hnetwork : (c.network.map NetworkSection.toSection).toList.all Section.isWritable = true ↔
      (∀ n ∈ c.choices.requestIntervalMs, n.toNat ≤ Toml.largestInteger) ∧
        ∀ n ∈ c.choices.timeoutSecs, n.toNat ≤ Toml.largestInteger := by
    obtain ⟨_, _, _, _, _ | s⟩ := c
    · simp [choices]
    · simp [choices, s.isWritable_toSection_iff]
  have hothers : (c.titles.map TitleSection.toSection).toList.all Section.isWritable = true ∧
      (c.people.map PeopleSection.toSection).toList.all Section.isWritable = true ∧
        (c.search.map SearchSection.toSection).toList.all Section.isWritable = true := by
    refine ⟨?_, ?_, ?_⟩
    · cases c.titles <;> simp [TitleSection.isWritable_toSection]
    · cases c.people <;> simp [PeopleSection.isWritable_toSection]
    · cases c.search <;> simp [SearchSection.isWritable_toSection]
  simp only [toSections, List.all_append, Bool.and_eq_true, hgenres, hnetwork, hothers, true_and,
    and_true, mem_numbers, or_imp, forall_and]

/-- **A configuration can be written** exactly if every number that it sets fits into 64 bits with a
sign. -/
theorem write_cases (c : Config) :
    (∃ bytes, c.write = .ok bytes) ∧ (∀ n ∈ numbers c.choices, n.toNat ≤ Toml.largestInteger) ∨
      c.write = .error .unwritable ∧
        ¬ ∀ n ∈ numbers c.choices, n.toNat ≤ Toml.largestInteger := by
  rw [write, Toml.write.eq_def, ← all_isWritable_iff]
  by_cases h : c.toSections.all Section.isWritable = true
  · rw [if_pos h]
    refine .inl ⟨?_, h⟩
    cases c.toSections with
    | nil => exact ⟨_, rfl⟩
    | cons s rest => exact ⟨_, rfl⟩
  · rw [if_neg h]
    exact .inr ⟨rfl, h⟩

end Config

namespace Files

variable {files after : Files} {path : Path} {c : Config} {bytes old : List UInt8}

/-- A configuration is saved if directories lead to its place, it can be written, and there is room
for a file. -/
theorem saveConfig_eq_ok_iff : files.saveConfig path c = (.ok (), after) ↔
    ∃ made bytes, files.makeDirectories path.parent = (true, made) ∧ c.write = .ok bytes ∧
      made.write path bytes = some after := by
  rw [saveConfig]
  constructor
  · intro h
    split at h
    · cases h
    · rename_i made hmade
      split at h
      · cases h
      · rename_i bytes hbytes
        split at h
        · rename_i hwrite
          cases h
          exact ⟨made, bytes, hmade, hbytes, hwrite⟩
        · cases h
  · rintro ⟨made, bytes, hmade, hbytes, hwrite⟩
    simp only [hmade, hbytes, hwrite]

/-- **What has been saved is read back.** -/
theorem readConfig_of_saveConfig (h : files.saveConfig path c = (.ok (), after)) :
    after.readConfig path = .ok c := by
  obtain ⟨made, bytes, -, hbytes, hwrite⟩ := saveConfig_eq_ok_iff.1 h
  rw [readConfig, content_of_write hwrite, Config.read_of_write hbytes]

theorem exists_grows_of_saveConfig (h : files.saveConfig path c = (.ok (), after)) :
    ∃ made bytes, Grows files made ∧ made.write path bytes = some after := by
  obtain ⟨made, bytes, hmade, -, hwrite⟩ := saveConfig_eq_ok_iff.1 h
  have hgrows := files.grows_makeDirectories path.parent
  rw [hmade] at hgrows
  exact ⟨made, bytes, hgrows, hwrite⟩

/-- Saving a configuration leaves every directory where it is. -/
theorem walk_of_saveConfig {l l' : Location} {parts : List Path.Part}
    (h : files.saveConfig path c = (.ok (), after)) (hwalk : files.walk l parts = some l') :
    after.walk l parts = some l' := by
  obtain ⟨made, bytes, hgrows, hwrite⟩ := exists_grows_of_saveConfig h
  exact walk_of_write hwrite (hgrows.walk hwalk)

/-- **Saving a configuration changes no file with another name**, if its directory was there
before. -/
theorem content_child_of_saveConfig {p q : Path} {name name' : String} {l : Location}
    (h : files.saveConfig (p.child name) c = (.ok (), after))
    (hwalk : files.walk [] q.parts = some l) (hname : name ≠ name') :
    after.content (q.child name') = files.content (q.child name') := by
  obtain ⟨made, bytes, hgrows, hwrite⟩ := exists_grows_of_saveConfig h
  have hne : made.locate (p.child name) ≠ made.locate (q.child name') := by
    rw [locate_child, locate_child, hgrows.walk hwalk]
    cases made.walk [] p.parts with
    | none => exact nofun
    | some l' =>
      intro heq
      exact hname (List.singleton_inj.1 (List.append_inj_right' (Option.some.inj heq) rfl))
  rw [content_child_of_write hwrite hne, hgrows.content_child hwalk]

/-- A configuration that can be written is saved where there is a file. -/
theorem exists_saveConfig_of_content (h : files.content path = some old)
    (hbytes : c.write = .ok bytes) : ∃ after, files.saveConfig path c = (.ok (), after) := by
  obtain ⟨after, hafter⟩ := exists_write_of_content h bytes
  exact ⟨after, saveConfig_eq_ok_iff.2
    ⟨files, bytes, makeDirectories_parent_of_content h, hbytes, hafter⟩⟩

/-- **Saving a configuration over a file** succeeds exactly if every number that it sets is at most
`2 ^ 63 - 1`.  Then the same configuration is read back; otherwise it is reported as one that cannot
be written, and every file is as it was. -/
theorem saveConfig_over_file (c : Config) (h : files.content path = some old) :
    let saved := files.saveConfig path c
    (saved.1 = .ok () ↔ ∀ n ∈ Config.numbers c.choices, n.toNat ≤ Nat.pow 2 63 - 1) ∧
      (saved.1 = .ok () → saved.2.readConfig path = .ok c) ∧
      ∀ e, saved.1 = .error e → e = .unwritable ∧ saved.2 = files := by
  intro saved
  rcases c.write_cases with ⟨⟨bytes, hbytes⟩, hfit⟩ | ⟨herror, hfit⟩
  · obtain ⟨after, hsaved⟩ := exists_saveConfig_of_content h hbytes
    have hresult : saved.1 = .ok () := congrArg Prod.fst hsaved
    refine ⟨iff_of_true hresult hfit, fun _ ↦ ?_, fun e he ↦ absurd (hresult.symm.trans he) nofun⟩
    rw [show saved = _ from hsaved]
    exact readConfig_of_saveConfig hsaved
  · have hsaved : files.saveConfig path c = (.error .unwritable, files) := by
      rw [saveConfig, makeDirectories_parent_of_content h]
      simp only [herror]
    have hresult : saved.1 = .error .unwritable := congrArg Prod.fst hsaved
    refine ⟨iff_of_false (fun hok ↦ absurd (hresult.symm.trans hok) nofun) hfit,
      fun hok ↦ absurd (hresult.symm.trans hok) nofun, fun e he ↦ ⟨?_, congrArg Prod.snd hsaved⟩⟩
    exact (Except.error.inj (hresult.symm.trans he)).symm

/-- A configuration with a section that has no entries is read back over a comment, and the comment
stays if a number is too large. -/
theorem saveConfig_over_comment :
    let path := Path.root.child "config.toml"
    let files := Files.empty.put ["config.toml"] (.file [35])
    let c : Config := { Config.empty with
      titles := some ⟨none, some .primaryScript, some "日\n'本'"⟩, search := some ⟨none⟩ }
    let large : Config := { c with network := some ⟨none, none, some 9223372036854775808⟩ }
    files.content path = some [35] ∧ (files.saveConfig path c).2.readConfig path = .ok c ∧
      (files.saveConfig path large).1 ≠ .ok () := by
  intro path files c large
  have h : files.content path = some [35] := by decide
  have hsaved := saveConfig_over_file c h
  refine ⟨h, hsaved.2.1 (hsaved.1.2 (List.forall_mem_nil _)), fun hok ↦ ?_⟩
  exact absurd ((saveConfig_over_file large h).1.1 hok _ (List.mem_singleton_self _)) (by decide)

end Files

end AnimeLookup
