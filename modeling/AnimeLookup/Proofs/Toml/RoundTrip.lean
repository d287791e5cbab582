import AnimeLookup.Proofs.Toml.WrittenStatements

/-!
# Reading what was written

Sections that are written and read again are the table of these sections (`read_write`), in their
order and with nothing added.

While the statements of a section are worked off, its table is under construction and the ones
before it are complete.  So a statement about the builder has two parts: what it has under
construction, and what the document would be if that were put in its place (`Builder.close`).
-/

set_option autoImplicit false

namespace AnimeLookup.Toml

/-! ## Entries with new keys -/

section Entries

variable {α : Type} {key : String} {entries : List (String × α)}

theorem lookup_eq_none (h : key ∉ entries.map Prod.fst) : entries.lookup key = none := by
  rw [List.lookup_eq_none_iff]
  intro e he
  exact bne_iff_ne.mpr fun heq ↦ h (heq ▸ List.mem_map_of_mem he)

theorem addEntry_of_not_mem {entries : Entries} (node : Node) (h : key ∉ entries.map Prod.fst) :
    addEntry key node entries = some (entries ++ [(key, node)]) := by
  rw [addEntry, lookup_eq_none h]
  rfl

theorem insertValue_of_not_mem {entries : Entries} (v : Toml) (h : key ∉ entries.map Prod.fst) :
    insertValue [] key v entries = some (entries ++ [(key, .value v)]) := by
  have hadd := addEntry_of_not_mem (.value v) h
  rw [insertValue, descend, if_neg (by simp), hadd]
  rfl

end Entries

/-! ## A section -/

namespace Section

/-- An entry of a section, as a part of a document. -/
def entryNode (e : String × Scalar) : String × Node := (e.1, .value e.2.toToml)

/-- A section, as a part of a document. -/
def node (s : Section) : String × Node := (s.name, .table .declared (s.entries.map entryNode))

end Section

namespace Builder

/-- The entries of a section are put behind those that the table has. -/
theorem foldlM_entries {entries : List (String × Scalar)} {b : Builder}
    (h : (b.current.map Prod.fst ++ entries.map Prod.fst).Nodup) :
    (entries.map Section.entryStatement).foldlM add b =
      some { b with current := b.current ++ entries.map Section.entryNode } := by
  induction entries generalizing b with
  | nil => simp
  | cons e rest ih =>
    have hnew : e.1 ∉ b.current.map Prod.fst := fun hmem ↦
      (List.nodup_append.mp h).2.2 _ hmem _ List.mem_cons_self rfl
    have hadd : b.add (Section.entryStatement e) =
        some { b with current := b.current ++ [Section.entryNode e] } := by
      rw [Section.entryStatement, add.eq_def]
      simp only [insertValue_of_not_mem _ hnew, Option.bind_eq_bind, Option.bind_some]
      rfl
    rw [List.map_cons, List.foldlM_cons, hadd, Option.bind_eq_bind, Option.bind_some, ih]
    · simp
    · simpa [Section.entryNode] using h

/-- A header begins a new table. -/
theorem add_header {b : Builder} {document : Entries} {name : String}
    (hclose : b.close = some document) (hnew : name ∉ document.map Prod.fst) :
    b.add (.header [] name) = some ⟨document, [], .table [] name⟩ := by
  have htake : takeImplied name document = some ([], document) := by
    rw [takeImplied, lookup_eq_none hnew]
  rw [add, hclose, Option.bind_eq_bind, Option.bind_some, descend, htake]
  rfl

/-- **A section is put behind what the document has.** -/
theorem foldlM_section {s : Section} {b : Builder} {document : Entries}
    (hclose : b.close = some document) (hnew : s.name ∉ document.map Prod.fst)
    (hkeys : (s.entries.map Prod.fst).Nodup) :
    ∃ b', s.statements.foldlM add b = some b' ∧ b'.close = some (document ++ [s.node]) := by
  refine ⟨⟨document, s.entries.map Section.entryNode, .table [] s.name⟩, ?_, ?_⟩
  · rw [Section.statements, List.foldlM_cons, add_header hclose hnew, Option.bind_eq_bind,
      Option.bind_some, foldlM_entries (by simpa using hkeys)]
    rfl
  · have hadd := addEntry_of_not_mem (.table .declared (s.entries.map Section.entryNode)) hnew
    rw [close]
    simp only [descend, hadd]
    rfl

/-- **Sections are put behind what the document has**, in their order. -/
theorem foldlM_sections {sections : List Section} {b : Builder} {document : Entries}
    (hclose : b.close = some document)
    (hnames : (document.map Prod.fst ++ sections.map Section.name).Nodup)
    (hkeys : ∀ s ∈ sections, (s.entries.map Prod.fst).Nodup) :
    ∃ b', (sections.flatMap Section.statements).foldlM add b = some b' ∧
      b'.close = some (document ++ sections.map Section.node) := by
  induction sections generalizing b document with
  | nil => exact ⟨b, rfl, by rw [hclose, List.map_nil, List.append_nil]⟩
  | cons s rest ih =>
    obtain ⟨hs, hrest⟩ := List.forall_mem_cons.mp hkeys
    have hnew : s.name ∉ document.map Prod.fst := fun hmem ↦
      (List.nodup_append.mp hnames).2.2 _ hmem _ List.mem_cons_self rfl
    obtain ⟨b₁, hfold, hclose₁⟩ := foldlM_section hclose hnew hs
    obtain ⟨b₂, hfold₂, hclose₂⟩ := ih hclose₁ (by simpa [Section.node] using hnames) hrest
    refine ⟨b₂, ?_, by simpa using hclose₂⟩
    rw [List.flatMap_cons, List.foldlM_append, hfold, Option.bind_eq_bind, Option.bind_some, hfold₂]

end Builder

/-! ## A document -/

theorem entriesToToml_entryNode (entries : List (String × Scalar)) :
    entriesToToml (entries.map Section.entryNode) = entries.map fun (k, v) ↦ (k, v.toToml) := by
  induction entries with
  | nil => rfl
  | cons e rest ih => rw [List.map_cons, List.map_cons, ← ih]; rfl

theorem entriesToToml_node (sections : List Section) :
    entriesToToml (sections.map Section.node) = sections.map fun s ↦ (s.name, s.toToml) := by
  induction sections with
  | nil => rfl
  | cons s rest ih =>
    rw [List.map_cons, List.map_cons, ← ih, Section.toToml, ← entriesToToml_entryNode]
    rfl

/-- **Sections that can be told apart**, as can the entries of each. -/
structure AreDistinct (sections : List Section) : Prop where
  /-- No two sections have the same name. -/
  names : (sections.map Section.name).Nodup
  /-- No two entries of a section have the same key. -/
  keys : ∀ s ∈ sections, (s.entries.map Prod.fst).Nodup

theorem ofStatements_sections {sections : List Section} (h : AreDistinct sections) :
    ofStatements (sections.flatMap Section.statements) =
      some (.table (sections.map fun s ↦ (s.name, s.toToml))) := by
  have hclose : Builder.empty.close = some [] := rfl
  obtain ⟨b, hfold, hclose⟩ := Builder.foldlM_sections hclose (by simpa using h.names) h.keys
  rw [List.nil_append] at hclose
  rw [ofStatements, hfold, Option.bind_eq_bind, Option.bind_some, hclose, Option.bind_eq_bind,
    Option.bind_some, entriesToToml_node]
  rfl

theorem dropByteOrderMark_write {sections : List Section} {text : List Char}
    (h : write sections = some text) : dropByteOrderMark text = text := by
  unfold write at h
  split at h
  · cases sections with
    | nil => cases h; rfl
    | cons s rest => cases h; rfl
  · cases h

/-- **Sections that are written can be read again.** -/
theorem read_write {sections : List Section} {text : List Char} (hbare : ∀ s ∈ sections, s.IsBare)
    (hdistinct : AreDistinct sections) (h : write sections = some text) :
    read text = some (.table (sections.map fun s ↦ (s.name, s.toToml))) := by
  rw [read, dropByteOrderMark_write h, statements_of hbare h, Option.bind_some,
    ofStatements_sections hdistinct]

end AnimeLookup.Toml
