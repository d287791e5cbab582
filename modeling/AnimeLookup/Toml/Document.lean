import AnimeLookup.Toml.Basic

/-!
# From statements to a table

A TOML document is a list of statements: headers, which say which table is filled from now on, and
entries, which fill it.  Both may name tables by a dotted path, and the same table may be named
several times, but not *defined* several times.  What counts as a definition depends on how a table
came about, so a table under construction remembers its `Origin`.

* A table named by a header is `declared`.  It cannot be declared again, nor be reached by the
  dotted keys of another table's entries.
* A table that only leads to one named by a header is `implied`.  It can still be declared, once.
* A table made by dotted keys is `dotted`.  Dotted keys may add to it, headers may not declare it,
  but may name tables within it.

An array of tables gets a new element with every header, and a path that leads through it continues
in the last element.  Values that are complete, inline tables among them, cannot be added to.
-/

set_option autoImplicit false

namespace AnimeLookup.Toml

/-- How a table came about. -/
inductive Origin where
  /-- It was named by a header. -/
  | declared
  /-- It leads to a table that was named by a header. -/
  | implied
  /-- It was made by dotted keys. -/
  | dotted
  deriving DecidableEq

/-- A part of a document under construction. -/
inductive Node where
  /-- A complete value. -/
  | value (v : Toml)
  /-- A table. -/
  | table (origin : Origin) (entries : List (String × Node))
  /-- An array of tables. -/
  | tables (elements : List (List (String × Node)))

/-- The entries of a table under construction. -/
abbrev Entries := List (String × Node)

/-! ## Finished tables -/

mutual

/-- The value of a part of a document. -/
def Node.toToml : Node → Toml
  | .value v => v
  | .table _ entries => .table (entriesToToml entries)
  | .tables elements => .array (elementsToToml elements)

/-- The values of the entries of a table. -/
def entriesToToml : List (String × Node) → List (String × Toml)
  | [] => []
  | (key, node) :: rest => (key, node.toToml) :: entriesToToml rest

/-- The values of the elements of an array of tables. -/
def elementsToToml : List (List (String × Node)) → List Toml
  | [] => []
  | entries :: rest => .table (entriesToToml entries) :: elementsToToml rest

end

/-! ## Following a path -/

/-- The entries with another part under a key that they have. -/
def replaceEntry (key : String) (node : Node) (entries : Entries) : Entries :=
  entries.map fun (k, n) ↦ if k = key then (k, node) else (k, n)

/-- The table at the end of a path changed by `f`, which may fail and may find something out.
Tables that are missing on the way are made, with the given origin. -/
def descend {α : Type} (made : Origin) (f : Origin → Entries → Option (α × Entries)) :
    List String → Origin → Entries → Option (α × Entries)
  | [], origin, entries => f origin entries
  | key :: path, _, entries =>
    match entries.lookup key with
    | none => do
      let (a, inner) ← descend made f path made []
      return (a, entries ++ [(key, .table made inner)])
    | some (.value _) => none
    | some (.table origin inner) =>
      if made = .dotted && origin = .declared then none
      else do
        let (a, inner) ← descend made f path origin inner
        return (a, replaceEntry key (.table origin inner) entries)
    | some (.tables elements) => do
      let last ← elements.getLast?
      let (a, last) ← descend made f path .declared last
      return (a, replaceEntry key (.tables (elements.dropLast ++ [last])) entries)

/-! ## Entries -/

/-- The table with one more entry, whose key it does not have yet. -/
def addEntry (key : String) (node : Node) (entries : Entries) : Option Entries :=
  if (entries.lookup key).isSome then none else some (entries ++ [(key, node)])

/-- **The table with a value** under a dotted key, of which `path` is all but the last part. -/
def insertValue (path : List String) (key : String) (v : Toml) (entries : Entries) :
    Option Entries :=
  (descend .dotted (fun origin inner ↦
    if (origin = .dotted) = path.isEmpty then none
    else (addEntry key (.value v) inner).map ((), ·)) path .declared entries).map Prod.snd

/-- The inline table with the given entries. -/
def inlineTable (pairs : List (List String × String × Toml)) : Option Toml :=
  (pairs.foldlM (fun entries (path, key, v) ↦ insertValue path key v entries) []).map
    fun entries ↦ .table (entriesToToml entries)

/-! ## Documents -/

/-- A statement of a document.  The last part of its key stands apart from the path to it. -/
inductive Statement where
  /-- A value under a key. -/
  | entry (path : List String) (key : String) (v : Toml)
  /-- The header of a table. -/
  | header (path : List String) (key : String)
  /-- The header of an element of an array of tables. -/
  | element (path : List String) (key : String)

/-- Where the table that is being filled belongs. -/
inductive Place where
  /-- It is the document. -/
  | top
  /-- It is a table in the document. -/
  | table (path : List String) (key : String)
  /-- It is an element of an array of tables in the document. -/
  | element (path : List String) (key : String)

/-- A document under construction. -/
structure Builder where
  /-- The document without the table that is being filled. -/
  document : Entries
  /-- The table that is being filled. -/
  current : Entries
  /-- Where that table belongs. -/
  place : Place

namespace Builder

/-- The document before any statement. -/
def empty : Builder := ⟨[], [], .top⟩

/-- An array of tables with one more element, in the table that has the array or gets it. -/
def addElement (key : String) (element : Entries) (entries : Entries) : Option Entries :=
  match entries.lookup key with
  | none => some (entries ++ [(key, .tables [element])])
  | some (.tables elements) => some (replaceEntry key (.tables (elements ++ [element])) entries)
  | some _ => none

/-- The document with the table that was being filled in its place. -/
def close (b : Builder) : Option Entries :=
  match b.place with
  | .top => some b.current
  | .table path key =>
    (descend .implied (fun _ entries ↦
      (addEntry key (.table .declared b.current) entries).map ((), ·)) path .declared
      b.document).map Prod.snd
  | .element path key =>
    (descend .implied (fun _ entries ↦ (addElement key b.current entries).map ((), ·)) path
      .declared b.document).map Prod.snd

/-- The entries that a table starts with when it is declared: those of an implied table, which is
taken out of the document for the time being. -/
def takeImplied (key : String) (entries : Entries) : Option (Entries × Entries) :=
  match entries.lookup key with
  | none => some ([], entries)
  | some (.table .implied inner) => some (inner, entries.filter (·.1 ≠ key))
  | some _ => none

/-- The document with a statement added. -/
def add (b : Builder) : Statement → Option Builder
  | .entry path key v => do
    let current ← insertValue path key v b.current
    return { b with current }
  | .header path key => do
    let (current, document) ←
      descend .implied (fun _ entries ↦ takeImplied key entries) path .declared (← b.close)
    return ⟨document, current, .table path key⟩
  | .element path key => do
    return ⟨← b.close, [], .element path key⟩

end Builder

/-- **The table that a list of statements describes**, if they do not contradict each other. -/
def ofStatements (statements : List Statement) : Option Toml := do
  let b ← statements.foldlM Builder.add .empty
  return .table (entriesToToml (← b.close))

end AnimeLookup.Toml
