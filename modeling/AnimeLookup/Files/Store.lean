import AnimeLookup.Files.Path

/-!
# Files and directories

`Files` says what is at each location.  A path is followed from the root, and every part of it but
the last has to lead to a directory: `Files.walk` follows the parts, and `Files.locate` is the
location at the end of a path, at which there need not be anything yet.  So what is at a location
can only be seen if directories lead to it.

Three operations work on paths.  `Files.content` reads a file, `Files.write` stores one in a
directory that is there, and `Files.makeDirectories` makes the directories of a path that are
missing.  The lemmas say that what has been written is read back, and that where a file is, there
is no directory to make.
-/

set_option autoImplicit false

namespace AnimeLookup

/-- What can be at a location. -/
inductive Entry where
  /-- A file, with its content. -/
  | file (bytes : List UInt8)
  /-- A directory. -/
  | directory
  deriving DecidableEq

/-- The content of a file. -/
def Entry.bytes? : Entry → Option (List UInt8)
  | file bytes => some bytes
  | directory => none

/-- A store of files and directories. -/
structure Files where
  /-- What is at a location, if there is anything. -/
  entry : Location → Option Entry

namespace Files

/-- The store that has only the root. -/
def empty : Files := ⟨fun l ↦ if l = [] then some .directory else none⟩

/-- The store with something at a location. -/
def put (files : Files) (l : Location) (e : Entry) : Files :=
  ⟨fun l' ↦ if l' = l then some e else files.entry l'⟩

/-- The store with nothing at a location. -/
def erase (files : Files) (l : Location) : Files :=
  ⟨fun l' ↦ if l' = l then none else files.entry l'⟩

theorem entry_put_self (files : Files) (l : Location) (e : Entry) :
    (files.put l e).entry l = some e := if_pos rfl

theorem entry_put_of_ne (files : Files) {l l' : Location} (e : Entry) (h : l' ≠ l) :
    (files.put l e).entry l' = files.entry l' := if_neg h

/-- Whether there is a directory at a location. -/
def isDirectory (files : Files) (l : Location) : Bool := files.entry l = some .directory

theorem isDirectory_iff {files : Files} {l : Location} :
    files.isDirectory l = true ↔ files.entry l = some .directory := decide_eq_true_iff

/-! ## Following a path -/

/-- The location that a part leads to, if there is a directory. -/
def enter (files : Files) (l : Location) (part : Path.Part) : Option Location :=
  if files.isDirectory (l.follow part) then some (l.follow part) else none

/-- The location that parts lead to, if all of them lead to directories. -/
def walk (files : Files) (l : Location) (parts : List Path.Part) : Option Location :=
  parts.foldlM files.enter l

/-- **The location at the end of a path**, if directories lead there.  A path that ends like that
of a directory has to lead to one. -/
def locate (files : Files) (path : Path) : Option Location := do
  let directory ← files.walk [] path.parts.dropLast
  let l := path.parts.getLast?.elim directory directory.follow
  if path.ofDirectory && !files.isDirectory l then none else some l

/-- **The content of the file at a path**, if there is one. -/
def content (files : Files) (path : Path) : Option (List UInt8) :=
  ((files.locate path).bind files.entry).bind Entry.bytes?

/-! ## Changing the store -/

/-- **The store with a file written to a path**, unless there is a directory or none leads there. -/
def write (files : Files) (path : Path) (bytes : List UInt8) : Option Files := do
  let l ← files.locate path
  if files.isDirectory l then none else some (files.put l (.file bytes))

/-- The store without the file at a path, if there is one. -/
def remove (files : Files) (path : Path) : Option Files := do
  let l ← files.locate path
  let _ ← (files.entry l).bind Entry.bytes?
  return files.erase l

/-- Makes the directories that parts lead to from a location, unless they are there.  Tells whether
all of them are there in the end; a file in the place of one stops the work. -/
def makeAlong (files : Files) (l : Location) : List Path.Part → Bool × Files
  | [] => (true, files)
  | part :: rest =>
    match files.entry (l.follow part) with
    | some .directory => makeAlong files (l.follow part) rest
    | some (.file _) => (false, files)
    | none => makeAlong (files.put (l.follow part) .directory) (l.follow part) rest

/-- **The store with the directories of a path**, and whether all of them could be made. -/
def makeDirectories (files : Files) (path : Path) : Bool × Files := files.makeAlong [] path.parts

/-! ## Laws -/

theorem isDirectory_put_file {files : Files} {l : Location} (bytes : List UInt8)
    (h : files.isDirectory l = false) (l' : Location) :
    (files.put l (.file bytes)).isDirectory l' = files.isDirectory l' := by
  by_cases hl : l' = l
  · subst hl
    rw [h, isDirectory, entry_put_self]
    rfl
  · rw [isDirectory, entry_put_of_ne files _ hl, isDirectory]

/-- Where a path leads depends on the directories only. -/
theorem locate_congr {files files' : Files} (h : ∀ l, files'.isDirectory l = files.isDirectory l)
    (path : Path) : files'.locate path = files.locate path := by
  have henter : files'.enter = files.enter := by
    funext l part
    rw [enter, enter, h]
  simp only [locate, walk, henter, h]

/-- **What has been written is read back.** -/
theorem content_of_write {files after : Files} {path : Path} {bytes : List UInt8}
    (h : files.write path bytes = some after) : after.content path = some bytes := by
  obtain ⟨l, hl, hput⟩ := Option.bind_eq_some_iff.1 h
  split at hput
  · cases hput
  · rename_i hdirectory
    cases hput
    rw [content, locate_congr (isDirectory_put_file bytes (Bool.eq_false_iff.2 hdirectory)), hl]
    simp [entry_put_self, Entry.bytes?]

theorem makeAlong_of_walk {files : Files} {l l' : Location} {parts : List Path.Part}
    (h : files.walk l parts = some l') : files.makeAlong l parts = (true, files) := by
  induction parts generalizing l with
  | nil => rfl
  | cons part rest ih =>
    rw [walk, List.foldlM_cons] at h
    obtain ⟨next, hnext, hrest⟩ := Option.bind_eq_some_iff.1 h
    rw [enter] at hnext
    split at hnext
    · rename_i hdirectory
      cases hnext
      rw [makeAlong, isDirectory_iff.1 hdirectory]
      exact ih hrest
    · cases hnext

/-- **Where a file is, there is no directory to make.** -/
theorem makeDirectories_parent_of_content {files : Files} {path : Path} {bytes : List UInt8}
    (h : files.content path = some bytes) : files.makeDirectories path.parent = (true, files) := by
  obtain ⟨e, he, _⟩ := Option.bind_eq_some_iff.1 h
  obtain ⟨l, hl, _⟩ := Option.bind_eq_some_iff.1 he
  obtain ⟨directory, hwalk, _⟩ := Option.bind_eq_some_iff.1 hl
  exact makeAlong_of_walk hwalk

/-- **A file can be written over.** -/
theorem exists_write_of_content {files : Files} {path : Path} {bytes : List UInt8}
    (h : files.content path = some bytes) (bytes' : List UInt8) :
    ∃ after, files.write path bytes' = some after := by
  obtain ⟨e, he, hbytes⟩ := Option.bind_eq_some_iff.1 h
  obtain ⟨l, hl, hentry⟩ := Option.bind_eq_some_iff.1 he
  have hdirectory : files.isDirectory l = false := by
    rw [isDirectory, hentry]
    cases e with
    | file => rfl
    | directory => cases hbytes
  exact ⟨_, by rw [write, hl]; simp [hdirectory]; rfl⟩

end Files

end AnimeLookup
