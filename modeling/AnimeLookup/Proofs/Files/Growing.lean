import AnimeLookup.Files.Store

/-!
# What making directories and writing a file leave as it is

Making directories adds directories where nothing was, so every path that could be followed before
leads to the same place (`Grows.walk`), and every file in a directory that was there before has the
same content (`Grows.content_child`).  Writing a file leaves all directories where they are
(`walk_of_write`) and changes the content at its own location only (`content_child_of_write`).
-/

set_option autoImplicit false

namespace AnimeLookup.Files

/-! ## Files in a directory -/

variable {files made after : Files} {l l' : Location} {parts : List Path.Part}

theorem locate_child (files : Files) (p : Path) (name : String) :
    files.locate (p.child name) = (files.walk [] p.parts).map (· ++ [name]) := by
  rw [locate, Path.child, List.dropLast_concat, List.getLast?_concat]
  cases files.walk [] p.parts <;> rfl

theorem content_child {p : Path} (hwalk : files.walk [] p.parts = some l) (name : String) :
    files.content (p.child name) = (files.entry (l ++ [name])).bind Entry.bytes? := by
  rw [content, locate_child, hwalk]
  rfl

/-! ## Making directories -/

/-- **A store that has grown**: everything is still there, and what is new are directories. -/
structure Grows (files after : Files) : Prop where
  /-- What was there is there. -/
  kept : ∀ l e, files.entry l = some e → after.entry l = some e
  /-- No file is new. -/
  noFile : ∀ l bytes, after.entry l = some (.file bytes) → files.entry l = some (.file bytes)

namespace Grows

theorem refl (files : Files) : Grows files files := ⟨fun _ _ h ↦ h, fun _ _ h ↦ h⟩

theorem trans (h : Grows files made) (h' : Grows made after) : Grows files after where
  kept l e he := h'.kept l e (h.kept l e he)
  noFile l bytes hb := h.noFile l bytes (h'.noFile l bytes hb)

/-- A directory where nothing was. -/
theorem put_directory (h : files.entry l = none) : Grows files (files.put l .directory) where
  kept l' e he := by
    have hne : l' ≠ l := by
      rintro rfl
      exact absurd (h.symm.trans he) nofun
    rw [entry_put_of_ne files _ hne, he]
  noFile l' bytes hb := by
    by_cases hl : l' = l
    · rw [hl, entry_put_self] at hb
      exact absurd hb nofun
    · rwa [entry_put_of_ne files _ hl] at hb

/-- **Paths lead where they led.** -/
theorem walk (h : Grows files after) (hwalk : files.walk l parts = some l') :
    after.walk l parts = some l' := by
  induction parts generalizing l with
  | nil => exact hwalk
  | cons part rest ih =>
    rw [Files.walk, List.foldlM_cons] at hwalk ⊢
    obtain ⟨next, hnext, hrest⟩ := Option.bind_eq_some_iff.1 hwalk
    have henter : after.enter l part = some next := by
      rw [enter] at hnext ⊢
      split at hnext
      · rename_i hdirectory
        rw [if_pos (isDirectory_iff.2 (h.kept _ _ (isDirectory_iff.1 hdirectory))), hnext]
      · cases hnext
    rw [henter]
    exact ih hrest

theorem bytes_eq (h : Grows files after) (l : Location) :
    (after.entry l).bind Entry.bytes? = (files.entry l).bind Entry.bytes? := by
  cases hfiles : files.entry l with
  | some e => rw [h.kept l e hfiles]
  | none =>
    cases hafter : after.entry l with
    | none => rfl
    | some e =>
      cases e with
      | directory => rfl
      | file bytes => exact absurd (hfiles.symm.trans (h.noFile l bytes hafter)) nofun

/-- **Files in directories that were there have their content.** -/
theorem content_child (h : Grows files after) {p : Path} (hwalk : files.walk [] p.parts = some l)
    (name : String) : after.content (p.child name) = files.content (p.child name) := by
  rw [Files.content_child (h.walk hwalk), Files.content_child hwalk, h.bytes_eq]

end Grows

theorem grows_makeAlong (files : Files) (l : Location) (parts : List Path.Part) :
    Grows files (files.makeAlong l parts).2 := by
  induction parts generalizing files l with
  | nil => exact Grows.refl files
  | cons part rest ih =>
    rw [makeAlong]
    split
    · exact ih files _
    · exact Grows.refl files
    · rename_i hnothing
      exact (Grows.put_directory hnothing).trans (ih _ _)

/-- **Making directories only adds directories**, also if a file stops it. -/
theorem grows_makeDirectories (files : Files) (path : Path) :
    Grows files (files.makeDirectories path).2 :=
  grows_makeAlong files [] path.parts

/-! ## Writing a file -/

theorem walk_of_write {path : Path} {bytes : List UInt8}
    (hwrite : files.write path bytes = some after) (hwalk : files.walk l parts = some l') :
    after.walk l parts = some l' := by
  obtain ⟨place, -, hput⟩ := Option.bind_eq_some_iff.1 hwrite
  split at hput
  · cases hput
  · rename_i hdirectory
    cases hput
    have henter : (files.put place (.file bytes)).enter = files.enter := by
      funext l part
      rw [enter, enter, isDirectory_put_file bytes (Bool.eq_false_iff.2 hdirectory)]
    rw [walk, henter]
    exact hwalk

/-- **Writing a file changes no other file.** -/
theorem content_child_of_write {path : Path} {name : String} {bytes : List UInt8}
    (hwrite : files.write path bytes = some after) {p : Path}
    (hne : files.locate path ≠ files.locate (p.child name)) :
    after.content (p.child name) = files.content (p.child name) := by
  obtain ⟨l, hl, hput⟩ := Option.bind_eq_some_iff.1 hwrite
  split at hput
  · cases hput
  · rename_i hdirectory
    cases hput
    have hlocate := locate_congr (isDirectory_put_file bytes (Bool.eq_false_iff.2 hdirectory))
      (p.child name)
    rw [content, hlocate, content]
    cases hother : files.locate (p.child name) with
    | none => rfl
    | some l' =>
      have hl' : l' ≠ l := fun h ↦ hne (by rw [hl, hother, h])
      simp only [Option.bind_some, entry_put_of_ne files _ hl']

end AnimeLookup.Files
