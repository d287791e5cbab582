import AnimeLookup.CommandLine.Run

/-!
# The program

Reads the files that a command may need, runs it, and writes out what it shows and what it stores.
Everything that is decided is decided by `CommandLine.run`.

There is no connection to a network here, so the catalog never answers.
-/

set_option autoImplicit false

namespace AnimeLookup.Program

open CommandLine

/-- The transport that reaches nobody. -/
def offline : Catalog.AniList.Transport Unit := fun _ st ↦ (none, st)

/-- The path of a location, as the system takes it. -/
def systemPath (l : Location) : String := "/" ++ "/".intercalate l

/-- What the system has at a location, if it can be read. -/
def entryAt (l : Location) : IO (Option Entry) := do
  try
    let _ ← IO.FS.realPath ⟨systemPath l ++ "/."⟩
    return some .directory
  catch _ =>
    try
      return some (.file (← IO.FS.readBinFile ⟨systemPath l⟩).toList)
    catch _ => return none

/-- The store with what the system has on the way to a path and at its end. -/
def observe (files : Files) (path : Path) : IO Files :=
  path.locations.foldlM (fun files l ↦ do
    match ← entryAt l with
    | some e => return files.put l e
    | none => return files) files

/-- Makes the system have at a location what a store has there. -/
def store (files : Files) (l : Location) : IO Unit :=
  match files.entry l with
  | some .directory => IO.FS.createDirAll ⟨systemPath l⟩
  | some (.file bytes) => IO.FS.writeBinFile ⟨systemPath l⟩ ⟨bytes.toArray⟩
  | none => pure ()

/-- The directory that the platform keeps for configurations. -/
def configDirectory : IO (Option Path) := do
  let chosen := (← IO.getEnv "XDG_CONFIG_HOME").filter (·.toList.head? = some '/')
  if let some directory := chosen then return some (Path.ofText .root directory)
  return (← IO.getEnv "HOME").map fun home ↦ (Path.ofText .root home).child ".config"

/-- The variables among the given ones that are set. -/
def assigned (names : List String) : IO Bindings := do
  let values ← names.mapM fun name ↦ return (← IO.getEnv name).map (name, ·)
  return values.filterMap id

/-- What a run depends on.  Of the variables, those count that the file of variables may mention. -/
def environment : IO Environment := do
  let working := Path.ofText .root (← IO.currentDir).toString
  let files ← (Variables.places working).foldlM observe .empty
  let names := Variables.mentioned
    (Variables.readable ((Variables.nearest working files).getD []))
  return ⟨⟨working, ← configDirectory⟩, ← assigned (Environment.localeVariable :: names)⟩

/-- The files that the words of a command may need. -/
def neededFiles (env : Environment) (words : List String) : List Path :=
  let named := (Command.ofWords words).bind Command.configFile
  Variables.places env.directories.working ++ env.directories.localFile ::
    (env.directories.platformFile.toList ++
      (named.map (Path.ofText env.directories.working)).toList)

/-- Explains how a run ended, unless it went well. -/
def explain : Ending → IO Unit
  | .success => pure ()
  | .failure e => IO.eprintln ("Error: " ++ e.message)
  | .badUsage => IO.eprintln "Usage: animatch <lookup|search|compare|clean|init-config> ..."

end AnimeLookup.Program

open AnimeLookup in
/-- Runs the command that is given. -/
def main (words : List String) : IO UInt32 := do
  let env ← Program.environment
  let files ← (Program.neededFiles env words).foldlM Program.observe Files.empty
  let outcome := CommandLine.run env (fun _ ↦ Program.offline) words files ()
  for l in env.directories.platformFile.toList.flatMap Path.locations do
    if outcome.files.entry l ≠ files.entry l then Program.store outcome.files l
  IO.print (String.ofList outcome.output)
  Program.explain outcome.ending
  return UInt32.ofNat outcome.ending.code
