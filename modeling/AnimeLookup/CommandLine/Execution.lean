import AnimeLookup.Catalog.AniList
import AnimeLookup.CommandLine.Environment
import AnimeLookup.Display.Report
import AnimeLookup.Json.Printer
import AnimeLookup.Lookup.Ladder

/-!
# Carrying out a command

`Command.run` says what a command shows, what it stores, and how it ends.  It works on the files as
a value and reaches the catalog through a transport, so it is the whole program apart from input
and output, and from the two things that a `Toolkit` does.

Two commands ask the catalog, and differ in what they ask for and in how they show the answer.  A
catalog that fails is no failure of the program: there is nothing to show, and that is what it says.
How long questions wait before they are posted is not seen in what comes of a command;
`Catalog.AniList.paced` is about that.
-/

set_option autoImplicit false

namespace AnimeLookup.CommandLine

open Catalog Lookup

/-! ## Endings -/

/-- How a run ends. -/
inductive Ending where
  /-- The command was carried out. -/
  | success
  /-- A configuration could not be used. -/
  | failure (e : ConfigError)
  /-- The words gave no command. -/
  | badUsage
  deriving DecidableEq

/-- The status that is reported. -/
def Ending.code : Ending → Nat
  | success => 0
  | failure _ => 1
  | badUsage => 2

/-- What comes of a run. -/
structure Outcome (τ : Type) where
  /-- How it ended. -/
  ending : Ending
  /-- What was shown. -/
  output : List Char
  /-- The files after it. -/
  files : Files
  /-- The state behind the transport after it. -/
  remote : τ

/-! ## Commands -/

/-- What is shown for the result of a lookup. -/
def showLookup (title : String) (json colour : Bool) (settings : Settings) :
    Except LookupError (Option Media) → List Char
  | .ok (some m) =>
    if json then m.toJson.pretty.toList ++ ['\n']
    else Display.render colour (Display.record m settings)
  | .error .cancelled => Display.render colour Display.cancelled
  | _ => Display.render colour (Display.notFound title)

/-- What is shown for the result of a search. -/
def showSearch (title : String) (colour : Bool) :
    Except LookupError (List SearchResult) → List Char
  | .ok (r :: rest) => Display.render colour (Display.listing (r :: rest))
  | .error .cancelled => Display.render colour Display.cancelled
  | _ => Display.render colour (Display.notFound title)

section

variable {τ : Type} (tools : Toolkit) (env : Environment)
  (connect : NetworkSettings → AniList.Transport τ)

/-- Asking the catalog as planned, and showing what comes of it, with the settings that are chosen
in all places together. -/
def ask {α : Type} (plan : Settings → Plan α)
    (present : Settings → Except LookupError α → List Char) (title : String) (o : LookupOptions)
    (files : Files) (remote : τ) : Outcome τ :=
  match o.allChoices tools env files with
  | .ok choices =>
    let run := (plan choices.settings).run (.of (AniList.backend (connect choices.network))) title
      remote
    ⟨.success, present choices.settings run.result, files, run.state⟩
  | .error e => ⟨.failure e, [], files, remote⟩

/-- Looking a title up. -/
def runLookup (title : String) (id : Option String) (json : Bool) (o : LookupOptions)
    (files : Files) (remote : τ) : Outcome τ :=
  ask tools env connect (fun s ↦ Lookup.lookup s (tokenizerOf tools.nameReader) title id)
    (showLookup title json !o.noColour) title o files remote

/-- Searching for a title. -/
def runSearch (title : String) (id : Option String) (o : LookupOptions) (files : Files)
    (remote : τ) : Outcome τ :=
  ask tools env connect (fun s ↦ Lookup.searchResults s title id)
    (fun _ ↦ showSearch title !o.noColour) title o files remote

/-- **Saving the configuration that applies**, with changes. -/
def initConfig (defaultGenre : Option DefaultGenre) (maxGenres : Option UInt64) (files : Files) :
    Except ConfigError Path × Files :=
  files.savePlatformConfig env.directories
    ((files.load env.directories).withGenres defaultGenre maxGenres)

/-- Saving the configuration, and saying where. -/
def runInitConfig (defaultGenre : Option DefaultGenre) (maxGenres : Option UInt64) (files : Files)
    (remote : τ) : Outcome τ :=
  match initConfig env defaultGenre maxGenres files with
  | (.ok path, files) => ⟨.success, "Wrote ".toList ++ path.text ++ ['\n'], files, remote⟩
  | (.error e, files) => ⟨.failure e, [], files, remote⟩

/-- **What comes of a command.** -/
def Command.run (c : Command) (files : Files) (remote : τ) : Outcome τ :=
  match c with
  | .lookup title id json o => runLookup tools env connect title id json o files remote
  | .search title id o => runSearch tools env connect title id o files remote
  | .compare a b noColour =>
    ⟨.success, Display.render (!noColour) (Display.comparison a b), files, remote⟩
  | .clean title => ⟨.success, Display.render false (Display.forms title), files, remote⟩
  | .initConfig defaultGenre maxGenres => runInitConfig env defaultGenre maxGenres files remote

/-- **What comes of the words of a command.** -/
def runWords (words : List String) (files : Files) (remote : τ) : Outcome τ :=
  match Command.ofWords words with
  | some c => c.run tools env connect files remote
  | none => ⟨.badUsage, [], files, remote⟩

end

end AnimeLookup.CommandLine
