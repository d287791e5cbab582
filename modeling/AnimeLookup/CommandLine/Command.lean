import AnimeLookup.CommandLine.Arguments
import AnimeLookup.Settings
import AnimeLookup.Text.Numeral

/-!
# Commands

The program is told what to do by the name of a command and its arguments.  `Command.ofWords` reads
such a command; every way in which the words can be wrong comes to the same, since all that is done
about it is to explain the usage.
-/

set_option autoImplicit false

namespace AnimeLookup.CommandLine

/-- What the commands that ask the catalog can be told besides what to look for. -/
structure LookupOptions where
  /-- The configuration file to use instead of the ones without names. -/
  config : Option String
  /-- Which title is shown. -/
  titlePreference : Option TitlePreference
  /-- The language of the metadata. -/
  locale : Option String
  /-- Whether the title is to be taken for the name of a file. -/
  tokenizer : Bool
  /-- Whether nothing is to be shown in colour. -/
  noColour : Bool
  deriving DecidableEq

/-- A command. -/
inductive Command where
  /-- Show the record for a title or an identifier, perhaps as JSON. -/
  | lookup (title : String) (id : Option String) (json : Bool) (options : LookupOptions)
  /-- List everything for a title, and for an identifier. -/
  | search (title : String) (id : Option String) (options : LookupOptions)
  /-- Tell whether two titles mean the same work. -/
  | compare (a b : String) (noColour : Bool)
  /-- Show all forms of a title. -/
  | clean (title : String)
  /-- Save the configuration in the directory for configurations, with changes. -/
  | initConfig (defaultGenre : Option DefaultGenre) (maxGenres : Option UInt64)
  deriving DecidableEq

namespace LookupOptions

/-- The flags of the commands that ask the catalog. -/
def flags : List String := ["tokenizer", "no-color"]

/-- The options of the commands that ask the catalog. -/
def options : List String := ["config", "title-preference", "locale", "id"]

/-- A text that is not empty. -/
def readNonempty (s : String) : Option String := if s = "" then none else some s

/-- What is told to a command that asks the catalog. -/
def ofArguments (a : Arguments) : Option LookupOptions := do
  return {
    config := ← a.optionBy "config" readNonempty
    titlePreference := ← a.optionBy "title-preference" fun s ↦ (TitlePreference.ofWord s).toOption
    locale := a.option "locale"
    tokenizer := a.hasFlag "tokenizer"
    noColour := a.hasFlag "no-color" }

end LookupOptions

namespace Command

/-- A number of genres. -/
def readCount (s : String) : Option UInt64 :=
  (Text.readUnsigned UInt64.size s.toList).map UInt64.ofNat

/-- The command that looks a title up. -/
def readLookup (words : List String) : Option Command := do
  let a ← Arguments.read ⟨"json" :: LookupOptions.flags, LookupOptions.options, 1⟩ words
  return .lookup (← a.positionals[0]?) (a.option "id") (a.hasFlag "json")
    (← LookupOptions.ofArguments a)

/-- The command that searches for a title. -/
def readSearch (words : List String) : Option Command := do
  let a ← Arguments.read ⟨LookupOptions.flags, LookupOptions.options, 1⟩ words
  return .search (← a.positionals[0]?) (a.option "id") (← LookupOptions.ofArguments a)

/-- The command that compares two titles. -/
def readCompare (words : List String) : Option Command := do
  let a ← Arguments.read ⟨["no-color"], [], 2⟩ words
  return .compare (← a.positionals[0]?) (← a.positionals[1]?) (a.hasFlag "no-color")

/-- The command that shows the forms of a title. -/
def readClean (words : List String) : Option Command := do
  let a ← Arguments.read ⟨[], [], 1⟩ words
  return .clean (← a.positionals[0]?)

/-- The command that saves the configuration. -/
def readInitConfig (words : List String) : Option Command := do
  let a ← Arguments.read ⟨[], ["default-genre", "max-genres"], 0⟩ words
  return .initConfig (← a.optionBy "default-genre" fun s ↦ (DefaultGenre.ofWord s).toOption)
    (← a.optionBy "max-genres" readCount)

/-- **The command that words give**, if they give one. -/
def ofWords : List String → Option Command
  | "lookup" :: words => readLookup words
  | "search" :: words => readSearch words
  | "compare" :: words => readCompare words
  | "clean" :: words => readClean words
  | "init-config" :: words => readInitConfig words
  | _ => none

/-- The configuration file that a command names, if it names one. -/
def configFile : Command → Option String
  | .lookup _ _ _ options => options.config
  | .search _ _ options => options.config
  | _ => none

end Command

end AnimeLookup.CommandLine
