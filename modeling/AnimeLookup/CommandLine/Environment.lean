import AnimeLookup.CommandLine.Command
import AnimeLookup.Config.Files
import AnimeLookup.Title.Filename

/-!
# What a command depends on

Besides its words, a command depends on where it is run: on the directories in which its files are,
and on the variables that are set.  It also depends on two things that are done by others, which are
gathered in a `Toolkit`.  Nothing is decided here about how these do their work; where it matters,
what is known of them is a hypothesis (`Toolkit.SearchesUpward`).

A setting is chosen on the command line, in the environment, and in the configuration files, in
this order of precedence.  A configuration file that is named on the command line replaces the
others, and since somebody asked for it, it has to be usable.
-/

set_option autoImplicit false

namespace AnimeLookup.CommandLine

/-! ## Surroundings -/

/-- Variables with their values.  The first value of a variable is the one that it has. -/
abbrev Bindings := List (String × String)

/-- What a run depends on besides the command, the files and the catalog. -/
structure Environment where
  /-- Where the files without names are, while the program runs. -/
  directories : Directories
  /-- The variables that are set when the program is started. -/
  assigned : Bindings

/-- What is done by others. -/
structure Toolkit where
  /-- Loading a file of variables.  It is looked for from a directory on, and gives the variables
  that are set then, where some have been set before. -/
  loadVariables : Path → Files → Bindings → Bindings
  /-- Reading the names of files. -/
  nameReader : Title.NameReader

/-- **What is known of the loading of variables.**  It looks for a file called `.env`, in the
directory in which the program runs and in every one above it, and it never changes a variable. -/
structure Toolkit.SearchesUpward (tools : Toolkit) : Prop where
  /-- A variable that is set keeps its value. -/
  keeps : ∀ directory files assigned name value, assigned.lookup name = some value →
    (tools.loadVariables directory files assigned).lookup name = some value
  /-- If there is no such file, nothing is set. -/
  absent : ∀ directory files assigned,
    (∀ n, files.content (Path.child ⟨directory.parts.take n, true⟩ ".env") = none) →
      ∀ name, (tools.loadVariables directory files assigned).lookup name = assigned.lookup name

/-! ## Sources of settings -/

section

variable (tools : Toolkit)

namespace Environment

/-- The name of the variable for the language of the metadata. -/
def localeVariable : String := "ANIMATCH_LOCALE"

/-- The variables that are set while the program runs. -/
def bindings (env : Environment) (files : Files) : Bindings :=
  tools.loadVariables env.directories.working files env.assigned

/-- The language of the metadata, from its variable. -/
def chosenLocale (env : Environment) (files : Files) : Option String :=
  (env.bindings tools files).lookup localeVariable

/-- What the environment says about the settings. -/
def choices (env : Environment) (files : Files) : Choices :=
  { Choices.none with locale := env.chosenLocale tools files }

end Environment

/-- What the command line says about the settings.  The tokenizer can only be switched on. -/
def LookupOptions.choices (o : LookupOptions) : Choices :=
  { Choices.none with
    titlePreference := o.titlePreference
    locale := o.locale
    useTitleTokenizer := if o.tokenizer then some true else none }

/-- The configuration that applies: the one in the file that is named, or else the one in the files
without names. -/
def LookupOptions.configuration (o : LookupOptions) (env : Environment) (files : Files) :
    Except ConfigError Config :=
  match o.config with
  | some path => files.readConfig (Path.ofText env.directories.working path)
  | none => .ok (files.load env.directories)

/-- **What is chosen in all places together.** -/
def LookupOptions.allChoices (o : LookupOptions) (env : Environment) (files : Files) :
    Except ConfigError Choices :=
  (o.configuration env files).map fun config ↦
    o.choices.above ((env.choices tools files).above config.choices)

end

end AnimeLookup.CommandLine
