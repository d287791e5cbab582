/-!
# Settings

What a person can choose: which of a work's titles to show, how genres and cast are listed, and how
the catalog is reached.  A lookup takes its settings as a value; nothing here changes while the
program runs.

The two choices that are made from a fixed vocabulary, `TitlePreference` and `DefaultGenre`, each
have one canonical word (`name`), which configuration files use, and a reader (`ofWord`) that takes
several words in any case, for the command line.
-/

set_option autoImplicit false

namespace AnimeLookup

/-! ## Which title to show -/

/-- Which title of a work to show. -/
inductive TitlePreference where
  /-- The title in the requested language. -/
  | localized
  /-- The title in the work's own script. -/
  | primaryScript
  /-- The romanisation of the title in the work's own script. -/
  | primaryScriptRomanized
  deriving DecidableEq

namespace TitlePreference

/-- The word for a preference in configuration files. -/
def name : TitlePreference → String
  | localized => "localized"
  | primaryScript => "primary_script"
  | primaryScriptRomanized => "primary_script_romanized"

/-- All preferences. -/
def all : List TitlePreference := [localized, primaryScript, primaryScriptRomanized]

/-- The preference with the given name. -/
def ofName (s : String) : Option TitlePreference := all.find? (·.name == s)

/-- The word as it is compared: in small letters, with underscores for hyphens. -/
def normalizedWord (s : String) : String :=
  String.ofList ((s.toList.map Char.toLower).map fun c ↦ if c = '-' then '_' else c)

/-- The preference that a word stands for, or the word as it was compared. -/
def ofWord (s : String) : Except String TitlePreference :=
  let word := normalizedWord s
  if word = "localized" then .ok localized
  else if ["primary_script", "native", "japanese"].contains word then .ok primaryScript
  else if ["primary_script_romanized", "romaji", "japanese_romaji"].contains word then
    .ok primaryScriptRomanized
  else .error ("unknown title preference: " ++ word)

theorem ofName_name (p : TitlePreference) : ofName p.name = some p := by
  cases p <;> decide

end TitlePreference

/-! ## Which genre stands for animation -/

/-- The genre that stands in for the catalog's generic ones. -/
inductive DefaultGenre where
  /-- None: the catalog's genres are kept as they are. -/
  | none
  /-- `Anime`. -/
  | anime
  /-- `Animation`. -/
  | animation
  deriving DecidableEq

namespace DefaultGenre

/-- The word for a default genre in configuration files. -/
def name : DefaultGenre → String
  | none => "none"
  | anime => "anime"
  | animation => "animation"

/-- The genre that is listed, if any. -/
def label : DefaultGenre → Option String
  | none => Option.none
  | anime => some "Anime"
  | animation => some "Animation"

/-- All default genres. -/
def all : List DefaultGenre := [none, anime, animation]

/-- The default genre with the given name. -/
def ofName (s : String) : Option DefaultGenre := all.find? (·.name == s)

/-- The default genre that a word stands for, or the word as it was compared. -/
def ofWord (s : String) : Except String DefaultGenre :=
  let word := String.ofList (s.toList.map Char.toLower)
  match ofName word with
  | some g => .ok g
  | Option.none => .error ("unknown default genre: " ++ word)

theorem ofName_name (g : DefaultGenre) : ofName g.name = some g := by
  cases g <;> decide

end DefaultGenre

/-! ## The settings of a lookup -/

/-- What a lookup can be told. -/
structure Settings where
  /-- Which title is shown. -/
  titlePreference : TitlePreference
  /-- Which title is shown beside it. -/
  secondTitlePreference : TitlePreference
  /-- How many genres are listed at most; zero for all. -/
  maxGenres : UInt64
  /-- The genre that stands in for the generic ones. -/
  defaultGenre : DefaultGenre
  /-- Whether tags that give the plot away are listed. -/
  showSpoilerTags : Bool
  /-- Whether the cast is limited to the language that goes with the title preference. -/
  filterPeopleByTitlePreference : Bool
  /-- Whether a title is first taken for the name of a file. -/
  useTitleTokenizer : Bool
  /-- The language of the metadata. -/
  locale : String
  deriving DecidableEq

/-- The settings when nothing is chosen. -/
def Settings.default : Settings where
  titlePreference := .localized
  secondTitlePreference := .primaryScriptRomanized
  maxGenres := 5
  defaultGenre := .anime
  showSpoilerTags := true
  filterPeopleByTitlePreference := false
  useTitleTokenizer := false
  locale := "en"

/-! ## The settings of the connection -/

/-- How the catalog is reached. -/
structure NetworkSettings where
  /-- The address that requests go to. -/
  endpoint : String
  /-- The least time between two requests, in milliseconds. -/
  requestIntervalMs : UInt64
  /-- How long an answer is waited for, in seconds. -/
  timeoutSecs : UInt64
  deriving DecidableEq

namespace NetworkSettings

/-- The connection when nothing is chosen.  The interval keeps below ninety requests a minute. -/
def default : NetworkSettings where
  endpoint := "https://graphql.anilist.co"
  requestIntervalMs := 700
  timeoutSecs := 10

/-- The interval that is kept: never less than a millisecond. -/
def effectiveIntervalMs (s : NetworkSettings) : UInt64 := max s.requestIntervalMs 1

theorem one_le_effectiveIntervalMs (s : NetworkSettings) : 1 ≤ s.effectiveIntervalMs := by
  rw [effectiveIntervalMs, UInt64.le_iff_toNat_le]
  simp only [max]
  split
  · exact Nat.le_refl _
  · rename_i h
    rw [UInt64.le_iff_toNat_le] at h
    omega

end NetworkSettings

end AnimeLookup
