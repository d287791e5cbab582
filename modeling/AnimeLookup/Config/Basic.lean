import AnimeLookup.Config.Choices

/-!
# Configurations

A configuration is what a configuration file holds: sections, each of which may be missing, with
entries, each of which may be missing too.  A section without entries is something else than no
section, since files can tell them apart, but both choose nothing: `Config.choices` is what a
configuration says about the settings.

`Config.above` puts one configuration over another, setting by setting, so that a section of the
upper one does not hide the lower one's entries of the same section.
-/

set_option autoImplicit false

namespace AnimeLookup

/-! ## Sections -/

/-- The section about titles. -/
structure TitleSection where
  /-- Which title is shown. -/
  titlePreference : Option TitlePreference
  /-- Which title is shown beside it. -/
  secondTitlePreference : Option TitlePreference
  /-- The language of the metadata. -/
  locale : Option String
  deriving DecidableEq

/-- The section about genres and tags. -/
structure GenreSection where
  /-- How many genres are listed at most. -/
  maxGenres : Option UInt64
  /-- The genre that stands in for the generic ones. -/
  defaultGenre : Option DefaultGenre
  /-- Whether tags that give the plot away are listed. -/
  showSpoilerTags : Option Bool
  deriving DecidableEq

/-- The section about people. -/
structure PeopleSection where
  /-- Whether the cast is limited to the language that goes with the title preference. -/
  filterByTitlePreference : Option Bool
  deriving DecidableEq

/-- The section about searching. -/
structure SearchSection where
  /-- Whether a title is first taken for the name of a file. -/
  useTitleTokenizer : Option Bool
  deriving DecidableEq

/-- The section about the connection. -/
structure NetworkSection where
  /-- The address that requests go to. -/
  endpoint : Option String
  /-- The least time between two requests, in milliseconds. -/
  requestIntervalMs : Option UInt64
  /-- How long an answer is waited for, in seconds. -/
  timeoutSecs : Option UInt64
  deriving DecidableEq

/-- A configuration. -/
structure Config where
  /-- The section about titles. -/
  titles : Option TitleSection
  /-- The section about genres and tags. -/
  genres : Option GenreSection
  /-- The section about people. -/
  people : Option PeopleSection
  /-- The section about searching. -/
  search : Option SearchSection
  /-- The section about the connection. -/
  network : Option NetworkSection
  deriving DecidableEq

/-- The section about genres and tags without entries. -/
def GenreSection.empty : GenreSection := ⟨none, none, none⟩

namespace Config

/-- The configuration without sections. -/
def empty : Config := ⟨none, none, none, none, none⟩

/-! ## Choices -/

/-- **What a configuration says about the settings.** -/
def choices (c : Config) : Choices where
  titlePreference := c.titles.bind (·.titlePreference)
  secondTitlePreference := c.titles.bind (·.secondTitlePreference)
  locale := c.titles.bind (·.locale)
  maxGenres := c.genres.bind (·.maxGenres)
  defaultGenre := c.genres.bind (·.defaultGenre)
  showSpoilerTags := c.genres.bind (·.showSpoilerTags)
  filterPeopleByTitlePreference := c.people.bind (·.filterByTitlePreference)
  useTitleTokenizer := c.search.bind (·.useTitleTokenizer)
  endpoint := c.network.bind (·.endpoint)
  requestIntervalMs := c.network.bind (·.requestIntervalMs)
  timeoutSecs := c.network.bind (·.timeoutSecs)

/-- The configuration with all sections that makes the given choices. -/
def ofChoices (c : Choices) : Config where
  titles := some ⟨c.titlePreference, c.secondTitlePreference, c.locale⟩
  genres := some ⟨c.maxGenres, c.defaultGenre, c.showSpoilerTags⟩
  people := some ⟨c.filterPeopleByTitlePreference⟩
  search := some ⟨c.useTitleTokenizer⟩
  network := some ⟨c.endpoint, c.requestIntervalMs, c.timeoutSecs⟩

/-- **One configuration over another.**  The result has all sections. -/
def above (upper lower : Config) : Config := ofChoices (upper.choices.above lower.choices)

theorem choices_above (upper lower : Config) :
    (upper.above lower).choices = upper.choices.above lower.choices := rfl

/-- A configuration that may be missing, over another that may be.  If only one is there, its
sections are kept as they are. -/
def optionalAbove : Option Config → Option Config → Config
  | some upper, some lower => upper.above lower
  | some c, none => c
  | none, some c => c
  | none, none => empty

theorem choices_optionalAbove (upper lower : Option Config) :
    (optionalAbove upper lower).choices =
      ((upper.map choices).getD .none).above ((lower.map choices).getD .none) := by
  cases upper with
  | none =>
    cases lower with
    | none => rfl
    | some c => exact (Choices.none_above _).symm
  | some u =>
    cases lower with
    | none => exact (Choices.above_none _).symm
    | some c => rfl

/-! ## Changing a configuration -/

/-- The configuration with what is given about genres.  It has a section about genres in any
case. -/
def withGenres (defaultGenre : Option DefaultGenre) (maxGenres : Option UInt64) (c : Config) :
    Config :=
  let s := c.genres.getD .empty
  { c with genres := some { s with
      maxGenres := maxGenres.or s.maxGenres
      defaultGenre := defaultGenre.or s.defaultGenre } }

theorem choices_withGenres (defaultGenre : Option DefaultGenre) (maxGenres : Option UInt64)
    (c : Config) :
    (c.withGenres defaultGenre maxGenres).choices =
      { Choices.none with defaultGenre, maxGenres }.above c.choices := by
  cases h : c.genres <;> simp [withGenres, choices, Choices.above, Choices.none, h,
    GenreSection.empty]

end Config

end AnimeLookup
