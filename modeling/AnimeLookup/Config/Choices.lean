import AnimeLookup.Settings

/-!
# Choices

A setting can be chosen in several places: on the command line, in the environment, in a file next
to where the program runs, in a file of its own.  A `Choices` is what one such place says: for each
setting a value, or nothing.

Places have an order of precedence, and `Choices.above` puts one place over another: each setting is
taken from the upper place if it says anything about it, whatever it says about the others.  What
no place chooses has a default, which comes in only at the end, in `Choices.settings` and
`Choices.network`.  So a default never hides a choice.
-/

set_option autoImplicit false

namespace AnimeLookup

/-- What one place says about the settings. -/
structure Choices where
  /-- Which title is shown. -/
  titlePreference : Option TitlePreference
  /-- Which title is shown beside it. -/
  secondTitlePreference : Option TitlePreference
  /-- The language of the metadata. -/
  locale : Option String
  /-- How many genres are listed at most. -/
  maxGenres : Option UInt64
  /-- The genre that stands in for the generic ones. -/
  defaultGenre : Option DefaultGenre
  /-- Whether tags that give the plot away are listed. -/
  showSpoilerTags : Option Bool
  /-- Whether the cast is limited to the language that goes with the title preference. -/
  filterPeopleByTitlePreference : Option Bool
  /-- Whether a title is first taken for the name of a file. -/
  useTitleTokenizer : Option Bool
  /-- The address that requests go to. -/
  endpoint : Option String
  /-- The least time between two requests, in milliseconds. -/
  requestIntervalMs : Option UInt64
  /-- How long an answer is waited for, in seconds. -/
  timeoutSecs : Option UInt64
  deriving DecidableEq

namespace Choices

/-- Nothing is chosen. -/
def none : Choices where
  titlePreference := .none
  secondTitlePreference := .none
  locale := .none
  maxGenres := .none
  defaultGenre := .none
  showSpoilerTags := .none
  filterPeopleByTitlePreference := .none
  useTitleTokenizer := .none
  endpoint := .none
  requestIntervalMs := .none
  timeoutSecs := .none

/-- **One place over another**: each setting is taken from the upper one that chooses it. -/
def above (upper lower : Choices) : Choices where
  titlePreference := upper.titlePreference.or lower.titlePreference
  secondTitlePreference := upper.secondTitlePreference.or lower.secondTitlePreference
  locale := upper.locale.or lower.locale
  maxGenres := upper.maxGenres.or lower.maxGenres
  defaultGenre := upper.defaultGenre.or lower.defaultGenre
  showSpoilerTags := upper.showSpoilerTags.or lower.showSpoilerTags
  filterPeopleByTitlePreference :=
    upper.filterPeopleByTitlePreference.or lower.filterPeopleByTitlePreference
  useTitleTokenizer := upper.useTitleTokenizer.or lower.useTitleTokenizer
  endpoint := upper.endpoint.or lower.endpoint
  requestIntervalMs := upper.requestIntervalMs.or lower.requestIntervalMs
  timeoutSecs := upper.timeoutSecs.or lower.timeoutSecs

theorem none_above (c : Choices) : none.above c = c := rfl

theorem above_none (c : Choices) : c.above none = c := by
  simp [above, none]

theorem above_assoc (a b c : Choices) : (a.above b).above c = a.above (b.above c) := by
  simp [above, Option.or_assoc]

/-- The settings of a lookup that the choices come to. -/
def settings (c : Choices) : Settings :=
  let d := Settings.default
  { titlePreference := c.titlePreference.getD d.titlePreference
    secondTitlePreference := c.secondTitlePreference.getD d.secondTitlePreference
    maxGenres := c.maxGenres.getD d.maxGenres
    defaultGenre := c.defaultGenre.getD d.defaultGenre
    showSpoilerTags := c.showSpoilerTags.getD d.showSpoilerTags
    filterPeopleByTitlePreference :=
      c.filterPeopleByTitlePreference.getD d.filterPeopleByTitlePreference
    useTitleTokenizer := c.useTitleTokenizer.getD d.useTitleTokenizer
    locale := c.locale.getD d.locale }

/-- The settings of the connection that the choices come to. -/
def network (c : Choices) : NetworkSettings :=
  let d := NetworkSettings.default
  { endpoint := c.endpoint.getD d.endpoint
    requestIntervalMs := c.requestIntervalMs.getD d.requestIntervalMs
    timeoutSecs := c.timeoutSecs.getD d.timeoutSecs }

end Choices

end AnimeLookup
