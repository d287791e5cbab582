import AnimeLookup.Catalog.Distinct
import AnimeLookup.Catalog.PartialDate
import AnimeLookup.Catalog.Titles
import AnimeLookup.Number.Shortest

/-!
# Works and candidates

A search answers with *candidates*, which say just enough about a work to recognise it.  The
canonical record of a work, its `Media`, says everything else.  Both are plain data in the shape
the catalog gives them; any part may be missing.

The second half of this module is what is made of a record: the title and picture to show, the
rating on a scale to ten, the genres, tags and studios, and the cast.
-/

set_option autoImplicit false

namespace AnimeLookup.Catalog

/-! ## The data -/

/-- Pictures of a cover in several sizes. -/
structure CoverImage where
  /-- The small picture. -/
  medium : Option String
  /-- The large picture. -/
  large : Option String
  /-- The largest picture. -/
  extraLarge : Option String
  deriving DecidableEq

/-- No picture. -/
def CoverImage.empty : CoverImage := ⟨none, none, none⟩

/-- The address of the largest picture there is. -/
def CoverImage.best (c : CoverImage) : Option String := c.extraLarge.or (c.large.or c.medium)

/-- One hit of a search. -/
structure Candidate where
  /-- The number of the work in the catalog. -/
  id : UInt64
  /-- Its titles. -/
  titles : Titles
  /-- When it started. -/
  startDate : PartialDate
  /-- Its cover. -/
  cover : CoverImage
  deriving DecidableEq

/-- A tag of a work. -/
structure Tag where
  /-- The tag. -/
  name : String
  /-- Whether the tag gives the plot of the work away. -/
  isSpoiler : Bool
  deriving DecidableEq

/-- The name of a person or character. -/
structure Name where
  /-- The full name. -/
  full : Option String
  /-- The name in its own script. -/
  native : Option String
  deriving DecidableEq

/-- No name. -/
def Name.empty : Name := ⟨none, none⟩

/-- Pictures of a person. -/
structure Portrait where
  /-- The small picture. -/
  medium : Option String
  /-- The large picture. -/
  large : Option String
  deriving DecidableEq

/-- No picture. -/
def Portrait.empty : Portrait := ⟨none, none⟩

/-- A voice actor. -/
structure VoiceActor where
  /-- The actor's name. -/
  name : Name
  /-- Pictures of the actor. -/
  image : Portrait
  /-- The language that is spoken. -/
  language : Option String
  deriving DecidableEq

/-- A character of a work with the actors who speak it. -/
structure CharacterEdge where
  /-- The character's name. -/
  character : Name
  /-- How important the character is. -/
  role : Option String
  /-- Who speaks the character. -/
  voiceActors : List VoiceActor
  deriving DecidableEq

/-- The canonical record of one work. -/
structure Media where
  /-- The number of the work in the catalog. -/
  id : UInt64
  /-- Its titles. -/
  titles : Titles
  /-- When it started. -/
  startDate : PartialDate
  /-- When it ended. -/
  endDate : PartialDate
  /-- Its cover. -/
  cover : CoverImage
  /-- The address of a banner. -/
  bannerImage : Option String
  /-- What kind of work it is. -/
  format : Option String
  /-- Whether it is finished. -/
  status : Option String
  /-- How many episodes it has. -/
  episodes : Option UInt32
  /-- How many minutes an episode takes. -/
  duration : Option UInt32
  /-- What it is about. -/
  description : Option String
  /-- How it is rated, in per cent. -/
  averageScore : Option UInt32
  /-- Its genres. -/
  genres : Option (List String)
  /-- Other names of it. -/
  synonyms : Option (List String)
  /-- Its tags. -/
  tags : Option (List Tag)
  /-- The names of the studios that made it. -/
  studios : Option (List String)
  /-- Its characters. -/
  characters : Option (List CharacterEdge)
  deriving DecidableEq

/-! ## Entries of a listing -/

/-- An entry of a search listing. -/
structure SearchResult where
  /-- The title to show. -/
  name : Option String
  /-- The year it was made. -/
  productionYear : Option Int32
  /-- The date it was first shown, if all of it is known. -/
  premiereDate : Option PartialDate
  /-- The address of a picture. -/
  imageUrl : Option String
  /-- The number of the work in the catalog, as text. -/
  providerId : String
  deriving DecidableEq

/-- The text by which the catalog is asked for a work. -/
def idText (id : UInt64) : String := String.ofList (Text.decimal id.toNat)

/-- The entry of a candidate in a search listing. -/
def Candidate.toSearchResult (c : Candidate) (settings : Settings) : SearchResult where
  name := c.titles.preferred settings.titlePreference settings.locale
  productionYear := c.startDate.year
  premiereDate := c.startDate.complete?
  imageUrl := c.cover.best
  providerId := idText c.id

namespace Media

/-- The part of a record that a search shows. -/
def toCandidate (m : Media) : Candidate := ⟨m.id, m.titles, m.startDate, m.cover⟩

/-! ## Title, picture, status and rating -/

/-- The title to show. -/
def title (m : Media) (settings : Settings) : Option String :=
  m.titles.preferred settings.titlePreference settings.locale

/-- The title to show beside it. -/
def secondTitle (m : Media) (settings : Settings) : Option String :=
  m.titles.preferred settings.secondTitlePreference settings.locale

/-- The address of the picture to show. -/
def imageUrl (m : Media) : Option String := m.cover.best

/-- The entry of a record in a search listing. -/
def toSearchResult (m : Media) (settings : Settings) : SearchResult where
  name := m.title settings
  productionYear := m.startDate.year
  premiereDate := m.startDate.complete?
  imageUrl := m.imageUrl
  providerId := idText m.id

/-- Whether a series goes on. -/
inductive SeriesStatus where
  /-- Further episodes come. -/
  | continuing
  /-- It is complete, or was given up. -/
  | ended
  deriving DecidableEq

/-- The word for a status. -/
def SeriesStatus.name : SeriesStatus → String
  | continuing => "Continuing"
  | ended => "Ended"

/-- Whether the series goes on, if the catalog says so. -/
def seriesStatus (m : Media) : Option SeriesStatus :=
  match m.status with
  | some "FINISHED" => some .ended
  | some "CANCELLED" => some .ended
  | some "RELEASING" => some .continuing
  | _ => none

/-- The rating on a scale to ten, zero without one.  Both the score and the tenth of it are kept in
single precision. -/
def rating (m : Media) : Number.Binary :=
  let score := Number.Fraction.ofNat (m.averageScore.getD 0).toNat
  ((score.rounded Number.single).divNat 10).toBinary Number.single

/-! ## Genres, tags and studios -/

/-- The genres by which a catalog says no more than that a work is animated. -/
def genericGenres : List String := ["Animation", "Anime"]

/-- At most `cap` elements, and all of them if `cap` is zero. -/
def capped {α : Type} (cap : Nat) (l : List α) : List α := if cap = 0 then l else l.take cap

/-- The genres before they are put in order: with a default genre, that one and then the distinct
genres that are not generic; without one, the genres as they are. -/
def selectedGenres (label : Option String) (genres : List String) : List String :=
  match label with
  | some l => l :: firstOfEach (fun g ↦ g) (genres.filter (!genericGenres.contains ·))
  | none => genres

/-- **The genres to list**, in alphabetical order: the first ones up to the cap, of which the
default genre is one. -/
def genreNames (m : Media) (settings : Settings) : List String :=
  (capped settings.maxGenres.toNat
    (selectedGenres settings.defaultGenre.label (m.genres.getD []))).mergeSort (· ≤ ·)

/-- The tags to list: without those that give the plot away, unless they are wanted. -/
def tagNames (m : Media) (settings : Settings) : List String :=
  ((m.tags.getD []).filter fun t ↦ settings.showSpoilerTags || !t.isSpoiler).map Tag.name

/-- The studios to list. -/
def studioNames (m : Media) : List String := m.studios.getD []

end Media

/-! ## The cast -/

/-- A voice actor credited for one character. -/
structure Credit where
  /-- The actor. -/
  name : String
  /-- The character. -/
  role : Option String
  /-- The address of a picture of the actor. -/
  imageUrl : Option String
  deriving DecidableEq

/-- The credit of an actor for a character, if the actor has a name. -/
def VoiceActor.credit (character : Name) (actor : VoiceActor) : Option Credit :=
  (actor.name.full.filter (· ≠ "")).map fun name ↦
    ⟨name, character.full, actor.image.large.or actor.image.medium⟩

/-- Whether an actor speaks the language that goes with the title preference: the work's own one
with the titles in the work's own script, and any other with the localised title. -/
def VoiceActor.isPreferred (preference : TitlePreference) (actor : VoiceActor) : Bool :=
  (actor.language == some "JAPANESE") != (preference == .localized)

namespace Media

/-- The credits that qualify, in the order of the characters and of the actors of each. -/
def credits (m : Media) (settings : Settings) : List Credit :=
  let qualifies (actor : VoiceActor) : Bool :=
    !settings.filterPeopleByTitlePreference || actor.isPreferred settings.titlePreference
  (m.characters.getD []).flatMap fun edge ↦
    (edge.voiceActors.filter qualifies).filterMap (·.credit edge.character)

/-- **The cast to list**: the first credit of each actor for each character. -/
def cast (m : Media) (settings : Settings) : List Credit :=
  firstOfEach (fun c ↦ (c.name, c.role)) (m.credits settings)

end Media

end AnimeLookup.Catalog
