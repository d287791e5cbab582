import AnimeLookup.Lookup.Plan
import AnimeLookup.Title.Cleaning
import AnimeLookup.Title.Filename
import AnimeLookup.Title.Query

/-!
# Looking a title up

A work whose identifier is known is fetched by it, and that is the end of it.  Otherwise the
*ladder* of queries is climbed: the guess that a tokenizer makes from the title (if the settings
want one), the title itself, and the cleaned title.  The first candidate of the first query that
has any is fetched; if the catalog has no record of it, the climb goes on.

A search listing asks less cleverly: it shows the record with a known identifier and then every
candidate for the title exactly as given.
-/

set_option autoImplicit false

namespace AnimeLookup.Lookup

open Catalog Title

/-- A function on lists of characters as one on strings. -/
def onString (f : List Char → List Char) (s : String) : String := String.ofList (f s.toList)

theorem onString_eq_empty_iff (f : List Char → List Char) (s : String) :
    onString f s = "" ↔ f s.toList = [] := by
  rw [onString, ← String.toList_inj, String.toList_ofList, String.toList_empty]

/-- A guess at the title that a text, perhaps the name of a file, contains. -/
abbrev Tokenizer := String → Option String

/-- The tokenizer for the names of files, with a reader of them. -/
def tokenizerOf (read : NameReader) : Tokenizer :=
  fun path ↦ (guessTitle read path.toList).map String.ofList

/-- The identifier that is known, unless it is blank. -/
def knownId (id : Option String) : Option String :=
  (id.map (onString Text.trim)).filter (· ≠ "")

/-! ## The ladder -/

/-- The tokenizer's guess at a title, if the settings want one. -/
def guess (settings : Settings) (tokenizer : Tokenizer) (title : String) : Option String :=
  if settings.useTitleTokenizer then tokenizer title else none

/-- The queries made from the guess and from the title itself, without repetition and without
empty ones. -/
def rawQueries (settings : Settings) (tokenizer : Tokenizer) (title : String) : List String :=
  let own := onString preprocess title
  let queries := match guess settings tokenizer title with
    | some g => if onString preprocess g = own then [own] else [onString preprocess g, own]
    | none => [own]
  queries.filter (· ≠ "")

/-- The query made from the cleaned title, unless it is blank. -/
def cleanedQueries (title : String) : List String :=
  let cleaned := onString lightClean title
  if Text.allBlank cleaned.toList then [] else [cleaned]

/-- **The queries of a lookup**, in the order in which they are tried. -/
def ladder (settings : Settings) (tokenizer : Tokenizer) (title : String) : List (Tier × String) :=
  (rawQueries settings tokenizer title).map (Tier.raw, ·) ++
    (cleanedQueries title).map (Tier.cleaned, ·)

/-- The plan that climbs a ladder. -/
def climb : List (Tier × String) → Plan (Option Media)
  | [] => .done none
  | (tier, query) :: rest =>
    .search tier query fun
      | [] => climb rest
      | candidate :: _ =>
        .fetch tier (idText candidate.id) fun
          | some media => .done (some media)
          | none => climb rest

/-! ## The two lookups -/

/-- **The plan that finds the record for a title**, or for an identifier that is known. -/
def lookup (settings : Settings) (tokenizer : Tokenizer) (title : String)
    (existingId : Option String) : Plan (Option Media) :=
  match knownId existingId with
  | some id => .fetch .id id .done
  | none => climb (ladder settings tokenizer title)

/-- The plan that lists the candidates for a title behind some entries that are found already. -/
def listCandidates (settings : Settings) (title : String) (found : List SearchResult) :
    Plan (List SearchResult) :=
  if Text.allBlank title.toList then .done found
  else .search .raw title fun candidates ↦
    .done (found ++ candidates.map (·.toSearchResult settings))

/-- **The plan that lists everything for a title**: the record with the known identifier, and the
candidates. -/
def searchResults (settings : Settings) (title : String) (existingId : Option String) :
    Plan (List SearchResult) :=
  match knownId existingId with
  | some id => .fetch .id id fun media ↦
    listCandidates settings title (media.toList.map (·.toSearchResult settings))
  | none => listCandidates settings title []

end AnimeLookup.Lookup
