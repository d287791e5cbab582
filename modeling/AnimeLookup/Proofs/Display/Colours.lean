import AnimeLookup.Display.Report
import AnimeLookup.Proofs.Display.EscapeSequences
import AnimeLookup.Proofs.Title.RuleChain

/-!
# Colours change nothing that is said

Every printer writes its text twice, with and without colours.  Without its escape sequences the
coloured text is the plain one, for every record, listing and title that brings no escape character
of its own (`withoutEscapes_coloured`).

Span by span the two ways agree, so what has to be seen is where the words between the styles come
from.  All that a summary shows is in the record (`Media.shownTexts`), is a number or a date, or is
one of the words that are always the same; the padding of a name goes into its style and comes out
of it again.
-/

set_option autoImplicit false

namespace AnimeLookup

open Text

/-! ## What is shown of a record -/

namespace Catalog

/-- The titles of a work that there are. -/
def Titles.texts (t : Titles) : List String := [t.romaji, t.english, t.native].filterMap id

/-- The addresses of the pictures of a cover. -/
def CoverImage.texts (c : CoverImage) : List String :=
  [c.extraLarge, c.large, c.medium].filterMap id

/-- The full names of a character and of its actors. -/
def CharacterEdge.fullNames (edge : CharacterEdge) : List String :=
  edge.character.full.toList ++ edge.voiceActors.filterMap (·.name.full)

/-- **The texts of a record that its summary may show**, with some settings or other. -/
def Media.shownTexts (m : Media) : List String :=
  m.titles.texts ++ m.cover.texts ++ m.genres.getD [] ++ m.studioNames ++
    (m.tags.getD []).map Tag.name ++ (m.characters.getD []).flatMap CharacterEdge.fullNames

/-- The texts of an entry that a listing shows. -/
def SearchResult.shownTexts (r : SearchResult) : List String := r.name.toList ++ [r.providerId]

theorem Titles.mem_texts_of_preferred {t : Titles} {preference : TitlePreference}
    {locale title : String} (h : t.preferred preference locale = some title) :
    title ∈ t.texts := by
  have hselected : t.selected preference locale ∈ [t.romaji, t.english, t.native] := by
    unfold selected
    split
    · split
      · simp
      · split <;> simp
    · simp
    · simp
  rw [((t.preferred_eq_some_iff preference locale title).mp h).1] at hselected
  exact List.mem_filterMap.mpr ⟨some title, hselected, rfl⟩

theorem CoverImage.mem_texts_of_best {c : CoverImage} {address : String}
    (h : c.best = some address) : address ∈ c.texts := by
  have hbest : c.best ∈ [c.extraLarge, c.large, c.medium] := by
    rw [best]
    cases c.extraLarge <;> cases c.large <;> simp
  rw [h] at hbest
  exact List.mem_filterMap.mpr ⟨some address, hbest, rfl⟩

namespace Media

variable {m : Media} {settings : Settings}

theorem mem_of_mem_capped {α : Type} {cap : Nat} {l : List α} {a : α} (h : a ∈ capped cap l) :
    a ∈ l := by
  rw [capped] at h
  split at h
  · exact h
  · exact List.mem_of_mem_take h

/-- A genre that is listed is the default one or stands in the record. -/
theorem mem_of_mem_genreNames {genre : String} (h : genre ∈ m.genreNames settings) :
    settings.defaultGenre.label = some genre ∨ genre ∈ m.genres.getD [] := by
  have hselected := mem_of_mem_capped (List.mem_mergeSort.mp h)
  cases hlabel : settings.defaultGenre.label with
  | none =>
    rw [hlabel] at hselected
    exact .inr hselected
  | some label =>
    rw [hlabel] at hselected
    rcases List.mem_cons.mp hselected with rfl | hmem
    · exact .inl rfl
    · exact .inr (List.mem_filter.mp (mem_of_mem_firstOfEach hmem)).1

/-- A credit names an actor and a character of the record. -/
theorem exists_of_mem_cast {c : Credit} (h : c ∈ m.cast settings) :
    ∃ edge ∈ m.characters.getD [], ∃ actor ∈ edge.voiceActors,
      actor.name.full = some c.name ∧ edge.character.full = c.role := by
  have hcredit := mem_of_mem_firstOfEach h
  obtain ⟨edge, hedge, hcredit⟩ := List.mem_flatMap.mp hcredit
  obtain ⟨actor, hactor, hcredit⟩ := List.mem_filterMap.mp hcredit
  obtain ⟨name, hname, rfl⟩ := Option.map_eq_some_iff.mp hcredit
  exact ⟨edge, hedge, actor, (List.mem_filter.mp hactor).1,
    (Option.filter_eq_some_iff.mp hname).1, rfl⟩

end Media

end Catalog

/-! ## The printers -/

namespace Display

open Catalog

/-! ### Values -/

theorem escapeFree_toText (d : PartialDate) : EscapeFree d.toText := by
  have hyear (y : Int32) : EscapeFree (PartialDate.yearText y) := escapeFree_paddedInt 4 _
  have hpart (n : UInt32) : EscapeFree ('-' :: PartialDate.partText n) :=
    ((escapeFree_decimal _).padZeros 2).cons (by decide)
  rw [PartialDate.toText]
  split
  · exact ((hyear _).append (hpart _)).append (hpart _)
  · exact (hyear _).append (hpart _)
  · exact hyear _
  · decide

theorem escapeFree_fixed (places : Nat) (x : Number.Fraction) : EscapeFree (x.fixed places) :=
  (escapeFree_decimal _).append (((escapeFree_decimal _).padZeros places).cons (by decide))

theorem escapeFree_genreLabel {g : DefaultGenre} {label : String} (h : g.label = some label) :
    EscapeFree label.toList := by
  cases g with
  | none => exact absurd h (by simp [DefaultGenre.label])
  | anime => exact Option.some.inj h ▸ by decide
  | animation => exact Option.some.inj h ▸ by decide

theorem escapeFree_commaList {names : List String} (h : ∀ t ∈ names, EscapeFree t.toList) :
    EscapeFree (commaList names) := by
  induction names with
  | nil => exact List.not_mem_nil
  | cons name rest ih =>
    rw [List.forall_mem_cons] at h
    cases rest with
    | nil => simpa [commaList] using h.1
    | cons next more =>
      rw [commaList, List.map_cons, List.map_cons, List.intercalate_cons_cons, ← List.map_cons]
      exact (h.1.append (by decide)).append (ih h.2)

/-! ### The lines of a summary -/

section Lines

variable {label : String} (hlabel : EscapeFree label.toList)

include hlabel

/-- The padding is in the style and stays when the style goes. -/
theorem labelled_agree {value : List Char} (h : EscapeFree value) :
    AllAgree (labelled label value) := by
  have hname := ReadsAs.styled .dimmed (hlabel.alignRight 10)
  exact allAgree_singleton
    (hname.followed (by decide) |>.followed h |>.followed (by decide))

theorem labelledIfKnown_agree {α : Type} {write : α → List Char} {v : Option α}
    (h : ∀ a ∈ v, EscapeFree (write a)) : AllAgree (labelledIfKnown label write v) := by
  cases v with
  | none => exact allAgree_nil
  | some a => exact labelled_agree hlabel (h a rfl)

theorem labelledIfAny_agree {names : List String} (h : ∀ t ∈ names, EscapeFree t.toList) :
    AllAgree (labelledIfAny label names) := by
  rw [labelledIfAny]
  split
  · exact allAgree_nil
  · exact labelled_agree hlabel (escapeFree_commaList h)

end Lines

/-! ### The summary of a record -/

section Summary

variable {m : Media} (hm : ∀ t ∈ m.shownTexts, EscapeFree t.toList) (settings : Settings)

include hm

theorem escapeFree_title {preference : TitlePreference} {locale title : String}
    (h : m.titles.preferred preference locale = some title) : EscapeFree title.toList := by
  have hmem := Titles.mem_texts_of_preferred h
  exact hm title (by simp [Media.shownTexts, hmem])

theorem heading_agree : AllAgree (heading m settings) := by
  have htitle : EscapeFree ((m.title settings).getD untitled).toList := by
    cases htitle : m.title settings with
    | none => decide
    | some title => exact escapeFree_title hm htitle
  have hstyled := (ReadsAs.styled .bold htitle).apply .green
  exact allAgree_singleton (hstyled.followed (by decide)
    |>.followed (escapeFree_decimal m.id.toNat) |>.followed (by decide))

theorem escapeFree_imageUrl {address : String} (h : m.imageUrl = some address) :
    EscapeFree address.toList := by
  have hmem := CoverImage.mem_texts_of_best h
  exact hm address (by simp [Media.shownTexts, hmem])

theorem escapeFree_genreNames {genre : String} (h : genre ∈ m.genreNames settings) :
    EscapeFree genre.toList := by
  rcases Media.mem_of_mem_genreNames h with hlabel | hmem
  · exact escapeFree_genreLabel hlabel
  · exact hm genre (by simp [Media.shownTexts, hmem])

theorem escapeFree_creditText {c : Credit} (h : c ∈ m.cast settings) :
    EscapeFree (creditText c).toList := by
  obtain ⟨edge, hedge, actor, hactor, hname, hrole⟩ := Media.exists_of_mem_cast h
  have hnames (t : String) (ht : t ∈ edge.fullNames) : EscapeFree t.toList :=
    hm t (List.mem_append_right _ (List.mem_flatMap.mpr ⟨edge, hedge, ht⟩))
  have hactor : EscapeFree c.name.toList :=
    hnames _ (List.mem_append_right _ (List.mem_filterMap.mpr ⟨actor, hactor, hname⟩))
  rw [creditText]
  split
  · rename_i role hcredit
    have hcharacter : EscapeFree role.toList :=
      hnames _ (List.mem_append_left _ (by simp [hrole, hcredit]))
    rw [String.toList_append, String.toList_append, String.toList_append]
    exact ((hactor.append (by decide)).append hcharacter).append (by decide)
  · exact hactor

/-- **The two ways of a summary agree.** -/
theorem record_agree : AllAgree (record m settings) := by
  refine heading_agree hm settings |>.append ?original |>.append ?status |>.append ?aired
    |>.append ?episodes |>.append ?rating |>.append ?genres |>.append ?studios |>.append ?tags
    |>.append ?cast |>.append ?image
  case original => exact labelledIfKnown_agree (by decide) fun t ht ↦ escapeFree_title hm ht
  case status =>
    refine labelledIfKnown_agree (by decide) fun status _ ↦ ?_
    cases status <;> decide
  case aired => exact labelledIfKnown_agree (by decide) fun date _ ↦ escapeFree_toText date
  case episodes => exact labelledIfKnown_agree (by decide) fun n _ ↦ escapeFree_decimal n.toNat
  case rating => exact labelledIfKnown_agree (by decide) fun _ _ ↦ escapeFree_fixed 1 _
  case genres =>
    exact labelledIfAny_agree (by decide) fun t ht ↦ escapeFree_genreNames hm settings ht
  case studios =>
    exact labelledIfAny_agree (by decide) fun t ht ↦ hm t (by simp [Media.shownTexts, ht])
  case tags =>
    refine labelledIfAny_agree (by decide) fun t ht ↦ hm t ?_
    obtain ⟨tag, htag, rfl⟩ := List.mem_map.mp ht
    have hmem : tag.name ∈ (m.tags.getD []).map Tag.name :=
      List.mem_map_of_mem (List.mem_filter.mp htag).1
    exact List.mem_append_left _ (List.mem_append_right _ hmem)
  case cast =>
    refine labelledIfAny_agree (by decide) fun t ht ↦ ?_
    obtain ⟨c, hc, rfl⟩ := List.mem_map.mp ht
    exact escapeFree_creditText hm settings (List.mem_of_mem_take hc)
  case image => exact labelledIfKnown_agree (by decide) fun t ht ↦ escapeFree_imageUrl hm ht

end Summary

/-! ### The other answers -/

theorem listingLine_agrees {r : SearchResult} (h : ∀ t ∈ r.shownTexts, EscapeFree t.toList)
    (number : Nat) : (listingLine r number).Agrees := by
  have hname : EscapeFree (r.name.getD untitled).toList := by
    cases hname : r.name with
    | none => decide
    | some name => exact h name (by simp [SearchResult.shownTexts, hname])
  have hprovider : EscapeFree r.providerId.toList := h _ (by simp [SearchResult.shownTexts])
  have hyear : EscapeFree (yearRemark r) := by
    rw [yearRemark]
    split
    · exact ((by decide : EscapeFree " (".toList).append (escapeFree_decimalInt _)).append
        (by decide)
    · decide
  have hnumber := ReadsAs.of_escapeFree ((escapeFree_decimal number).alignRight 3)
  exact hnumber.followed (by decide) |>.append (ReadsAs.styled .bold hname) |>.followed hyear
    |>.followed (by decide) |>.append (ReadsAs.styled .dimmed hprovider) |>.followed (by decide)

theorem listing_agree {results : List SearchResult}
    (h : ∀ r ∈ results, ∀ t ∈ r.shownTexts, EscapeFree t.toList) : AllAgree (listing results) := by
  intro span hspan
  obtain ⟨⟨r, number⟩, hmem, rfl⟩ := List.mem_map.mp hspan
  exact listingLine_agrees (h r (List.fst_mem_of_mem_zipIdx hmem)) number

theorem notFound_agree {title : String} (h : EscapeFree title.toList) :
    AllAgree (notFound title) := by
  have hstart : ReadsAs (Style.red.apply "No metadata found".toList ++ " for \"".toList)
      "No metadata found for \"".toList :=
    (ReadsAs.styled .red (by decide)).followed (by decide)
  exact allAgree_singleton ((hstart.followed h).followed (by decide))

theorem cancelled_agree : AllAgree cancelled :=
  allAgree_singleton ((ReadsAs.styled .yellow (by decide)).followed (by decide))

theorem escapeFree_of_matchingRule {a b : List Char} {rule : String}
    (h : Title.matchingRule a b = some rule) : EscapeFree rule.toList := by
  have hnames : ∀ name ∈ Title.rules.map Title.Rule.name, EscapeFree name.toList := by decide
  obtain ⟨r, hr, rfl⟩ := Title.exists_of_matchingRuleOf h
  exact hnames r.name (List.mem_map_of_mem hr)

theorem comparison_agree (a b : String) : AllAgree (comparison a b) := by
  rw [comparison]
  split
  · rename_i rule hrule
    have hstart : ReadsAs (Style.green.apply "EQUIVALENT".toList ++ " (rule: ".toList)
        "EQUIVALENT (rule: ".toList :=
      (ReadsAs.styled .green (by decide)).followed (by decide)
    exact allAgree_singleton
      ((hstart.followed (escapeFree_of_matchingRule hrule)).followed (by decide))
  · exact allAgree_singleton ((ReadsAs.styled .red (by decide)).followed (by decide))

/-- **Colours change nothing that is said.**  Without its escape sequences, what is written in
colours for a record, a listing, a title or two of them is what is written without colours, blanks
included, provided that no escape character comes in with the texts that are shown. -/
theorem withoutEscapes_coloured (m : Media) (settings : Settings) (results : List SearchResult)
    (title a b : String) (hm : ∀ t ∈ m.shownTexts, EscapeFree t.toList)
    (hresults : ∀ r ∈ results, ∀ t ∈ r.shownTexts, EscapeFree t.toList)
    (htitle : EscapeFree title.toList) :
    withoutEscapes (render true (record m settings)) = render false (record m settings) ∧
      withoutEscapes (render true (listing results)) = render false (listing results) ∧
      withoutEscapes (render true (notFound title)) = render false (notFound title) ∧
      withoutEscapes (render true cancelled) = render false cancelled ∧
      withoutEscapes (render true (comparison a b)) = render false (comparison a b) :=
  ⟨(record_agree hm settings).withoutEscapes_render, (listing_agree hresults).withoutEscapes_render,
    (notFound_agree htitle).withoutEscapes_render, cancelled_agree.withoutEscapes_render,
    (comparison_agree a b).withoutEscapes_render⟩

/-- The record of a series with a line of each kind but the picture, a listing of it, and a title
that is not found. -/
theorem withoutEscapes_coloured_series :
    let tag : Tag := ⟨"Military", false⟩
    let actor : VoiceActor := ⟨⟨some "Yuki Kaji", none⟩, .empty, some "JAPANESE"⟩
    let edge : CharacterEdge := ⟨⟨some "Eren Yeager", none⟩, none, [actor]⟩
    let m : Media :=
      ⟨16498, ⟨some "Shingeki no Kyojin", some "Attack on Titan", none⟩,
        ⟨some 2013, some 4, some 7⟩, .unknown, .empty, none, none, some "FINISHED", some 25, none,
        none, some 84, some ["Action", "Drama"], none, some [tag], some ["Wit Studio"],
        some [edge]⟩
    let results := [m.toSearchResult .default]
    (∀ t ∈ m.shownTexts, EscapeFree t.toList) ∧
      (∀ r ∈ results, ∀ t ∈ r.shownTexts, EscapeFree t.toList) ∧
      withoutEscapes (render true (record m .default)) = render false (record m .default) ∧
      withoutEscapes (render true (listing results)) =
        "  1. Attack on Titan (2013) [16498]\n".toList ∧
      withoutEscapes (render true (notFound "Titan")) =
        "No metadata found for \"Titan\"\n".toList := by
  intro tag actor edge m results
  have hm : ∀ t ∈ m.shownTexts, EscapeFree t.toList := by decide
  have hresults : ∀ r ∈ results, ∀ t ∈ r.shownTexts, EscapeFree t.toList := by decide
  obtain ⟨hrecord, hlisting, hnotFound, -, -⟩ :=
    withoutEscapes_coloured m .default results "Titan" "" "" hm hresults (by decide)
  refine ⟨hm, hresults, hrecord, hlisting.trans ?_, hnotFound.trans ?_⟩
  · decide
  · decide

end Display

end AnimeLookup
