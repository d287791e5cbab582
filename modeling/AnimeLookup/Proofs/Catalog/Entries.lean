import AnimeLookup.Catalog.Media
import AnimeLookup.Proofs.Text.Numerals
import Mathlib.Data.List.Forall2

/-!
# What an entry of a listing says

A search listing has an entry for each work.  `IsEntry` says what stands in it: the title that is
asked for, the year, the date if all of it is known, the largest picture, and the number of the work
in decimal.  Nothing is said there about how an entry is made.

There is exactly one such entry (`isEntry_iff`), so a list that has one for each of some works, in
their order, is known from the works (`forall₂_isEntry_iff`).
-/

set_option autoImplicit false

namespace AnimeLookup.Catalog

/-! ## Numbers of works -/

theorem isDecimal_idText (id : UInt64) : Text.IsDecimal (idText id).toList id.toNat := by
  rw [idText, String.toList_ofList]
  exact Text.isDecimal_decimal id.toNat

/-- **A work is asked for by its number in decimal**, and by nothing else. -/
theorem isDecimal_iff_eq_idText {s : String} {id : UInt64} :
    Text.IsDecimal s.toList id.toNat ↔ s = idText id := by
  rw [Text.isDecimal_iff, idText, ← String.toList_inj, String.toList_ofList]

/-! ## Titles -/

/-- **The title that settings ask for**, if it is there: the English one, the one in the work's own
script, or the romanised one. -/
inductive AskedFor (t : Titles) (settings : Settings) : Option String → Prop
  /-- A title in English. -/
  | english (hp : settings.titlePreference = .localized) (hl : settings.locale = "en") :
      AskedFor t settings t.english
  /-- A title in the language of the work, which is known by two names. -/
  | native (hp : settings.titlePreference = .localized)
      (hl : settings.locale = "ja" ∨ settings.locale = "jap") : AskedFor t settings t.native
  /-- A title in any other language, of which the catalog has none. -/
  | foreign (hp : settings.titlePreference = .localized) (hen : settings.locale ≠ "en")
      (hja : settings.locale ≠ "ja") (hjap : settings.locale ≠ "jap") :
      AskedFor t settings t.romaji
  /-- The title in the work's own script, whatever the language. -/
  | ownScript (hp : settings.titlePreference = .primaryScript) : AskedFor t settings t.native
  /-- The romanised title, whatever the language. -/
  | romanized (hp : settings.titlePreference = .primaryScriptRomanized) :
      AskedFor t settings t.romaji

section Titles

variable {t : Titles} {settings : Settings} {title : Option String}

theorem askedFor_selected (t : Titles) (settings : Settings) :
    AskedFor t settings (t.selected settings.titlePreference settings.locale) := by
  cases hp : settings.titlePreference with
  | primaryScript => exact .ownScript hp
  | primaryScriptRomanized => exact .romanized hp
  | localized =>
    rw [Titles.selected]
    split
    · rename_i hl
      exact .english hp hl
    · rename_i hen
      split
      · rename_i hl
        exact .native hp (by simpa [Titles.nativeLocales] using hl)
      · rename_i hl
        have hother : settings.locale ≠ "ja" ∧ settings.locale ≠ "jap" := by
          simpa [Titles.nativeLocales] using hl
        exact .foreign hp hen hother.1 hother.2

theorem AskedFor.eq_selected (h : AskedFor t settings title) :
    title = t.selected settings.titlePreference settings.locale := by
  cases h with
  | english hp hl => rw [hp, hl]; rfl
  | native hp hl =>
    rw [hp]
    rcases hl with hl | hl <;> rw [hl] <;> rfl
  | foreign hp hen hja hjap => simp [hp, Titles.selected, Titles.nativeLocales, hen, hja, hjap]
  | ownScript hp => rw [hp]; rfl
  | romanized hp => rw [hp]; rfl

end Titles

/-! ## Entries -/

/-- **The entry of a work** in a search listing, from its number, its titles, the date on which it
started, and its cover. -/
structure IsEntry (settings : Settings) (id : UInt64) (titles : Titles) (startDate : PartialDate)
    (cover : CoverImage) (r : SearchResult) : Prop where
  /-- The name is the title that is asked for, unless that one is missing or empty. -/
  name : ∃ title, AskedFor titles settings title ∧
    ∀ s, r.name = some s ↔ title = some s ∧ s ≠ ""
  /-- The year is the one in which the work started. -/
  productionYear : r.productionYear = startDate.year
  /-- The date is the one on which it started, if the year, the month and the day are known. -/
  premiereDate : ∀ d, r.premiereDate = some d ↔
    d = startDate ∧ ∃ year month day, startDate = ⟨some year, some month, some day⟩
  /-- The picture is the largest one that there is. -/
  imageUrl : ∀ url, r.imageUrl = some url ↔ cover.extraLarge = some url ∨
    cover.extraLarge = none ∧
      (cover.large = some url ∨ cover.large = none ∧ cover.medium = some url)
  /-- The number is written in decimal. -/
  providerId : Text.IsDecimal r.providerId.toList id.toNat

theorem PartialDate.complete?_eq_some_iff (d e : PartialDate) : d.complete? = some e ↔
    e = d ∧ ∃ year month day, d = ⟨some year, some month, some day⟩ := by
  obtain ⟨_ | year, _ | month, _ | day⟩ := d <;> simp [PartialDate.complete?, eq_comm]

theorem CoverImage.best_eq_some_iff (c : CoverImage) (url : String) : c.best = some url ↔
    c.extraLarge = some url ∨ c.extraLarge = none ∧
      (c.large = some url ∨ c.large = none ∧ c.medium = some url) := by
  rw [best, Option.or_eq_some_iff, Option.or_eq_some_iff]

section Entries

variable {settings : Settings} {r r' : SearchResult}

theorem isEntry_toSearchResult (c : Candidate) (settings : Settings) :
    IsEntry settings c.id c.titles c.startDate c.cover (c.toSearchResult settings) where
  name := ⟨_, askedFor_selected c.titles settings,
    fun s ↦ Titles.preferred_eq_some_iff c.titles _ _ s⟩
  productionYear := rfl
  premiereDate := c.startDate.complete?_eq_some_iff
  imageUrl := c.cover.best_eq_some_iff
  providerId := isDecimal_idText c.id

/-- A work has one entry only. -/
theorem IsEntry.unique {id : UInt64} {titles : Titles} {startDate : PartialDate}
    {cover : CoverImage} (h : IsEntry settings id titles startDate cover r)
    (h' : IsEntry settings id titles startDate cover r') : r = r' := by
  obtain ⟨title, hasked, hname⟩ := h.name
  obtain ⟨title', hasked', hname'⟩ := h'.name
  have htitle : title = title' := hasked.eq_selected.trans hasked'.eq_selected.symm
  subst htitle
  have hid : r.providerId = r'.providerId :=
    (isDecimal_iff_eq_idText.mp h.providerId).trans (isDecimal_iff_eq_idText.mp h'.providerId).symm
  have hyear : r.productionYear = r'.productionYear := h.productionYear.trans h'.productionYear.symm
  have hnames : r.name = r'.name := Option.ext fun s ↦ (hname s).trans (hname' s).symm
  have hdate : r.premiereDate = r'.premiereDate :=
    Option.ext fun d ↦ (h.premiereDate d).trans (h'.premiereDate d).symm
  have himage : r.imageUrl = r'.imageUrl :=
    Option.ext fun url ↦ (h.imageUrl url).trans (h'.imageUrl url).symm
  cases r
  cases r'
  rw [SearchResult.mk.injEq]
  exact ⟨hnames, hyear, hdate, himage, hid⟩

/-- **The entry of a candidate** is the one that is made of it. -/
theorem isEntry_iff (c : Candidate) (settings : Settings) (r : SearchResult) :
    IsEntry settings c.id c.titles c.startDate c.cover r ↔ r = c.toSearchResult settings :=
  ⟨fun h ↦ h.unique (isEntry_toSearchResult c settings), fun h ↦ h ▸ isEntry_toSearchResult c _⟩

/-- The entry of a record is the one of what a search shows of it. -/
theorem isEntry_media_iff (m : Media) (settings : Settings) (r : SearchResult) :
    IsEntry settings m.id m.titles m.startDate m.cover r ↔ r = m.toSearchResult settings :=
  isEntry_iff m.toCandidate settings r

/-- A list has an image for each item of another one, in the same order, exactly if it is what the
other is mapped to. -/
theorem forall₂_iff_eq_map {α β : Type} {R : α → β → Prop} {f : α → β}
    (h : ∀ a b, R a b ↔ b = f a) {l : List α} {l' : List β} :
    List.Forall₂ R l l' ↔ l' = l.map f := by
  induction l generalizing l' with
  | nil => simp
  | cons a rest ih =>
    cases l' with
    | nil => simp
    | cons b more => rw [List.forall₂_cons, h, ih, List.map_cons, List.cons.injEq]

/-- **Entries for candidates, one for each and in their order**, are the ones that are made of
them. -/
theorem forall₂_isEntry_iff {candidates : List Candidate} {entries : List SearchResult} :
    List.Forall₂ (fun c ↦ IsEntry settings c.id c.titles c.startDate c.cover) candidates entries ↔
      entries = candidates.map (·.toSearchResult settings) :=
  forall₂_iff_eq_map fun c r ↦ isEntry_iff c settings r

theorem forall₂_isEntry_media_iff {records : List Media} {entries : List SearchResult} :
    List.Forall₂ (fun m ↦ IsEntry settings m.id m.titles m.startDate m.cover) records entries ↔
      entries = records.map (·.toSearchResult settings) :=
  forall₂_iff_eq_map fun m r ↦ isEntry_media_iff m settings r

end Entries

end AnimeLookup.Catalog
