import AnimeLookup.Proofs.Title.LightCleaning

/-!
# Which season markers a light cleaning reduces

A light cleaning finds the first season marker by its place, but reduces it by its text: every copy
of that text loses its `S`.  A copy need not be a marker of the same season, since the number of
the first marker may begin a longer one; of `S1 S12` only `1 12` is left.

`FirstMarker` says where the first marker stands, and `withoutMarks` which `S` go.  For every title
the text before the first marker stays, the marker is reduced, and the text behind it stays exactly
if it holds no further copy (`lightClean_firstMarker`).
-/

set_option autoImplicit false

namespace AnimeLookup.Title

open Text

/-! ## The first marker -/

/-- **The first season marker of a text**: a capital `S` and all the digits behind it, between two
texts of which the first holds no marker. -/
structure FirstMarker (s before digits after : List Char) : Prop where
  /-- The text is put together from the parts. -/
  text : s = before ++ 'S' :: (digits ++ after)
  /-- No marker stands before this one. -/
  first : ¬ HasSeasonMarker before
  /-- There is a digit. -/
  digits_ne_nil : digits ≠ []
  /-- There are only digits. -/
  isDigit : ∀ d ∈ digits, d.isDigit = true
  /-- There are no more digits. -/
  stop : ∀ d ∈ after.head?, d.isDigit = false

theorem not_mem_of_isDigit {digits : List Char} (h : ∀ d ∈ digits, d.isDigit = true) :
    'S' ∉ digits :=
  fun hmem ↦ absurd (h 'S' hmem) (by decide)

/-- Digits do not go on over an `S`. -/
theorem takeWhile_isDigit_append (u t : List Char) :
    (u ++ 'S' :: t).takeWhile Char.isDigit = u.takeWhile Char.isDigit := by
  rw [List.takeWhile_append, List.takeWhile_cons_of_neg (by decide), List.append_nil]
  split
  · rename_i hlength
    exact ((List.takeWhile_prefix Char.isDigit).eq_of_length hlength).symm
  · rfl

/-- The number that is looked for is that of the first marker. -/
theorem FirstMarker.seasonNumber_eq {s before digits after : List Char}
    (h : FirstMarker s before digits after) : seasonNumber s = some digits := by
  obtain ⟨rfl, hfirst, hne, hdigit, hstop⟩ := h
  have hnumber := takeWhile_append_of_stop (List.all_eq_true.mpr hdigit) hstop
  induction before with
  | nil => rw [List.nil_append, seasonNumber, hnumber, if_pos ⟨rfl, hne⟩]
  | cons c rest ih =>
    rw [hasSeasonMarker_cons_iff, not_or] at hfirst
    rw [List.cons_append, seasonNumber, takeWhile_isDigit_append, if_neg hfirst.1, ih hfirst.2]

/-- A text with a marker has a first one. -/
theorem exists_firstMarker {s : List Char} (h : HasSeasonMarker s) :
    ∃ before digits after, FirstMarker s before digits after := by
  induction s with
  | nil => exact absurd (mem_of_hasSeasonMarker h) List.not_mem_nil
  | cons c rest ih =>
    by_cases hstart : c = 'S' ∧ rest.takeWhile Char.isDigit ≠ []
    · obtain ⟨rfl, hne⟩ := hstart
      refine ⟨[], rest.takeWhile Char.isDigit, rest.dropWhile Char.isDigit, ?_, ?_, hne,
        List.all_eq_true.mp List.all_takeWhile, ?_⟩
      · rw [List.takeWhile_append_dropWhile, List.nil_append]
      · exact fun hnil ↦ absurd (mem_of_hasSeasonMarker hnil) List.not_mem_nil
      · intro d hd
        have hhead := List.head?_dropWhile_not Char.isDigit rest
        rw [Option.mem_def.mp hd] at hhead
        simpa using hhead
    · have hrest := ((hasSeasonMarker_cons_iff c rest).mp h).resolve_left hstart
      obtain ⟨before, digits, after, rfl, hfirst, hne, hdigit, hstop⟩ := ih hrest
      rw [takeWhile_isDigit_append] at hstart
      refine ⟨c :: before, digits, after, rfl, ?_, hne, hdigit, hstop⟩
      rw [hasSeasonMarker_cons_iff, not_or]
      exact ⟨hstart, hfirst⟩

/-! ## The copies of a marker -/

/-- **A text in which no `S` is left in front of the number.** -/
def withoutMarks (digits : List Char) : List Char → List Char
  | [] => []
  | c :: rest =>
    if c = 'S' ∧ digits <+: rest then withoutMarks digits rest else c :: withoutMarks digits rest

theorem withoutMarks_append {digits u : List Char} (h : 'S' ∉ u) (s : List Char) :
    withoutMarks digits (u ++ s) = u ++ withoutMarks digits s := by
  induction u with
  | nil => rfl
  | cons c rest ih =>
    rw [List.mem_cons, not_or] at h
    rw [List.cons_append, withoutMarks, if_neg fun hmark ↦ h.1 hmark.1.symm, ih h.2,
      List.cons_append]

/-- Passing over a copy and writing its number is dropping its `S`. -/
theorem replaceAfter_marker {digits : List Char} (h : 'S' ∉ digits) (skip : ℕ) (s : List Char) :
    replaceAfter ('S' :: digits) digits skip s = withoutMarks digits (s.drop skip) := by
  induction s generalizing skip with
  | nil => rw [List.drop_nil, withoutMarks, replaceAfter]
  | cons c rest ih =>
    cases skip with
    | succ n => exact ih n
    | zero =>
      have hiff : (List.isPrefixOf ('S' :: digits) (c :: rest) &&
          !('S' :: digits).isEmpty) = true ↔ c = 'S' ∧ digits <+: rest := by
        rw [List.isEmpty_cons, Bool.not_false, Bool.and_true, List.isPrefixOf_iff_prefix,
          List.cons_prefix_cons, eq_comm]
      rw [replaceAfter, List.drop_zero, withoutMarks, ih, ih, List.drop_zero]
      simp only [hiff]
      split
      · rename_i hmark
        obtain ⟨-, more, rfl⟩ := hmark
        rw [List.length_cons, Nat.add_sub_cancel, List.drop_left, withoutMarks_append h]
      · rfl

/-- Reducing all copies of a marker is deleting every `S` in front of its number. -/
theorem replace_marker {digits : List Char} (h : 'S' ∉ digits) (s : List Char) :
    replace ('S' :: digits) digits s = withoutMarks digits s :=
  replaceAfter_marker h 0 s

/-- Nothing is deleted exactly if there is no copy. -/
theorem withoutMarks_eq_self_iff {digits : List Char} (h : 'S' ∉ digits) (s : List Char) :
    withoutMarks digits s = s ↔ ¬ 'S' :: digits <:+: s := by
  rw [← replace_marker h]
  refine ⟨fun heq hin ↦ ?_, replace_eq_self digits⟩
  have hlength := length_replace_add_le (List.cons_ne_nil _ _) hin
    (List.sublist_cons_self 'S' digits).length_le
  rw [heq, List.length_cons] at hlength
  omega

/-! ## The light cleaning -/

theorem FirstMarker.plainSeason_eq {s before digits after : List Char}
    (h : FirstMarker s before digits after) :
    plainSeason s = before ++ digits ++ withoutMarks digits after := by
  have hS := not_mem_of_isDigit h.isDigit
  have hbefore : ¬ 'S' :: digits <:+: before := by
    intro hin
    obtain ⟨d, more, hd⟩ := List.exists_cons_of_ne_nil h.digits_ne_nil
    have hpre : ['S', d] <+: 'S' :: digits := by simp [hd]
    exact h.first ⟨d, h.isDigit d (hd ▸ List.mem_cons_self), hpre.isInfix.trans hin⟩
  -- No copy reaches over the `S` of the marker, so the text is reduced in two parts.
  calc plainSeason s = replace ('S' :: digits) digits s := by rw [plainSeason, h.seasonNumber_eq]
    _ = before ++ withoutMarks digits ('S' :: (digits ++ after)) := by
      rw [h.text, replace_append digits before (noneAcross_cons hS),
        replace_eq_self digits hbefore, replace_marker hS]
    _ = before ++ digits ++ withoutMarks digits after := by
      rw [withoutMarks, if_pos ⟨rfl, List.prefix_append _ _⟩, withoutMarks_append hS,
        List.append_assoc]

/-- **A title on its way to the season markers**, without its aside and in plain punctuation. -/
def beforeSeasons (s : List Char) : List Char := plainPunctuation (dropSpacedAside s)

/-- **What a light cleaning does to the season markers of a title**, after the aside and the
punctuation are seen to.  Without a marker the text stays as it is.  Otherwise there is a first
marker, and wherever it is, the `S` goes from it and from every copy of its text behind it; only
the first marker is reduced exactly if there is no such copy. -/
theorem lightClean_firstMarker (s : List Char) :
    (¬ HasSeasonMarker (beforeSeasons s) → lightClean s = beforeSeasons s) ∧
      (HasSeasonMarker (beforeSeasons s) →
        ∃ before digits after, FirstMarker (beforeSeasons s) before digits after) ∧
      ∀ before digits after, FirstMarker (beforeSeasons s) before digits after →
        lightClean s = before ++ digits ++ withoutMarks digits after ∧
          (lightClean s = before ++ digits ++ after ↔ ¬ 'S' :: digits <:+: after) := by
  refine ⟨plainSeason_eq_self, exists_firstMarker, fun before digits after hmarker ↦ ?_⟩
  have hclean : lightClean s = before ++ digits ++ withoutMarks digits after :=
    hmarker.plainSeason_eq
  refine ⟨hclean, ?_⟩
  rw [hclean, List.append_cancel_left_eq]
  exact withoutMarks_eq_self_iff (not_mem_of_isDigit hmarker.isDigit) after

/-- A marker that stands twice is reduced twice, not the first time only. -/
theorem lightClean_repeated_marker :
    FirstMarker (beforeSeasons "Show S2 and S2 Extra".toList) "Show ".toList ['2']
        " and S2 Extra".toList ∧
      lightClean "Show S2 and S2 Extra".toList ≠ "Show 2 and S2 Extra".toList := by
  have hplain : beforeSeasons "Show S2 and S2 Extra".toList = "Show S2 and S2 Extra".toList := by
    decide
  have hfirst : ¬ HasSeasonMarker "Show ".toList := seasonNumber_eq_none_iff.mp (by decide)
  have hdigit : ∀ d ∈ ['2'], d.isDigit = true := List.forall_mem_singleton.mpr rfl
  have hstop : ∀ d ∈ " and S2 Extra".toList.head?, d.isDigit = false :=
    fun d hd ↦ Option.some.inj hd ▸ rfl
  exact ⟨⟨hplain, hfirst, List.cons_ne_nil _ _, hdigit, hstop⟩, by decide⟩

end AnimeLookup.Title
