import AnimeLookup.Proofs.Title.DifferentSeasons
import AnimeLookup.Proofs.Title.HeavyCleaning

/-!
# Titles of films

A film is marked as one in front of its title in Japanese (`Gekijyouban Title`), and behind it in
English (`Title Movie`).  The heavy cleaning takes the first to the second, but the comparison of
titles does not.  It folds the titles before it cleans them, so what the cleaning writes, ` Movie`
with a space and a capital, meets `movie` on the other side.

This is the case for every title, and the reason is the letter `m`.  A folded title has it once more
with the English ending than with the Japanese word, and every form that a rule takes of both titles
has it as often as the folded title (`KeepsCount`).  Where a rule rewrites only one of the titles, it
brings neither an `m` nor a `g` in, and one of these two is what the title lacks
(`MovieSpellings.exists_count_lt`).

Two kinds of rules need a look at the text itself.  Those about asides take the same span out of
both titles, which leaves word and ending where they are (`withoutAside_disagree`).  The one
about season digits looks at one line only, and if this is not the first one, then the word in
front of the title is not seen (`seasonDigit_spellings_agree_iff`).  So this rule accepts some titles
with several lines, and `equivalent_movieSpellings_iff` says that nothing else does.
-/

set_option autoImplicit false

namespace AnimeLookup.Title

open Text

/-! ## The two spellings -/

/-- The Japanese word in front of the title of a film, folded. -/
def foldedWord : List Char := "gekijyouban".toList

/-- The English word behind the title of a film, folded. -/
def foldedEnding : List Char := "movie".toList

/-- **The two spellings of a film with the folded title `x`**, one after the other. -/
inductive MovieSpellings (x : List Char) : List Char → List Char → Prop
  | wordFirst : MovieSpellings x (foldedWord ++ x) (x ++ foldedEnding)
  | endingFirst : MovieSpellings x (x ++ foldedEnding) (foldedWord ++ x)

theorem fold_wordInFront {t : List Char} (h : Trimmed t) :
    fold ("Gekijyouban ".toList ++ t) = foldedWord ++ fold t := by
  have hword : fold "Gekijyouban".toList = foldedWord := by decide +kernel
  have htrimmed : Trimmed "Gekijyouban".toList := trim_eq_self_iff.mp (by decide)
  have hsplit : "Gekijyouban ".toList = "Gekijyouban".toList ++ [' '] := by decide
  rw [hsplit, List.append_assoc, List.singleton_append, fold_append_space htrimmed h, hword]

theorem fold_endingBehind {t : List Char} (h : Trimmed t) :
    fold (t ++ " Movie".toList) = fold t ++ foldedEnding := by
  have hending : fold "Movie".toList = foldedEnding := by decide +kernel
  have htrimmed : Trimmed "Movie".toList := trim_eq_self_iff.mp (by decide)
  have hsplit : " Movie".toList = ' ' :: "Movie".toList := by decide
  rw [hsplit, fold_append_space h htrimmed, hending]

namespace MovieSpellings

variable {x u v : List Char}

theorem symm (h : MovieSpellings x u v) : MovieSpellings x v u := by
  cases h with
  | wordFirst => exact .endingFirst
  | endingFirst => exact .wordFirst

/-- **The ending has an `m`, and the word has none.** -/
theorem count_ne (h : MovieSpellings x u v) : u.count 'm' ≠ v.count 'm' := by
  have hword : foldedWord.count 'm' = 0 := by decide
  have hending : foldedEnding.count 'm' = 1 := by decide
  cases h <;> simp [hword, hending]

/-- Each of the spellings lacks a letter of the other one. -/
theorem exists_count_lt (h : MovieSpellings x u v) : ∃ c ∈ ['g', 'm'], u.count c < v.count c := by
  have hword : foldedWord.count 'm' = 0 ∧ foldedWord.count 'g' = 1 := by decide
  have hending : foldedEnding.count 'm' = 1 ∧ foldedEnding.count 'g' = 0 := by decide
  cases h with
  | wordFirst => exact ⟨'m', by simp, by simp [hword, hending]⟩
  | endingFirst => exact ⟨'g', by simp, by simp [hword, hending]⟩

/-- What has none of these letters more often than one spelling is not the other one. -/
theorem ne_of_count_le (h : MovieSpellings x u v) {t : List Char}
    (ht : ∀ c ∈ ['g', 'm'], t.count c ≤ u.count c) : t ≠ v := by
  rintro rfl
  obtain ⟨c, hc, hlt⟩ := h.exists_count_lt
  exact Nat.not_le_of_lt hlt (ht c hc)

end MovieSpellings

/-! ## Forms that keep the letter -/

/-- **A form of folded titles in which `m` is as often as in the title.** -/
def KeepsCount (form : List Char → List Char) : Prop :=
  ∀ s, (form (fold s)).count 'm' = (fold s).count 'm'

theorem keepsCount_lightClean : KeepsCount lightClean := by
  intro s
  refine count_lightClean (by decide) (by decide) (by decide) (fun haside ↦ ?_)
    (not_mem_fold_of_isUpper (by decide) s)
  exact space_not_mem_fold s (haside.subset List.mem_cons_self)

theorem keepsCount_heavyClean : KeepsCount heavyClean := fun s ↦
  count_m_heavyClean (space_not_mem_fold s) fun _ hc ↦ not_mem_fold_of_isUpper hc s

theorem keepsCount_symbolRun {symbol : Char} (h : sameUpToCase symbol 'm' = false) :
    KeepsCount (symbolRun symbol) :=
  fun s ↦ count_symbolRun h (by decide) (fold s)

theorem keepsCount_remove {pattern : List Char} (h : pattern.count 'm' = 0) :
    KeepsCount (remove pattern) :=
  fun _ ↦ countP_replace_of_eq h.symm

theorem count_twoAsSecondSeason {c : Char} (h : "secondseason".toList.count c = ['2'].count c)
    (s : List Char) : (twoAsSecondSeason s).count c = s.count c :=
  countP_replace_of_eq h

theorem keepsCount_twoAsSecondSeason : KeepsCount twoAsSecondSeason := fun s ↦
  count_twoAsSecondSeason (by decide) (fold s)

theorem keepsCount_comparedForm {form : List Char → List Char} (h : form ∈ comparedForms) :
    KeepsCount form := by
  have hroman : sameUpToCase 'I' 'm' = false := by simp [← Bool.not_eq_true, sameUpToCase_I_iff]
  have hemphasis : sameUpToCase '!' 'm' = false := by
    simp [← Bool.not_eq_true, sameUpToCase_bang_iff]
  simp only [comparedForms, List.mem_cons, List.not_mem_nil, or_false] at h
  rcases h with rfl | rfl | rfl | rfl | rfl | rfl | rfl
  · exact keepsCount_lightClean
  · exact keepsCount_heavyClean
  · exact keepsCount_twoAsSecondSeason
  · exact keepsCount_symbolRun hroman
  · exact keepsCount_symbolRun hemphasis
  · exact keepsCount_remove (by decide)
  · exact keepsCount_remove (by decide)

/-! ## Asides -/

section Asides

variable {x u v t : List Char} {form : List Char → List Char} (hform : form ∈ asideForms)

include hform

/-- **Without their asides the spellings still differ**, since word and ending stay where they
are. -/
theorem withoutAside_disagree
    (hfront : withoutAsideOf (foldedWord ++ x) (form (foldedWord ++ x)) = some t) :
    withoutAsideOf (x ++ foldedEnding) (form (x ++ foldedEnding)) ≠ some t := by
  intro hbehind
  have hword : form foldedWord = foldedWord := asideForm_eq_self hform (by decide)
  have hending : form foldedEnding = foldedEnding := asideForm_eq_self hform (by decide)
  rw [asideForm_append hform, hword, withoutAsideOf_prepend (by decide),
    Option.map_eq_some_iff] at hfront
  rw [asideForm_append hform, hending,
    withoutAsideOf_append (by decide) (by decide) (by decide), Option.map_eq_some_iff] at hbehind
  obtain ⟨y, hy, rfl⟩ := hfront
  obtain ⟨z, hz, heq⟩ := hbehind
  obtain rfl : y = z := Option.some.inj (hy.symm.trans hz)
  have hlength := congrArg List.length heq
  have hlengths : foldedWord.length = 11 ∧ foldedEnding.length = 5 := by decide
  rw [List.length_append, List.length_append] at hlength
  omega

theorem MovieSpellings.withoutAside_ne (h : MovieSpellings x u v)
    (hu : withoutAsideOf u (form u) = some t) : withoutAsideOf v (form v) ≠ some t := by
  intro hv
  cases h with
  | wordFirst => exact withoutAside_disagree hform hu hv
  | endingFirst => exact withoutAside_disagree hform hv hu

/-- A spelling without its aside is not the other one. -/
theorem MovieSpellings.withoutAside_ne_other (h : MovieSpellings x u v) :
    withoutAsideOf u (form u) ≠ some v := by
  intro haside
  obtain ⟨span, -, hv⟩ := Option.map_eq_some_iff.mp haside
  refine h.ne_of_count_le (fun c hc ↦ ?_) hv
  have hcount : (form u).count c = u.count c := by
    simp only [List.mem_cons, List.not_mem_nil, or_false] at hc
    simp only [asideForms, List.mem_cons, List.not_mem_nil, or_false] at hform
    rcases hform with rfl | rfl
    · refine count_twoAsSecondSeason ?_ u
      rcases hc with rfl | rfl <;> decide
    · rfl
  exact hcount ▸ (remove_sublist span (form u)).count_le c

end Asides

/-! ## Seasons -/

section Seasons

variable {x : List Char}

/-- **When the season digits of the two spellings agree**: if they are in a line behind the first
one. -/
theorem seasonDigit_spellings_agree_iff (hspace : ' ' ∉ x) :
    (∃ u, seasonDigit (foldedWord ++ x) = some u ∧ seasonDigit (x ++ foldedEnding) = some u) ↔
      ¬ Marked (firstLine x) ∧ ∃ line ∈ laterLines x, Marked line := by
  have hspaceless : ∀ line ∈ firstLine x :: laterLines x, ' ' ∉ line := fun line hline hmem ↦
    hspace ((sublist_of_mem_splitOn (splitOn_eq_cons x ▸ hline)).subset hmem)
  have hlater : ((laterLines x).findSome? lastSeasonDigit).isSome = true ↔
      ∃ line ∈ laterLines x, Marked line := by
    rw [List.findSome?_isSome_iff]
    exact exists_congr fun line ↦ and_congr_right fun hline ↦
      lastSeasonDigit_isSome_iff (hspaceless line (List.mem_cons_of_mem _ hline))
  rw [seasonDigit_prepend (by decide) (by decide),
    seasonDigit_append_of_none (by decide) (by decide) (by decide), seasonDigit_eq_or, ← hlater,
    ← lastSeasonDigit_isSome_iff (hspaceless _ List.mem_cons_self)]
  cases lastSeasonDigit (firstLine x) with
  | some w =>
    -- The word stands in front of the first line, and what is found there differs by it.
    refine iff_of_false ?_ (by simp)
    rintro ⟨u, hfront, hbehind⟩
    have heq : foldedWord ++ w = w := (Option.some.inj hfront).trans (Option.some.inj hbehind).symm
    have hnil : foldedWord = [] := List.append_left_eq_self.mp heq
    exact absurd hnil (by decide)
  | none =>
    rw [Option.map_none, Option.none_or]
    simp [Option.isSome_iff_exists]

/-- A spelled-out season does not end where a film does, and no season in shorthand does. -/
theorem MovieSpellings.not_mem_seasonSpellings {u v start : List Char} {k : Nat}
    (h : MovieSpellings x u v) (hu : seasonShorthand u = some (start, k)) :
    v ∉ seasonSpellings start k := by
  intro hv
  cases h with
  | wordFirst =>
    obtain ⟨spelled, heq, -⟩ := mem_seasonSpellings hv
    have hlast := congrArg List.getLast? heq
    rw [List.getLast?_append, List.getLast?_append] at hlast
    exact absurd (Option.some.inj hlast) (by decide)
  | endingFirst =>
    have hnone : seasonShorthand (x ++ foldedEnding) = none := by
      refine seasonShorthand_eq_none fun c hc ↦ ?_
      rw [List.getLast?_append] at hc
      obtain rfl : 'e' = c := Option.some.inj hc
      rfl
    exact absurd (hu.symm.trans hnone) (by simp)

end Seasons

/-! ## The chain on titles of films -/

/-- **Only the season digits can agree in the two spellings of a film.** -/
theorem seasonDigitPair_of_accepts {x p q : List Char} (h : MovieSpellings x (fold p) (fold q)) :
    ∀ r ∈ rules, r.accepts (Pair.of p q) = true →
      r.name = "season_digit_pair" ∧
        ∃ u, seasonDigit (fold p) = some u ∧ seasonDigit (fold q) = some u := by
  intro r hr haccepts
  cases agree_of_accepts r hr haccepts with
  | same heq => exact absurd (congrArg (List.count 'm') heq) h.count_ne
  | inForm hform heq =>
    have hcount := congrArg (List.count 'm') heq
    rw [keepsCount_comparedForm hform p, keepsCount_comparedForm hform q] at hcount
    exact absurd hcount h.count_ne
  | withoutRest _ heq =>
    exact absurd heq (h.ne_of_count_le fun c _ ↦ (remove_sublist _ _).count_le c)
  | seasonDigits hname hp hq => exact ⟨hname, _, hp, hq⟩
  | seasonDigitOfFirst hp =>
    exact absurd rfl (h.ne_of_count_le fun c _ ↦ (sublist_of_seasonDigit hp).count_le c)
  | asides hform hp hq => exact absurd hq (h.withoutAside_ne hform hp)
  | asideOfFirst hform hp => exact absurd hp (h.withoutAside_ne_other hform)
  | asideOfSecond hq => exact absurd hq (h.symm.withoutAside_ne_other id_mem_asideForms)
  | spelledOut hp hq => exact absurd hq (h.not_mem_seasonSpellings hp)

/-! ## The comparison of titles of films -/

/-- **The Japanese and the English way to mark a film are not taken for the same**, except by the
rule about season digits, and by this one exactly if there is none in the first line of the folded
title and one in a later line. -/
theorem equivalent_movieSpellings_iff (t : List Char) (h : Trimmed t) :
    (equivalent ("Gekijyouban ".toList ++ t) (t ++ " Movie".toList) = true ↔
        ¬ Marked (firstLine (fold t)) ∧ ∃ line ∈ laterLines (fold t), Marked line) ∧
      ∀ r ∈ rules, r.accepts (Pair.of ("Gekijyouban ".toList ++ t) (t ++ " Movie".toList)) = true ∨
        r.accepts (Pair.of (t ++ " Movie".toList) ("Gekijyouban ".toList ++ t)) = true →
          r.name = "season_digit_pair" := by
  have hfront := fold_wordInFront h
  have hbehind := fold_endingBehind h
  have hspellings : MovieSpellings (fold t) (fold ("Gekijyouban ".toList ++ t))
      (fold (t ++ " Movie".toList)) := by
    rw [hfront, hbehind]
    exact .wordFirst
  have hne : "Gekijyouban ".toList ++ t ≠ [] ∧ t ++ " Movie".toList ≠ [] := by simp
  rw [equivalent_iff_exists hne.1 hne.2, ← seasonDigit_spellings_agree_iff (space_not_mem_fold t),
    ← hfront, ← hbehind]
  refine ⟨⟨?_, ?_⟩, ?_⟩
  · rintro ⟨r, hr, haccepts | haccepts⟩
    · exact (seasonDigitPair_of_accepts hspellings r hr haccepts).2
    · obtain ⟨u, hu, hv⟩ := (seasonDigitPair_of_accepts hspellings.symm r hr haccepts).2
      exact ⟨u, hv, hu⟩
  · rintro ⟨u, hu, hv⟩
    obtain ⟨r, hr, haccepts⟩ := accepts_of_seasonDigits hu hv
    exact ⟨r, hr, .inl haccepts⟩
  · rintro r hr (haccepts | haccepts)
    · exact (seasonDigitPair_of_accepts hspellings r hr haccepts).1
    · exact (seasonDigitPair_of_accepts hspellings.symm r hr haccepts).1

/-- A film is told from itself in its other spelling, until a season digit comes into a later
line. -/
theorem equivalent_film_spellings :
    Trimmed "Kara no Kyoukai".toList ∧
      ¬ equivalent ("Gekijyouban ".toList ++ "Kara no Kyoukai".toList)
        ("Kara no Kyoukai".toList ++ " Movie".toList) = true ∧
      Trimmed "Kara no\nKyoukais 9".toList ∧
      equivalent ("Gekijyouban ".toList ++ "Kara no\nKyoukais 9".toList)
        ("Kara no\nKyoukais 9".toList ++ " Movie".toList) = true := by
  have hplain : Trimmed "Kara no Kyoukai".toList := trim_eq_self_iff.mp (by decide)
  have hmarked : Trimmed "Kara no\nKyoukais 9".toList := trim_eq_self_iff.mp (by decide)
  refine ⟨hplain, fun h ↦ ?_, hmarked, ?_⟩
  · exact absurd ((equivalent_movieSpellings_iff _ hplain).1.mp h) (by decide +kernel)
  · exact (equivalent_movieSpellings_iff _ hmarked).1.mpr (by decide +kernel)

/-- **The heavy cleaning takes one spelling of a film to the other, and the comparison does not.** -/
theorem cleaned_alike_not_equivalent :
    heavyClean "Gekijyouban Foo".toList = heavyClean "Foo Movie".toList ∧
      "Foo".toList ≠ [] ∧ Trimmed "Foo".toList ∧
        equivalent "Gekijyouban Foo".toList "Foo Movie".toList = false := by
  refine ⟨by decide, by decide, trim_eq_self_iff.mp (by decide), ?_⟩
  decide +kernel

end AnimeLookup.Title
