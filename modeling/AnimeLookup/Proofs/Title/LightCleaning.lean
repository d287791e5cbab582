import AnimeLookup.Proofs.Text.Copies
import AnimeLookup.Proofs.Text.Trimming
import AnimeLookup.Title.Cleaning
import Mathlib.Logic.Function.Iterate

/-!
# Cleaning lightly, again and again

A light cleaning is not always finished after one pass.  It drops the white space at the ends of a
title before it makes new white space out of a hyphen, and it reduces one season marker only, which
may bring an `S` in front of a digit and so make the next one.  This file says exactly what is left
to do, and that it comes to an end (`lightClean_settles`).

After one pass there is no loose punctuation any more (`unpunctuated_lightClean`), and on such a text
only two of the steps have an effect, trimming and reducing a marker
(`lightClean_of_unpunctuated`).  Hence a cleaned title is settled exactly if it is trimmed and has no
marker, and if it is not settled it gets shorter.

The number of passes is bounded by the number of capital `S`.  As long as a marker is left, each pass
has cost an `S` (`count_iterate_lightClean`), so the markers are gone when the last `S` is; one pass
more to trim, and the title is settled.
-/

set_option autoImplicit false

namespace AnimeLookup.Title

open Text

/-! ## Loose punctuation -/

/-- The punctuation that a light cleaning leaves nowhere. -/
def loosePunctuation : List Char := ['.', '-', '\x60', '\'', '&', '(', ')']

/-- **A text without loose punctuation.** -/
def Unpunctuated (s : List Char) : Prop := ∀ c ∈ loosePunctuation, c ∉ s

theorem Unpunctuated.of_subset {s t : List Char} (h : Unpunctuated s) (hsub : t ⊆ s) :
    Unpunctuated t :=
  fun c hc hmem ↦ h c hc (hsub hmem)

theorem plainForm_eq_self {c : Char} (h : c ∉ loosePunctuation) : plainForm c = [c] := by
  unfold plainForm
  split <;> first | rfl | exact absurd (by decide) h

/-- What is written for loose punctuation. -/
theorem mem_of_mem_plainForm {c d : Char} (h : d ∈ loosePunctuation) (hc : c ∈ plainForm d) :
    c ∈ [' ', 'a', 'n', 'd'] := by
  have hall : (loosePunctuation.all fun d ↦
      (plainForm d).all [' ', 'a', 'n', 'd'].contains) = true := by
    decide
  exact List.contains_iff_mem.mp (List.all_eq_true.mp (List.all_eq_true.mp hall d h) c hc)

theorem not_mem_plainForm {c : Char} (h : c ∈ loosePunctuation) (d : Char) : c ∉ plainForm d := by
  by_cases hd : d ∈ loosePunctuation
  · have hall : (loosePunctuation.all fun c ↦ !([' ', 'a', 'n', 'd'].contains c)) = true := by
      decide
    intro hmem
    have hnot := List.all_eq_true.mp hall c h
    rw [List.contains_iff_mem.mpr (mem_of_mem_plainForm hd hmem)] at hnot
    exact absurd hnot (by decide)
  · rw [plainForm_eq_self hd, List.mem_singleton]
    exact fun heq ↦ hd (heq ▸ h)

theorem unpunctuated_plainPunctuation (s : List Char) : Unpunctuated (plainPunctuation s) := by
  intro c hc hmem
  obtain ⟨d, -, hd⟩ := List.mem_flatMap.mp hmem
  exact not_mem_plainForm hc d hd

theorem plainPunctuation_eq_self {s : List Char} (h : Unpunctuated s) : plainPunctuation s = s := by
  induction s with
  | nil => rfl
  | cons c rest ih =>
    have hc : c ∉ loosePunctuation := fun hc ↦ h c hc List.mem_cons_self
    have hrest : Unpunctuated rest := h.of_subset (List.subset_cons_self c rest)
    rw [plainPunctuation, List.flatMap_cons, plainForm_eq_self hc, ← plainPunctuation, ih hrest,
      List.singleton_append]

/-- No capital comes from plain punctuation. -/
theorem not_mem_plainPunctuation {c : Char} {u : List Char} (hc : c.isUpper = true) (h : c ∉ u) :
    c ∉ plainPunctuation u := by
  have hform : ∀ d, plainForm d = [d] ∨ (plainForm d).all (!·.isUpper) = true := by
    intro d
    unfold plainForm
    split <;> first | exact .inl rfl | exact .inr (by decide)
  intro hmem
  obtain ⟨d, hd, hcd⟩ := List.mem_flatMap.mp hmem
  rcases hform d with hsame | hsmall
  · rw [hsame, List.mem_singleton] at hcd
    exact h (hcd ▸ hd)
  · have hnot := List.all_eq_true.mp hsmall c hcd
    rw [hc] at hnot
    exact absurd hnot (by decide)

/-- **Other characters are as many as before.** -/
theorem count_plainPunctuation {c : Char} (hloose : c ∉ loosePunctuation)
    (hwritten : c ∉ [' ', 'a', 'n', 'd']) (s : List Char) :
    (plainPunctuation s).count c = s.count c := by
  have hform : ∀ d, (plainForm d).count c = [d].count c := by
    intro d
    by_cases hd : d ∈ loosePunctuation
    · have hnew : (plainForm d).count c = 0 :=
        List.count_eq_zero.mpr fun hmem ↦ hwritten (mem_of_mem_plainForm hd hmem)
      have hold : [d].count c = 0 :=
        List.count_eq_zero.mpr fun hmem ↦ hloose (List.mem_singleton.mp hmem ▸ hd)
      rw [hnew, hold]
    · rw [plainForm_eq_self hd]
  induction s with
  | nil => rfl
  | cons d rest ih =>
    rw [plainPunctuation, List.flatMap_cons, List.count_append, hform, ← plainPunctuation, ih,
      ← List.count_append, List.singleton_append]

/-! ## Asides -/

theorem firstSpacedAside_append {u : List Char} (h : ' ' ∉ u) (t : List Char) :
    firstSpacedAside (u ++ t) = firstSpacedAside t := by
  induction u with
  | nil => rfl
  | cons c rest ih =>
    rw [List.mem_cons, not_or] at h
    rw [List.cons_append, firstSpacedAside, if_neg (by simp [h.1]), ih h.2]

theorem firstSpacedAside_eq_none {s : List Char} (h : ¬ [' ', '('] <:+: s) :
    firstSpacedAside s = none := by
  induction s with
  | nil => rfl
  | cons c rest ih =>
    rw [List.infix_cons_iff, not_or] at h
    rw [firstSpacedAside, if_neg (by simpa [List.isPrefixOf_iff_prefix] using h.1), ih h.2]

theorem dropSpacedAside_eq_trim {s : List Char} (h : ¬ [' ', '('] <:+: s) :
    dropSpacedAside s = trim s := by
  rw [dropSpacedAside, firstSpacedAside_eq_none fun hin ↦ h (hin.trans (isInfix_trim s))]

theorem dropSpacedAside_sublist (s : List Char) : (dropSpacedAside s).Sublist s := by
  rw [dropSpacedAside]
  split
  · exact (remove_sublist _ _).trans (trim_sublist s)
  · exact trim_sublist s

/-! ## Season markers -/

/-- **A capital `S` with a digit directly behind it.** -/
def HasSeasonMarker (s : List Char) : Prop := ∃ d : Char, d.isDigit = true ∧ ['S', d] <:+: s

theorem HasSeasonMarker.of_infix {s t : List Char} (h : HasSeasonMarker t) (hin : t <:+: s) :
    HasSeasonMarker s := by
  obtain ⟨d, hd, hmarker⟩ := h
  exact ⟨d, hd, hmarker.trans hin⟩

theorem mem_of_hasSeasonMarker {s : List Char} (h : HasSeasonMarker s) : 'S' ∈ s := by
  obtain ⟨d, -, hmarker⟩ := h
  exact hmarker.subset List.mem_cons_self

/-- A marker stands at the beginning of a text or behind its first character. -/
theorem hasSeasonMarker_cons_iff (c : Char) (rest : List Char) :
    HasSeasonMarker (c :: rest) ↔
      (c = 'S' ∧ rest.takeWhile Char.isDigit ≠ []) ∨ HasSeasonMarker rest := by
  have hstart : (∃ d : Char, d.isDigit = true ∧ ['S', d] <+: c :: rest) ↔
      c = 'S' ∧ rest.takeWhile Char.isDigit ≠ [] := by
    cases rest with
    | nil => simp
    | cons d more =>
      constructor
      · rintro ⟨e, he, hpre⟩
        obtain ⟨rfl, hmore⟩ := List.cons_prefix_cons.mp hpre
        obtain ⟨rfl, -⟩ := List.cons_prefix_cons.mp hmore
        exact ⟨rfl, by simp [he]⟩
      · rintro ⟨rfl, hne⟩
        by_cases hd : d.isDigit = true
        · exact ⟨d, hd, by simp⟩
        · exact absurd (by simp [hd]) hne
  simp only [HasSeasonMarker, List.infix_cons_iff, and_or_left, exists_or, hstart]

theorem seasonNumber_eq_none_iff {s : List Char} : seasonNumber s = none ↔ ¬ HasSeasonMarker s := by
  induction s with
  | nil => simp [seasonNumber, HasSeasonMarker]
  | cons c rest ih =>
    rw [seasonNumber, hasSeasonMarker_cons_iff, not_or, ← ih]
    split
    · rename_i hstart
      exact iff_of_false (by simp) fun h ↦ h.1 hstart
    · rename_i hstart
      exact (and_iff_right hstart).symm

theorem seasonNumber_eq_none {s : List Char} (h : 'S' ∉ s) : seasonNumber s = none :=
  seasonNumber_eq_none_iff.mpr fun hmarker ↦ h (mem_of_hasSeasonMarker hmarker)

/-- The marker that is found stands in the text, and its number consists of digits. -/
theorem infix_of_seasonNumber {s digits : List Char} (h : seasonNumber s = some digits) :
    'S' :: digits <:+: s ∧ ∀ d ∈ digits, d.isDigit = true := by
  induction s with
  | nil => exact absurd h (by simp [seasonNumber])
  | cons c rest ih =>
    rw [seasonNumber] at h
    split at h
    · rename_i hstart
      obtain rfl := Option.some.inj h
      refine ⟨?_, List.all_eq_true.mp List.all_takeWhile⟩
      rw [← hstart.1]
      exact (List.cons_prefix_cons.mpr ⟨rfl, List.takeWhile_prefix _⟩).isInfix
    · obtain ⟨hin, hdigits⟩ := ih h
      exact ⟨List.infix_cons hin, hdigits⟩

theorem plainSeason_eq_self {s : List Char} (h : ¬ HasSeasonMarker s) : plainSeason s = s := by
  rw [plainSeason, seasonNumber_eq_none_iff.mpr h]

theorem plainSeason_subset (s : List Char) : plainSeason s ⊆ s := by
  rw [plainSeason]
  split
  · rename_i digits hdigits
    intro c hc
    rcases mem_of_mem_replace hc with hnew | hold
    · exact (infix_of_seasonNumber hdigits).1.subset (List.mem_cons_of_mem 'S' hnew)
    · exact hold
  · exact List.Subset.refl s

/-- **Reducing a marker costs an `S`**, and makes the text shorter. -/
theorem plainSeason_lt {s : List Char} (h : HasSeasonMarker s) :
    (plainSeason s).count 'S' < s.count 'S' ∧ (plainSeason s).length < s.length := by
  cases hdigits : seasonNumber s with
  | none => exact absurd h (seasonNumber_eq_none_iff.mp hdigits)
  | some digits =>
    obtain ⟨hin, hdigit⟩ := infix_of_seasonNumber hdigits
    have hS : 'S' ∉ digits := fun hmem ↦ absurd (hdigit 'S' hmem) (by decide)
    have hreduced : plainSeason s = replace ('S' :: digits) digits s := by
      rw [plainSeason, hdigits]
    rw [hreduced]
    constructor
    · have hcount : (replace ('S' :: digits) digits s).count 'S' + ('S' :: digits).count 'S' ≤
          s.count 'S' + digits.count 'S' :=
        countP_replace_add_le (List.cons_ne_nil _ _) hin ((List.sublist_cons_self _ _).count_le 'S')
      rw [List.count_cons_self] at hcount
      omega
    · have hlength := length_replace_add_le (List.cons_ne_nil _ _) hin
        (List.sublist_cons_self 'S' digits).length_le
      rw [List.length_cons] at hlength
      omega

/-! ## One pass -/

/-- **A light cleaning leaves no loose punctuation.** -/
theorem unpunctuated_lightClean (s : List Char) : Unpunctuated (lightClean s) :=
  (unpunctuated_plainPunctuation _).of_subset (plainSeason_subset _)

/-- Without a spaced aside and a season marker, a light cleaning is a matter of white space and
punctuation. -/
theorem lightClean_of_bare {s : List Char} (haside : ¬ [' ', '('] <:+: s) (hmarker : 'S' ∉ s) :
    lightClean s = plainPunctuation (trim s) := by
  have hnone : ¬ HasSeasonMarker (plainPunctuation (trim s)) := fun h ↦
    not_mem_plainPunctuation (by decide) (fun hS ↦ hmarker (mem_of_mem_trim hS))
      (mem_of_hasSeasonMarker h)
  rw [lightClean, dropSpacedAside_eq_trim haside, plainSeason_eq_self hnone]

/-- The characters that such a cleaning does not touch are as many as before. -/
theorem count_lightClean {c : Char} (hblank : isBlank c = false) (hloose : c ∉ loosePunctuation)
    (hwritten : c ∉ [' ', 'a', 'n', 'd']) {s : List Char} (haside : ¬ [' ', '('] <:+: s)
    (hmarker : 'S' ∉ s) : (lightClean s).count c = s.count c := by
  rw [lightClean_of_bare haside hmarker, count_plainPunctuation hloose hwritten, count_trim hblank]

/-- Without loose punctuation there is nothing to do but trimming and reducing a marker. -/
theorem lightClean_of_unpunctuated {t : List Char} (h : Unpunctuated t) :
    lightClean t = plainSeason (trim t) := by
  have htrim : Unpunctuated (trim t) := h.of_subset (trim_sublist t).subset
  have haside : ¬ [' ', '('] <:+: t := fun hin ↦ h '(' (by decide) (hin.subset (by simp))
  rw [lightClean, dropSpacedAside_eq_trim haside, plainPunctuation_eq_self htrim]

theorem lightClean_eq_self {t : List Char} (h : Unpunctuated t) (htrim : Trimmed t)
    (hmarker : ¬ HasSeasonMarker t) : lightClean t = t := by
  rw [lightClean_of_unpunctuated h, trim_eq_self_iff.mpr htrim, plainSeason_eq_self hmarker]

theorem length_plainSeason_le (s : List Char) : (plainSeason s).length ≤ s.length := by
  by_cases h : HasSeasonMarker s
  · exact Nat.le_of_lt (plainSeason_lt h).2
  · exact Nat.le_of_eq (congrArg List.length (plainSeason_eq_self h))

/-- **A text that is not settled gets shorter.** -/
theorem length_lightClean_lt {t : List Char} (h : Unpunctuated t)
    (hopen : ¬ (Trimmed t ∧ ¬ HasSeasonMarker t)) : (lightClean t).length < t.length := by
  rw [lightClean_of_unpunctuated h]
  by_cases htrim : Trimmed t
  · have hmarker : HasSeasonMarker t := by
      by_contra hnone
      exact hopen ⟨htrim, hnone⟩
    rw [trim_eq_self_iff.mpr htrim]
    exact (plainSeason_lt hmarker).2
  · exact Nat.lt_of_le_of_lt (length_plainSeason_le _) (length_trim_lt htrim)

/-- **The texts that a light cleaning leaves as they are**, among those without loose
punctuation. -/
theorem lightClean_eq_self_iff {t : List Char} (h : Unpunctuated t) :
    lightClean t = t ↔ Trimmed t ∧ ¬ HasSeasonMarker t := by
  refine ⟨fun heq ↦ ?_, fun hsettled ↦ lightClean_eq_self h hsettled.1 hsettled.2⟩
  by_contra hopen
  have hlength := length_lightClean_lt h hopen
  rw [heq] at hlength
  exact Nat.lt_irrefl _ hlength

theorem length_lightClean_le {t : List Char} (h : Unpunctuated t) :
    (lightClean t).length ≤ t.length := by
  rw [lightClean_of_unpunctuated h]
  exact Nat.le_trans (length_plainSeason_le _) (length_trim_le t)

/-! ## Counting the markers down -/

theorem count_lightClean_le (s : List Char) : (lightClean s).count 'S' ≤ s.count 'S' := by
  have hle : (plainPunctuation (dropSpacedAside s)).count 'S' ≤ s.count 'S' := by
    rw [count_plainPunctuation (by decide) (by decide)]
    exact (dropSpacedAside_sublist s).count_le 'S'
  rw [lightClean]
  by_cases hmarker : HasSeasonMarker (plainPunctuation (dropSpacedAside s))
  · exact Nat.le_of_lt (Nat.lt_of_lt_of_le (plainSeason_lt hmarker).1 hle)
  · rwa [plainSeason_eq_self hmarker]

/-- Without loose punctuation no pass makes a marker where there was none. -/
theorem hasSeasonMarker_of_lightClean {t : List Char} (h : Unpunctuated t)
    (hmarker : HasSeasonMarker (lightClean t)) : HasSeasonMarker t := by
  rw [lightClean_of_unpunctuated h] at hmarker
  by_contra hnone
  have htrim : ¬ HasSeasonMarker (trim t) := fun htrim ↦ hnone (htrim.of_infix (isInfix_trim t))
  rw [plainSeason_eq_self htrim] at hmarker
  exact htrim hmarker

theorem unpunctuated_iterate {t : List Char} (h : Unpunctuated t) (n : ℕ) :
    Unpunctuated (lightClean^[n] t) := by
  cases n with
  | zero => exact h
  | succ n =>
    rw [Function.iterate_succ_apply']
    exact unpunctuated_lightClean _

/-- **A marker that is left has cost an `S`**, since a pass without anything to reduce leaves no
marker. -/
theorem count_lightClean_lt {t : List Char} (h : Unpunctuated t)
    (hmarker : HasSeasonMarker (lightClean t)) : (lightClean t).count 'S' < t.count 'S' := by
  have hle : (trim t).count 'S' ≤ t.count 'S' := (trim_sublist t).count_le 'S'
  rw [lightClean_of_unpunctuated h] at hmarker ⊢
  by_cases htrim : HasSeasonMarker (trim t)
  · exact Nat.lt_of_lt_of_le (plainSeason_lt htrim).1 hle
  · rw [plainSeason_eq_self htrim] at hmarker
    exact absurd hmarker htrim

/-- **As long as a marker is left, every pass has cost an `S`.** -/
theorem count_iterate_lightClean {t : List Char} (h : Unpunctuated t) (n : ℕ)
    (hmarker : HasSeasonMarker (lightClean^[n] t)) :
    (lightClean^[n] t).count 'S' + n ≤ t.count 'S' := by
  induction n with
  | zero => exact Nat.le_refl _
  | succ n ih =>
    rw [Function.iterate_succ_apply'] at hmarker ⊢
    have hbefore := ih (hasSeasonMarker_of_lightClean (unpunctuated_iterate h n) hmarker)
    have hcost := count_lightClean_lt (unpunctuated_iterate h n) hmarker
    omega

/-- When there have been more passes than there are capital `S`, no marker is left. -/
theorem not_hasSeasonMarker_iterate (s : List Char) :
    ¬ HasSeasonMarker (lightClean^[s.count 'S' + 1] s) := by
  rw [Function.iterate_succ_apply]
  intro hmarker
  have hcount := count_iterate_lightClean (unpunctuated_lightClean s) (s.count 'S') hmarker
  have hle := count_lightClean_le s
  have hpos := List.count_pos_iff.mpr (mem_of_hasSeasonMarker hmarker)
  omega

/-- **What one light cleaning achieves, and how the further ones end.**  There is no loose
punctuation any more.  The cleaned title is settled exactly if it has no white space at its ends and
no season marker, and otherwise the next pass makes it shorter.  After as many passes as the title
has capital `S`, and two more, it is settled. -/
theorem lightClean_settles (s : List Char) :
    (∀ c ∈ ['.', '-', '\x60', '\'', '&', '(', ')'], c ∉ lightClean s) ∧
      (lightClean (lightClean s) = lightClean s ↔
        Trimmed (lightClean s) ∧ ¬ HasSeasonMarker (lightClean s)) ∧
      (lightClean (lightClean s) ≠ lightClean s →
        (lightClean (lightClean s)).length < (lightClean s).length) ∧
      ∃ n ≤ s.count 'S' + 2, lightClean (lightClean^[n] s) = lightClean^[n] s := by
  have hplain := unpunctuated_lightClean s
  refine ⟨hplain, lightClean_eq_self_iff hplain, fun hopen ↦ ?_, _, Nat.le_refl _, ?_⟩
  · exact length_lightClean_lt hplain (mt (lightClean_eq_self_iff hplain).mpr hopen)
  -- The last pass only trims, because no marker is left for it.
  have hmarker := not_hasSeasonMarker_iterate s
  have hbefore : Unpunctuated (lightClean^[s.count 'S' + 1] s) := by
    rw [Function.iterate_succ_apply']
    exact unpunctuated_lightClean _
  rw [Function.iterate_succ_apply' lightClean (s.count 'S' + 1)]
  generalize lightClean^[s.count 'S' + 1] s = u at hmarker hbefore
  have htrim : ¬ HasSeasonMarker (trim u) := fun h ↦ hmarker (h.of_infix (isInfix_trim u))
  rw [lightClean_of_unpunctuated hbefore, plainSeason_eq_self htrim]
  exact lightClean_eq_self (hbefore.of_subset (trim_sublist u).subset) (trimmed_trim u) htrim

end AnimeLookup.Title
