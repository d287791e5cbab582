import AnimeLookup.Proofs.Title.DifferentSeasons

/-!
# Seasons spelled out

A season in shorthand (`Title S2`) names the same work as the season spelled out, be it with an
ordinal numeral (`Title 2nd Season`) or with an ordinal word (`Title Second Season`).  The comparison
knows this for every title on one line, whatever digits and season words it has itself
(`equivalent_shorthand_spelledOut`).

How a season is spelled out in English is said here once more (`SpelledOut`), apart from the tables
that the comparison uses: `ordinalSuffix_eq_englishSuffix` and `lowercase_englishOrdinal` say that the
tables are right.  Both titles are folded to the same stem, and the shorthand behind it can be read
in one way only, so the rule for shorthands finds the spelling among those that it tries.
-/

set_option autoImplicit false

namespace AnimeLookup.Title

open Text

/-! ## English ordinals -/

/-- The suffix of an ordinal numeral in English: that of the last digit, except between ten and
twenty. -/
def englishSuffix (n : Nat) : String :=
  if n / 10 % 10 = 1 then "th"
  else match n % 10 with
    | 1 => "st"
    | 2 => "nd"
    | 3 => "rd"
    | _ => "th"

/-- The ordinal words in English, up to ten. -/
def englishOrdinal : Nat → String
  | 1 => "First"
  | 2 => "Second"
  | 3 => "Third"
  | 4 => "Fourth"
  | 5 => "Fifth"
  | 6 => "Sixth"
  | 7 => "Seventh"
  | 8 => "Eighth"
  | 9 => "Ninth"
  | 10 => "Tenth"
  | _ => ""

/-- **The ways to spell out the number of a season**: with an ordinal numeral, and up to ten with an
ordinal word, in capitals or small letters. -/
inductive SpelledOut (k : Nat) : List Char → Prop
  | numeral : SpelledOut k (decimal k ++ (englishSuffix k).toList)
  | word {w : List Char} (hle : k ≤ 10)
    (hw : lowercase w = lowercase (englishOrdinal k).toList) : SpelledOut k w

theorem ordinalSuffix_eq_englishSuffix (n : Nat) : ordinalSuffix n = englishSuffix n := by
  have hall : ∀ r < 100, ordinalSuffix r = englishSuffix r := by decide
  -- The last two digits are enough for both.
  have hordinal : ordinalSuffix n = ordinalSuffix (n % 100) := by
    rw [ordinalSuffix, ordinalSuffix, Nat.mod_mod, Nat.mod_mod_of_dvd n (by decide)]
  have henglish : englishSuffix n = englishSuffix (n % 100) := by
    have htens : n % 100 / 10 % 10 = n / 10 % 10 := by omega
    rw [englishSuffix, englishSuffix, htens, Nat.mod_mod_of_dvd n (by decide)]
  rw [hordinal, henglish]
  exact hall _ (Nat.mod_lt n (by decide))

theorem lowercase_englishOrdinal {k : Nat} (hpos : k ≠ 0) (hle : k ≤ 10) :
    (ordinalWords[k - 1]?).map String.toList = some (lowercase (englishOrdinal k).toList) ∧
      Solid (lowercase (englishOrdinal k).toList) := by
  have hall : ∀ k < 11, (englishOrdinal k).toList.all isAscii = true ∧
      (k ≠ 0 → (ordinalWords[k - 1]?).map String.toList =
        some (lowercaseAscii (englishOrdinal k).toList)) ∧
      Solid (lowercaseAscii (englishOrdinal k).toList) := by
    decide +kernel
  obtain ⟨hascii, hword, hsolid⟩ := hall k (Nat.lt_succ_of_le hle)
  rw [lowercase_of_ascii hascii]
  exact ⟨hword hpos, hsolid⟩

/-! ## Folding -/

/-- An ordinal numeral is in small letters already. -/
theorem lowercase_ordinalNumeral (k : Nat) :
    lowercase (decimal k ++ (ordinalSuffix k).toList) = decimal k ++ (ordinalSuffix k).toList ∧
      Solid (decimal k ++ (ordinalSuffix k).toList) := by
  have hall : ∀ w ∈ ["st", "nd", "rd", "th"],
      w.toList.all isAscii = true ∧ lowercaseAscii w.toList = w.toList ∧ Solid w.toList := by
    decide
  obtain ⟨hletters, hlower, hsolid⟩ := hall _ (ordinalSuffix_mem k)
  have hdigits := all_isDigit_decimal k
  refine ⟨?_, (Solid.of_digits hdigits).append hsolid⟩
  rw [lowercase_digits_append hdigits hletters, hlower]

namespace SpelledOut

variable {k : Nat} {w : List Char} (h : SpelledOut k w) (hpos : k ≠ 0)

include h hpos

theorem solid_lowercase : Solid (lowercase w) := by
  cases h with
  | numeral =>
    rw [← ordinalSuffix_eq_englishSuffix, (lowercase_ordinalNumeral k).1]
    exact (lowercase_ordinalNumeral k).2
  | word hle hw => exact hw ▸ (lowercase_englishOrdinal hpos hle).2

/-- **A number spelled out is among the spellings that are tried**, once it is in small letters. -/
theorem mem_seasonSpellings (stem : List Char) :
    stem ++ (lowercase w ++ "season".toList) ∈ seasonSpellings stem k := by
  rw [seasonSpellings, ← List.append_assoc, List.mem_append]
  cases h with
  | numeral =>
    right
    rw [← ordinalSuffix_eq_englishSuffix, (lowercase_ordinalNumeral k).1, ← List.append_assoc]
    exact List.mem_cons_self
  | word hle hw =>
    left
    obtain ⟨word, hword, heq⟩ := Option.map_eq_some_iff.mp (lowercase_englishOrdinal hpos hle).1
    rw [hw, ← heq, hword]
    exact List.mem_cons_self

theorem fold_spelledOut (p : List Char) :
    fold (p ++ ' ' :: (w ++ " Season".toList)) =
      foldStem p ++ (lowercase w ++ "season".toList) := by
  have hsolid : Solid (lowercase w ++ "season".toList) :=
    (h.solid_lowercase hpos).append (by decide)
  have hseason : lowercase "Season".toList = "season".toList :=
    (lowercase_of_ascii (by decide)).trans (by decide)
  have hsplit : " Season".toList = ' ' :: "Season".toList := by decide
  refine fold_append_words ?_ hsolid (by simp)
  rw [hsplit, lowercase_append_space, hseason, List.filter_append,
    List.filter_cons_of_neg (by decide), ← List.filter_append, hsolid.filter_space]

end SpelledOut

/-! ## The comparison -/

/-- The shorthand of a season behind a title on one line is read back. -/
theorem seasonShorthand_fold {p : List Char} (hline : '\n' ∉ p) (hfold : fold p ≠ [])
    (n : SeasonNumeral) :
    seasonShorthand (fold ((SeasonName.shorthand n).title p)) = some (foldStem p, n.number) := by
  have hstem : foldStem p ≠ [] := fun hnil ↦
    hfold (List.sublist_nil.mp (hnil ▸ fold_sublist_foldStem p))
  have hstemLine : '\n' ∉ foldStem p := fun hmem ↦
    hline (mem_of_mem_lowercase (by decide) (by decide) (mem_foldStem hmem).1).1
  rw [SeasonName.fold_title, seasonShorthand_shorthand, if_pos (by simp [hstem, hstemLine])]

/-- **A season in shorthand meets the season spelled out**, with a numeral or with a word, in both
orders. -/
theorem equivalent_shorthand_spelledOut {p w : List Char} (hline : '\n' ∉ p) (hfold : fold p ≠ [])
    (n : SeasonNumeral) (hw : SpelledOut n.number w) :
    equivalent ((SeasonName.shorthand n).title p) (p ++ ' ' :: (w ++ " Season".toList)) = true ∧
      equivalent (p ++ ' ' :: (w ++ " Season".toList)) ((SeasonName.shorthand n).title p) =
        true := by
  have hmem : ⟨"season_shorthand", shorthandSpelledOut⟩ ∈ rules := by simp [rules]
  have hspelled := hw.mem_seasonSpellings n.value_ne_zero (foldStem p)
  rw [← hw.fold_spelledOut n.value_ne_zero] at hspelled
  refine equivalent_of_accepts (by simp [SeasonName.title]) (by simp) hmem ?_
  have hshorthand := seasonShorthand_fold hline hfold n
  have hnumber : n.number ≠ 0 := n.value_ne_zero
  simp only [shorthandSpelledOut, Pair.of, hshorthand]
  simpa [hnumber] using hspelled

/-- The prefix ends in a digit behind an `s`, and the number has a zero in front. -/
theorem equivalent_second_season :
    '\n' ∉ "Apollo S1".toList ∧ fold "Apollo S1".toList ≠ [] ∧
      SpelledOut 2 "2nd".toList ∧ SpelledOut 2 "SECOND".toList ∧
      equivalent "Apollo S1 S02".toList "Apollo S1 2nd Season".toList = true ∧
      equivalent "Apollo S1 SECOND Season".toList "Apollo S1 S02".toList = true := by
  have hline : '\n' ∉ "Apollo S1".toList := by decide
  have hfold : fold "Apollo S1".toList ≠ [] := by decide +kernel
  have hnumeral : SpelledOut 2 "2nd".toList := .numeral
  have hword : SpelledOut 2 "SECOND".toList := .word (by decide) <| by
    rw [lowercase_of_ascii (by decide), lowercase_of_ascii (by decide)]
    decide
  let n : SeasonNumeral := ⟨"02".toList, by decide, by decide, by decide, by decide⟩
  exact ⟨hline, hfold, hnumeral, hword,
    (equivalent_shorthand_spelledOut hline hfold n hnumeral).1,
    (equivalent_shorthand_spelledOut hline hfold n hword).2⟩

end AnimeLookup.Title
