import AnimeLookup.Proofs.Title.LightCleaning
import AnimeLookup.Proofs.Title.RunNumerals
import AnimeLookup.Proofs.Title.SeasonNames

/-!
# What the rules make of the name of a season

The forms that rules compare go over a whole title.  This file says what they make of one that
consists of a stem and the folded name of a season: each of them treats the two parts by
themselves.

* The cleanings and the counting of runs leave the name as it is, and what they put before and
  behind it depends on the stem only (`KeepsTail`).
* A form that removes or rewrites a pattern does so in each part (`replace_append`), since no
  occurrence of the patterns in question reaches from the stem into the name.
-/

set_option autoImplicit false

namespace AnimeLookup.Title

open Text

/-! ## Forms that keep the name -/

/-- **A form that leaves the name of a season as it is**, and puts around it what depends on the
stem only. -/
def KeepsTail (form : List Char → List Char) (stem : List Char) : Prop :=
  ∃ front back, ∀ s : SeasonName, form (stem ++ s.tail) = front ++ s.tail ++ back

namespace SeasonName

variable (s : SeasonName)

/-- A pattern that can only begin with an `s` or a digit does not reach into the name. -/
theorem noneAcross_tail {pattern t : List Char}
    (h : (pattern.tail.all fun c ↦ c ≠ 's' && !c.isDigit) = true) :
    NoneAcross pattern (s.tail ++ t) := by
  have hmem : ∀ c ∈ pattern.tail, c ≠ 's' ∧ c.isDigit = false := by simpa using h
  cases s with
  | shorthand n =>
    rw [tail, List.cons_append]
    exact noneAcross_cons fun hs ↦ (hmem _ hs).1 rfl
  | ordinal n =>
    obtain ⟨d, more, hn, hd⟩ := n.exists_digits_eq_cons
    rw [tail, hn]
    exact noneAcross_cons fun hin ↦ Bool.false_ne_true ((hmem d hin).2.symm.trans hd)

/-! ### Runs -/

theorem keepsTail_symbolRun {symbol : Char}
    (h : ∀ c, isTailChar c = true → sameUpToCase symbol c = false) (stem : List Char) :
    KeepsTail (symbolRun symbol) stem :=
  ⟨symbolRun symbol stem, [], fun s ↦ by
    rw [symbolRun_append (fun c hc ↦ h c (isTailChar_of_mem hc)), List.append_nil]⟩

theorem keepsTail_romanRun (stem : List Char) : KeepsTail (symbolRun 'I') stem := by
  refine keepsTail_symbolRun (fun c hc ↦ eq_false_of_ne_true fun hsame ↦ ?_) stem
  rcases (sameUpToCase_I_iff c).mp hsame with rfl | rfl <;> exact absurd hc (by decide)

theorem keepsTail_emphasisRun (stem : List Char) : KeepsTail (symbolRun '!') stem := by
  refine keepsTail_symbolRun (fun c hc ↦ eq_false_of_ne_true fun hsame ↦ ?_) stem
  rw [(sameUpToCase_bang_iff c).mp hsame] at hc
  exact absurd hc (by decide)

/-! ### The light cleaning -/

theorem plainForm_of_isTailChar {c : Char} (h : isTailChar c = true) : plainForm c = [c] := by
  unfold plainForm
  split <;> first | rfl | exact absurd h (by decide)

theorem plainPunctuation_tail : plainPunctuation s.tail = s.tail := by
  have hall : ∀ {t : List Char}, (∀ c ∈ t, isTailChar c = true) → t.flatMap plainForm = t := by
    intro t ht
    induction t with
    | nil => rfl
    | cons c rest ih =>
      obtain ⟨hc, hrest⟩ := List.forall_mem_cons.mp ht
      rw [List.flatMap_cons, plainForm_of_isTailChar hc, ih hrest, List.singleton_append]
  exact hall fun _ ↦ isTailChar_of_mem

/-- What an expansion of the word for a film may put behind a title. -/
def IsEnding (back : List Char) : Prop := back = [] ∨ back = " Movie".toList

theorem trim_tail {front back : List Char} (hback : IsEnding back) :
    trim (front ++ s.tail ++ back) = trimStart front ++ s.tail ++ back := by
  obtain ⟨c, more, hstart, hc⟩ := s.exists_tail_eq_cons
  rcases hback with rfl | rfl
  · rw [List.append_nil, trim_append_tail, List.append_nil]
  · rw [List.append_assoc, List.append_assoc]
    have hcons : s.tail ++ " Movie".toList = c :: (more ++ " Movie".toList) := by
      rw [hstart, List.cons_append]
    have hconcat : s.tail ++ " Movie".toList = (s.tail ++ " Movi".toList) ++ ['e'] := by
      rw [List.append_assoc]
      rfl
    exact trim_append hcons (isBlank_of_isTailChar hc) hconcat (by decide)

/-- **The light cleaning leaves the name of a season alone.** -/
theorem lightClean_tail {front back : List Char} (hspace : ' ' ∉ front) (hcapital : 'S' ∉ front)
    (hback : IsEnding back) :
    lightClean (front ++ s.tail ++ back) =
      plainPunctuation (trimStart front) ++ s.tail ++ back := by
  have hsub : ∀ c, c ∈ trimStart front → c ∈ front := fun c hc ↦
    (List.dropWhile_sublist isBlank).subset hc
  have hending : firstSpacedAside back = none ∧ plainPunctuation back = back ∧ 'S' ∉ back := by
    rcases hback with rfl | rfl <;> decide
  have haside : firstSpacedAside (trimStart front ++ s.tail ++ back) = none := by
    refine (firstSpacedAside_append (fun h ↦ ?_) back).trans hending.1
    rcases List.mem_append.mp h with hfront | htail
    · exact hspace (hsub _ hfront)
    · exact s.not_mem_tail (by decide) htail
  have hplain : plainPunctuation (trimStart front ++ s.tail ++ back) =
      plainPunctuation (trimStart front) ++ s.tail ++ back := by
    rw [plainPunctuation, List.flatMap_append, List.flatMap_append]
    exact congr (congrArg _ (congrArg _ s.plainPunctuation_tail)) hending.2.1
  have hseason : seasonNumber (plainPunctuation (trimStart front) ++ s.tail ++ back) = none := by
    refine seasonNumber_eq_none fun h ↦ ?_
    rcases List.mem_append.mp h with h | hend
    · rcases List.mem_append.mp h with hfront | htail
      · exact not_mem_plainPunctuation (by decide) (fun h ↦ hcapital (hsub _ h)) hfront
      · exact s.not_mem_tail (by decide) htail
    · exact hending.2.2 hend
  rw [lightClean, dropSpacedAside, s.trim_tail hback, haside]
  show plainSeason (plainPunctuation _) = _
  rw [hplain, plainSeason, hseason]

theorem keepsTail_lightClean {stem : List Char} (hspace : ' ' ∉ stem) (hcapital : 'S' ∉ stem) :
    KeepsTail lightClean stem :=
  ⟨_, [], fun s ↦ by
    rw [← s.lightClean_tail hspace hcapital (.inl rfl), List.append_nil]⟩

/-! ### The heavy cleaning -/

/-- The expansion of the words for a film takes them out of the stem, or leaves everything as it
is. -/
theorem expandMovieWords_tail {stem : List Char} (hcapital : 'G' ∉ stem) :
    ∃ front back, front.Sublist stem ∧ IsEnding back ∧
      ∀ s : SeasonName, expandMovieWords (stem ++ s.tail) = front ++ s.tail ++ back := by
  have hupper : ∀ s : SeasonName,
      expandMovieWord (stem ++ s.tail) "Gekijyouban".toList = stem ++ s.tail := fun s ↦ by
    refine if_neg fun hoccurs ↦ ?_
    rcases List.mem_append.mp (((occurs_iff _ _).mp hoccurs).subset List.mem_cons_self) with h | h
    · exact hcapital h
    · exact s.not_mem_tail (by decide) h
  have hnone : ∀ s : SeasonName, NoneAcross "gekijyouban".toList s.tail := fun s ↦ by
    have h : NoneAcross "gekijyouban".toList (s.tail ++ []) := s.noneAcross_tail (by decide)
    rwa [List.append_nil] at h
  have hoccurs : ∀ s : SeasonName, occurs "gekijyouban".toList (stem ++ s.tail) =
      occurs "gekijyouban".toList stem := fun s ↦ by
    rw [Bool.eq_iff_iff, occurs_iff, occurs_iff, infix_append_iff_of_noneAcross (hnone s)]
    exact or_iff_left fun h ↦ s.not_mem_tail (c := 'g') (by decide) (h.subset List.mem_cons_self)
  have hremove : ∀ s : SeasonName, remove "gekijyouban".toList (stem ++ s.tail) =
      remove "gekijyouban".toList stem ++ s.tail := fun s ↦ by
    rw [remove_append stem (hnone s), remove_eq_self_of_not_mem (s := s.tail) (c := 'g') (by decide)
      (s.not_mem_tail (by decide))]
  have hwords : ∀ s : SeasonName, expandMovieWords (stem ++ s.tail) =
      expandMovieWord (stem ++ s.tail) "gekijyouban".toList := fun s ↦ by
    rw [expandMovieWords, movieWords, List.foldl_cons, hupper, List.foldl_cons, List.foldl_nil]
  cases hin : occurs "gekijyouban".toList stem with
  | true =>
    refine ⟨trimStart (remove "gekijyouban".toList stem), " Movie".toList, ?_, .inr rfl, fun s ↦ ?_⟩
    · exact (List.dropWhile_sublist isBlank).trans (remove_sublist _ _)
    · rw [hwords, expandMovieWord, hoccurs, hin, if_pos rfl, hremove, s.trim_tail (.inr rfl)]
  | false =>
    refine ⟨stem, [], List.Sublist.refl stem, .inl rfl, fun s ↦ ?_⟩
    rw [hwords, expandMovieWord, hoccurs, hin, if_neg Bool.false_ne_true, List.append_nil]

theorem filter_heavyNoise_tail : s.tail.filter (!isHeavyNoise ·) = s.tail := by
  refine List.filter_eq_self.mpr fun c hc ↦ ?_
  rw [Bool.not_eq_true', ← Bool.not_eq_true]
  intro hnoise
  rw [isHeavyNoise, Bool.or_eq_true, Bool.or_eq_true, decide_eq_true_iff, decide_eq_true_iff,
    decide_eq_true_iff] at hnoise
  rcases hnoise with (rfl | rfl) | rfl <;> exact s.not_mem_tail (by decide) hc

theorem replace_numeral_tail {pair : List Char × List Char} (h : pair ∈ numeralRespellings)
    {front back : List Char} (hback : IsEnding back) :
    replace pair.1 pair.2 (front ++ s.tail ++ back) =
      replace pair.1 pair.2 front ++ s.tail ++ back := by
  have hpattern : ∀ pair ∈ numeralRespellings,
      (pair.1.tail.all fun c ↦ c ≠ 's' && !c.isDigit) = true ∧ 'i' ∈ pair.1 ∧ ' ' ∉ pair.1.tail ∧
        replace pair.1 pair.2 " Movie".toList = " Movie".toList := by
    decide
  obtain ⟨htail, hi, hspace, hmovie⟩ := hpattern pair h
  have hname : replace pair.1 pair.2 s.tail = s.tail :=
    replace_eq_self_of_not_mem pair.2 hi (s.not_mem_tail (by decide))
  rw [List.append_assoc, replace_append _ _ (s.noneAcross_tail htail)]
  rcases hback with rfl | rfl
  · rw [List.append_nil, hname, List.append_nil]
  · have hnone : NoneAcross pair.1 " Movie".toList := noneAcross_cons (s := "Movie".toList) hspace
    rw [replace_append _ _ hnone, hname, hmovie, List.append_assoc]

theorem respellNumerals_tail (front : List Char) {back : List Char} (hback : IsEnding back) :
    ∃ front', ∀ s : SeasonName,
      respellNumerals (front ++ s.tail ++ back) = front' ++ s.tail ++ back := by
  have hfold : ∀ pairs : List (List Char × List Char), (∀ pair ∈ pairs, pair ∈ numeralRespellings) →
      ∀ front, ∃ front', ∀ s : SeasonName,
        pairs.foldl (fun t pair ↦ replace pair.1 pair.2 t) (front ++ s.tail ++ back) =
          front' ++ s.tail ++ back := by
    intro pairs
    induction pairs with
    | nil => exact fun _ front ↦ ⟨front, fun _ ↦ rfl⟩
    | cons pair rest ih =>
      intro hpairs front
      obtain ⟨hpair, hrest⟩ := List.forall_mem_cons.mp hpairs
      obtain ⟨front', h⟩ := ih hrest (replace pair.1 pair.2 front)
      exact ⟨front', fun s ↦ by
        rw [List.foldl_cons, s.replace_numeral_tail hpair hback, h]⟩
  exact hfold numeralRespellings (fun _ ↦ id) front

/-- **The heavy cleaning leaves the name of a season alone.** -/
theorem keepsTail_heavyClean {stem : List Char} (hspace : ' ' ∉ stem)
    (hupper : ∀ c : Char, c.isUpper = true → c ∉ stem) : KeepsTail heavyClean stem := by
  obtain ⟨front, back, hsub, hback, hexpand⟩ := expandMovieWords_tail (hupper 'G' (by decide))
  obtain ⟨front', hrespell⟩ := respellNumerals_tail
    ((plainPunctuation (trimStart front)).filter (!isHeavyNoise ·)) hback
  have hending : back.filter (!isHeavyNoise ·) = back := by
    rcases hback with rfl | rfl <;> decide
  refine ⟨front', back, fun s ↦ ?_⟩
  rw [heavyClean, hexpand, s.lightClean_tail (fun h ↦ hspace (hsub.subset h))
    (fun h ↦ hupper 'S' (by decide) (hsub.subset h)) hback, List.filter_append, List.filter_append,
    filter_heavyNoise_tail, hending, hrespell]

end SeasonName

end AnimeLookup.Title
