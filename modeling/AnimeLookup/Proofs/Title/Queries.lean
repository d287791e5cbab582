import AnimeLookup.Proofs.Text.Patterns
import AnimeLookup.Proofs.Text.Trimming
import AnimeLookup.Title.Query
import Mathlib.Data.List.Basic
import Mathlib.Data.List.TakeWhile

/-!
# What a query is made of

A query is a title without a season suffix, without the names between tildes, and without an aside
at its end.  The three passes that take these off walk through the text with an eye on what comes
next.  This file says what they take off, in two ways that know nothing of the walk.

* *By what stands there.*  `EndRemoved` says that a text loses an end of some kind if it has one;
  `IsSeasonSuffix` and `IsTrailingAside` are the two kinds.  `NamesRemoved` goes from tilde to
  tilde: a name is removed with the white space in front of it, and a tilde that opens no name
  stays.
* *By patterns.*  The first match of `seasonSuffixPattern` and of `trailingAsidePattern` is removed,
  and all matches of `otherNamePattern`.

Both say which text is left, and there is only one such text: an end of either kind is not the end
of a longer one (`EndsOnce`), and there is one way to go from tilde to tilde
(`NamesRemoved.dropOtherNames_eq`).  `preprocess_described` is the headline.
-/

set_option autoImplicit false

namespace AnimeLookup.Title

open Text

/-! ## Removing an end -/

/-- **The text `t` is `s` without an end of some kind**, if `s` has one. -/
inductive EndRemoved (IsEnd : List Char → Prop) (s : List Char) : List Char → Prop
  /-- There is such an end. -/
  | removed {t e : List Char} (hs : s = t ++ e) (he : IsEnd e) : EndRemoved IsEnd s t
  /-- There is none. -/
  | kept (h : ∀ t e, s = t ++ e → ¬ IsEnd e) : EndRemoved IsEnd s s

/-- No end of this kind is the end of a longer one. -/
def EndsOnce (IsEnd : List Char → Prop) : Prop := ∀ u e, IsEnd e → IsEnd (u ++ e) → u = []

section Ends

variable {IsEnd : List Char → Prop} {s t t' : List Char}

theorem EndRemoved.sublist (h : EndRemoved IsEnd s t) : t.Sublist s := by
  cases h with
  | removed hs he => exact hs ▸ List.sublist_append_left _ _
  | kept h => exact List.Sublist.refl _

theorem EndRemoved.unique (hend : EndsOnce IsEnd) (h : EndRemoved IsEnd s t)
    (h' : EndRemoved IsEnd s t') : t = t' := by
  cases h with
  | kept h =>
    cases h' with
    | kept => rfl
    | removed hs he => exact absurd he (h _ _ hs)
  | removed hs he =>
    cases h' with
    | kept h' => exact absurd he (h' _ _ hs)
    | removed hs' he' =>
      rcases List.append_eq_append_iff.mp (hs.symm.trans hs') with ⟨u, ht, rfl⟩ | ⟨u, ht, rfl⟩
      · rw [ht, hend u _ he' he, List.append_nil]
      · rw [ht, hend u _ he he', List.append_nil]

/-- A function that removes an end where there is one, and otherwise changes nothing. -/
theorem endRemoved_of {f : List Char → List Char} (hremoved : ∀ t e, IsEnd e → f (t ++ e) = t)
    (hkept : ∀ s, (∀ t e, s = t ++ e → ¬ IsEnd e) → f s = s) (s : List Char) :
    EndRemoved IsEnd s (f s) := by
  by_cases h : ∃ t e, s = t ++ e ∧ IsEnd e
  · obtain ⟨t, e, rfl, he⟩ := h
    rw [hremoved t e he]
    exact .removed rfl he
  · have hnone : ∀ t e, s = t ++ e → ¬ IsEnd e := fun t e hs he ↦ h ⟨t, e, hs, he⟩
    rw [hkept s hnone]
    exact .kept hnone

/-- **A pattern that matches an end removes it.** -/
theorem endRemoved_removeFirst {pattern : List Part} (hend : EndsOnce IsEnd)
    (hpattern : ∀ s rest, rest ∈ rests pattern s ↔ rest = [] ∧ IsEnd s) (s : List Char) :
    EndRemoved IsEnd s (removeFirst pattern s) := by
  refine endRemoved_of (fun t e he ↦ ?_) (fun s h ↦ ?_) s
  · have hmatch : (rests pattern e).head? = some [] :=
      head?_rests ((hpattern e []).mpr ⟨rfl, he⟩) fun rest hrest ↦ ((hpattern e rest).mp hrest).1
    have hbefore : ∀ v, v <:+ t → v ≠ [] → rests pattern (v ++ e) = [] := fun v _ hne ↦
      List.eq_nil_iff_forall_not_mem.mpr fun rest hrest ↦
        hne (hend v e he ((hpattern _ _).mp hrest).2)
    rw [removeFirst, cut_append hbefore, cut_of_head? hmatch, Option.map_some]
    simp only [List.append_nil]
  · have hnone : ∀ v, v <:+ s → rests pattern v = [] := fun v ⟨t, ht⟩ ↦
      List.eq_nil_iff_forall_not_mem.mpr fun rest hrest ↦
        h t v ht.symm ((hpattern _ _).mp hrest).2
    rw [removeFirst, cut_eq_none hnone]

end Ends

/-! ## The season suffix -/

/-- **A season suffix**: white space or a dot, a capital `S`, and one or two digits. -/
def IsSeasonSuffix (e : List Char) : Prop :=
  ∃ w digits, e = [w, 'S'] ++ digits ∧ (isBlank w = true ∨ w = '.') ∧
    (digits.length = 1 ∨ digits.length = 2) ∧ ∀ c ∈ digits, c.isDigit = true

/-- The pattern for a season suffix. -/
def seasonSuffixPattern : List Part :=
  [.one opensSeason, .one (· = 'S'), .one Char.isDigit, .optional Char.isDigit, .atEnd]

theorem opensSeason_iff (c : Char) : opensSeason c = true ↔ isBlank c = true ∨ c = '.' := by
  rw [opensSeason, Bool.or_eq_true, decide_eq_true_iff]

theorem endsOnce_isSeasonSuffix : EndsOnce IsSeasonSuffix := by
  rintro u _ ⟨w, digits, rfl, -⟩ ⟨v, more, heq, -, -, hmore⟩
  have hS : 'S' ∉ more := fun hmem ↦ absurd (hmore 'S' hmem) (by decide)
  -- With a character in front, the capital `S` would be one of the digits.
  cases u with
  | nil => rfl
  | cons c u =>
    refine absurd ?_ hS
    obtain ⟨-, htail⟩ := List.cons.inj heq
    cases u with
    | nil =>
      have hdigits : 'S' :: digits = more := (List.cons.inj htail).2
      exact hdigits ▸ List.mem_cons_self
    | cons c' u =>
      have hdigits : u ++ (w :: 'S' :: digits) = more := (List.cons.inj htail).2
      rw [← hdigits]
      simp

theorem mem_rests_seasonSuffixPattern (s rest : List Char) :
    rest ∈ rests seasonSuffixPattern s ↔ rest = [] ∧ IsSeasonSuffix s := by
  simp only [seasonSuffixPattern, mem_rests_cons, mem_rests_optional, mem_rests_one,
    mem_rests_atEnd, mem_rests_nil, opensSeason_iff, decide_eq_true_iff]
  constructor
  · rintro ⟨_, ⟨w, hw, rfl⟩, _, ⟨_, rfl, rfl⟩, _, ⟨d, hd, rfl⟩, t, ht, _, ⟨rfl, rfl⟩, rfl⟩
    refine ⟨rfl, ?_⟩
    rcases ht with rfl | ⟨d', hd', rfl⟩
    · exact ⟨w, [d], rfl, hw, .inl rfl, List.forall_mem_singleton.mpr hd⟩
    · exact ⟨w, [d, d'], rfl, hw, .inr rfl,
        List.forall_mem_cons.mpr ⟨hd, List.forall_mem_singleton.mpr hd'⟩⟩
  · rintro ⟨rfl, w, digits, rfl, hw, hlength, hdigits⟩
    refine ⟨_, ⟨w, hw, rfl⟩, digits, ⟨_, rfl, rfl⟩, ?_⟩
    rcases hlength with hone | htwo
    · obtain ⟨d, rfl⟩ := List.length_eq_one_iff.mp hone
      exact ⟨_, ⟨d, hdigits d List.mem_cons_self, rfl⟩, [], .inl rfl, [], ⟨rfl, rfl⟩, rfl⟩
    · obtain ⟨d, d', rfl⟩ := List.length_eq_two.mp htwo
      obtain ⟨hd, hd'⟩ := List.forall_mem_cons.mp hdigits
      exact ⟨_, ⟨d, hd, rfl⟩, [], .inr ⟨d', hd' d' List.mem_cons_self, rfl⟩, [], ⟨rfl, rfl⟩, rfl⟩

theorem stripSeasonSuffix_append (t : List Char) {e : List Char} (he : IsSeasonSuffix e) :
    stripSeasonSuffix (t ++ e) = t := by
  obtain ⟨w, digits, rfl, hw, hlength, hdigits⟩ := he
  rw [← opensSeason_iff] at hw
  rcases hlength with hone | htwo
  · obtain ⟨d, rfl⟩ := List.length_eq_one_iff.mp hone
    have hd := hdigits d List.mem_cons_self
    have hreverse : (t ++ ([w, 'S'] ++ [d])).reverse = d :: 'S' :: w :: t.reverse := by simp
    rw [stripSeasonSuffix, hreverse]
    simp [hd, hw]
  · obtain ⟨d, d', rfl⟩ := List.length_eq_two.mp htwo
    obtain ⟨hd, hd'⟩ := List.forall_mem_cons.mp hdigits
    have hne : d ≠ 'S' := fun h ↦ absurd (h ▸ hd) (by decide)
    have hreverse : (t ++ ([w, 'S'] ++ [d, d'])).reverse = d' :: d :: 'S' :: w :: t.reverse := by
      simp
    rw [stripSeasonSuffix, hreverse]
    simp [hd, hd' d' List.mem_cons_self, hw]

theorem stripSeasonSuffix_eq_self {s : List Char} (h : ∀ t e, s = t ++ e → ¬ IsSeasonSuffix e) :
    stripSeasonSuffix s = s := by
  rw [stripSeasonSuffix]
  split
  · rename_i d w stem hs
    rw [List.reverse_eq_iff] at hs
    split
    · rename_i hcond
      rw [Bool.and_eq_true, opensSeason_iff] at hcond
      refine absurd ⟨w, [d], rfl, hcond.2, .inl rfl, List.forall_mem_singleton.mpr hcond.1⟩
        (h stem.reverse ([w, 'S'] ++ [d]) ?_)
      simp [hs]
    · rfl
  · rename_i d e w stem _ hs
    rw [List.reverse_eq_iff] at hs
    split
    · rename_i hcond
      rw [Bool.and_eq_true, Bool.and_eq_true, opensSeason_iff] at hcond
      refine absurd ⟨w, [e, d], rfl, hcond.2, .inr rfl,
        List.forall_mem_cons.mpr ⟨hcond.1.2, List.forall_mem_singleton.mpr hcond.1.1⟩⟩
        (h stem.reverse ([w, 'S'] ++ [e, d]) ?_)
      simp [hs]
    · rfl
  · rfl

/-! ## Phrases -/

/-- Whether a character may stand in a name or an aside. -/
def isPhraseChar (c : Char) : Bool := isWordChar c || isBlank c

/-- **A phrase**: word characters and white space, and at least one of them. -/
def IsPhrase (s : List Char) : Prop := s ≠ [] ∧ ∀ c ∈ s, isPhraseChar c = true

theorem isPlainPhrase_iff (s : List Char) : isPlainPhrase s = true ↔ IsPhrase s := by
  simp [isPlainPhrase, IsPhrase, isPhraseChar]

theorem IsPhrase.not_mem {s : List Char} (h : IsPhrase s) {c : Char}
    (hc : isPhraseChar c = false) : c ∉ s := fun hmem ↦
  Bool.false_ne_true (hc.symm.trans (h.2 c hmem))

theorem isPhrase_reverse (s : List Char) : IsPhrase s.reverse ↔ IsPhrase s := by
  simp [IsPhrase]

/-! ## The first of some characters -/

/-- What stands in front of the first `c`. -/
theorem takeWhile_ne_append {c : Char} {u : List Char} (h : c ∉ u) (s : List Char) :
    (u ++ c :: s).takeWhile (· ≠ c) = u := by
  have hne : ∀ d ∈ u, decide (d ≠ c) = true := fun d hd ↦
    decide_eq_true fun heq ↦ h (heq ▸ hd)
  rw [List.takeWhile_append_of_pos hne, List.takeWhile_cons_of_neg (by simp), List.append_nil]

/-- A text is cut at the first `c` in one way only. -/
theorem append_cons_inj_of_first {c : Char} {u u' s s' : List Char} (hu : c ∉ u) (hu' : c ∉ u')
    (h : u ++ c :: s = u' ++ c :: s') : u = u' ∧ s = s' := by
  have hfront : u = u' := by
    rw [← takeWhile_ne_append hu s, h, takeWhile_ne_append hu' s']
  subst hfront
  exact ⟨rfl, (List.cons.inj (List.append_cancel_left h)).2⟩

/-! ## Names between tildes -/

/-- **The text `t` is `s` without the names between tildes**, each with the white space before
it. -/
inductive NamesRemoved : List Char → List Char → Prop
  /-- Without a tilde there is no name. -/
  | none {s : List Char} (h : '~' ∉ s) : NamesRemoved s s
  /-- The first tilde and the next one enclose a name, which is removed with the white space before
  it. -/
  | name {front name rest t : List Char} (hfront : '~' ∉ front) (hname : IsPhrase name)
      (ht : NamesRemoved rest t) :
      NamesRemoved (front ++ '~' :: (name ++ '~' :: rest)) (trimEnd front ++ t)
  /-- The first tilde opens no name and stays. -/
  | lone {front rest t : List Char} (hfront : '~' ∉ front)
      (hlone : ∀ name more, rest = name ++ '~' :: more → '~' ∉ name → ¬ IsPhrase name)
      (ht : NamesRemoved rest t) :
      NamesRemoved (front ++ '~' :: rest) (front ++ '~' :: t)

theorem IsPhrase.tilde_not_mem {name : List Char} (h : IsPhrase name) : '~' ∉ name :=
  h.not_mem (by decide)

theorem NamesRemoved.sublist {s t : List Char} (h : NamesRemoved s t) : t.Sublist s := by
  induction h with
  | none h => exact List.Sublist.refl _
  | @name front name rest t _ _ _ ih =>
    refine (isPrefix_trimEnd front).sublist.append ?_
    exact (ih.cons '~').trans (List.sublist_append_right name _) |>.cons '~'
  | lone _ _ _ ih => exact (List.Sublist.refl _).append (ih.cons_cons '~')

/-- There is a way from tilde to tilde through every text. -/
theorem exists_namesRemoved (s : List Char) : ∃ t, NamesRemoved s t := by
  -- The text gets shorter with every tilde.
  induction hn : s.length using Nat.strongRecOn generalizing s with
  | ind n ih =>
    by_cases htilde : '~' ∈ s
    · obtain ⟨front, rest, rfl, hfront⟩ := List.eq_append_cons_of_mem htilde
      by_cases hname : ∃ name more, rest = name ++ '~' :: more ∧ IsPhrase name
      · obtain ⟨name, more, rfl, hname⟩ := hname
        obtain ⟨t, ht⟩ := ih more.length (by simp at hn; omega) more rfl
        exact ⟨_, .name hfront hname ht⟩
      · obtain ⟨t, ht⟩ := ih rest.length (by simp at hn; omega) rest rfl
        exact ⟨_, .lone hfront (fun name more hrest _ h ↦ hname ⟨name, more, hrest, h⟩) ht⟩
    · exact ⟨s, .none htilde⟩

theorem otherNameLength_append {name : List Char} (h : IsPhrase name) (rest : List Char) :
    otherNameLength (name ++ '~' :: rest) = some (name.length + 1) := by
  simp only [otherNameLength, takeWhile_ne_append h.tilde_not_mem, (isPlainPhrase_iff name).mpr h]
  simp

theorem otherNameLength_eq_none {rest : List Char}
    (h : ∀ name more, rest = name ++ '~' :: more → '~' ∉ name → ¬ IsPhrase name) :
    otherNameLength rest = none := by
  by_cases htilde : '~' ∈ rest
  · obtain ⟨name, more, rfl, hname⟩ := List.eq_append_cons_of_mem htilde
    have hnot : isPlainPhrase name = false :=
      Bool.eq_false_iff.mpr fun hplain ↦ h name more rfl hname ((isPlainPhrase_iff name).mp hplain)
    simp only [otherNameLength, takeWhile_ne_append hname, hnot]
    rw [Bool.false_and, if_neg Bool.false_ne_true]
  · have hall : rest.takeWhile (· ≠ '~') = rest :=
      List.takeWhile_eq_self_iff.mpr fun c hc ↦ decide_eq_true fun heq ↦ htilde (heq ▸ hc)
    simp only [otherNameLength, hall, Nat.lt_irrefl, decide_false, Bool.and_false,
      Bool.false_eq_true, if_false]

/-- A name to be passed over is dropped. -/
theorem dropOtherNamesAfter_eq (n : Nat) (s : List Char) :
    dropOtherNamesAfter n [] s = dropOtherNames (s.drop n) := by
  induction s generalizing n with
  | nil => rw [dropOtherNamesAfter, List.drop_nil, dropOtherNames, dropOtherNamesAfter]
  | cons c s ih =>
    cases n with
    | zero => rfl
    | succ n => rw [dropOtherNamesAfter, ih, List.drop_succ_cons]

/-- Up to the first tilde the text is kept, with the white space before it still to be decided
on. -/
theorem dropOtherNamesAfter_append {front : List Char} (hfront : '~' ∉ front) (blanks : List Char)
    (hblanks : ∀ c ∈ blanks, isBlank c = true) (s : List Char) :
    ∃ pending, blanks ++ front = trimEnd (blanks ++ front) ++ pending ∧
      dropOtherNamesAfter 0 blanks (front ++ s) =
        trimEnd (blanks ++ front) ++ dropOtherNamesAfter 0 pending s := by
  induction front generalizing blanks with
  | nil =>
    have htrim : trimEnd blanks = [] := by
      rw [trimEnd, List.reverse_eq_nil_iff, trimStart_eq_nil_iff, allBlank, List.all_reverse]
      exact List.all_eq_true.mpr hblanks
    refine ⟨blanks, ?_, ?_⟩ <;> simp [htrim]
  | cons c front ih =>
    obtain ⟨hc, hfront⟩ := not_or.mp (List.mem_cons.not.mp hfront)
    rw [List.cons_append, dropOtherNamesAfter, if_neg (Ne.symm hc)]
    split
    · rename_i hblank
      have happend : blanks ++ c :: front = (blanks ++ [c]) ++ front := by simp
      rw [happend]
      exact ih hfront _ (List.forall_mem_append.mpr ⟨hblanks, by simpa using hblank⟩)
    · rename_i hblank
      obtain ⟨pending, hpending, hrest⟩ := ih hfront [] (by simp)
      rw [List.nil_append] at hpending hrest
      rw [trimEnd_append_cons (by simpa using hblank), hrest]
      refine ⟨pending, ?_, by simp⟩
      rw [List.append_assoc, List.cons_append, ← hpending]

/-- **The scan goes from tilde to tilde.** -/
theorem NamesRemoved.dropOtherNames_eq {s t : List Char} (h : NamesRemoved s t) :
    dropOtherNames s = t := by
  induction h with
  | @none s h =>
    obtain ⟨pending, hs, hscan⟩ := dropOtherNamesAfter_append h [] (by simp) []
    rw [List.append_nil] at hscan
    rw [dropOtherNames, hscan, dropOtherNamesAfter]
    exact hs.symm
  | @name front name rest t hfront hname _ ih =>
    obtain ⟨pending, -, hscan⟩ := dropOtherNamesAfter_append hfront [] (by simp)
      ('~' :: (name ++ '~' :: rest))
    have hdrop : (name ++ '~' :: rest).drop (name.length + 1) = rest := by simp
    rw [dropOtherNames, hscan, List.nil_append, dropOtherNamesAfter, if_pos rfl,
      otherNameLength_append hname]
    dsimp only
    rw [dropOtherNamesAfter_eq, hdrop, ih]
  | @lone front rest t hfront hlone _ ih =>
    obtain ⟨pending, hs, hscan⟩ := dropOtherNamesAfter_append hfront [] (by simp)
      ('~' :: rest)
    rw [dropOtherNames, hscan, dropOtherNamesAfter, if_pos rfl, otherNameLength_eq_none hlone]
    dsimp only
    rw [dropOtherNamesAfter_eq, List.drop_zero, ih, ← List.append_assoc, ← hs, List.nil_append]

-- The second tilde closes no name, as `b!` is no phrase, so it may open one.
example : dropOtherNames "a ~b!~ c~".toList = "a ~b!".toList := by decide +kernel

/-- The pattern for a name between tildes. -/
def otherNamePattern : List Part :=
  [.many isBlank, .one (· = '~'), .one isPhraseChar, .many isPhraseChar, .one (· = '~')]

theorem mem_rests_otherNamePattern (s rest : List Char) :
    rest ∈ rests otherNamePattern s ↔
      ∃ blanks name, (∀ c ∈ blanks, isBlank c = true) ∧ IsPhrase name ∧
        s = blanks ++ '~' :: (name ++ '~' :: rest) := by
  rw [otherNamePattern]
  constructor
  · intro hmatch
    obtain ⟨_, hmany, hbehind⟩ := mem_rests_cons.mp hmatch
    obtain ⟨blanks, hblanks, rfl⟩ := mem_rests_many.mp hmany
    obtain ⟨_, hopen, hopened⟩ := mem_rests_cons.mp hbehind
    obtain ⟨c, hc, rfl⟩ := mem_rests_one.mp hopen
    obtain ⟨name, _, hne, hname, rfl, hclosing⟩ := mem_rests_some.mp hopened
    obtain ⟨_, hclose, hend⟩ := mem_rests_cons.mp hclosing
    obtain ⟨c', hc', rfl⟩ := mem_rests_one.mp hclose
    rw [of_decide_eq_true hc, of_decide_eq_true hc', mem_rests_nil.mp hend]
    exact ⟨blanks, name, hblanks, ⟨hne, hname⟩, rfl⟩
  · rintro ⟨blanks, name, hblanks, ⟨hne, hname⟩, rfl⟩
    refine mem_rests_cons.mpr ⟨_, mem_rests_many.mpr ⟨blanks, hblanks, rfl⟩, ?_⟩
    refine mem_rests_cons.mpr ⟨_, mem_rests_one.mpr ⟨'~', by simp, rfl⟩, ?_⟩
    refine mem_rests_some.mpr ⟨name, _, hne, hname, rfl, ?_⟩
    exact mem_rests_cons.mpr ⟨_, mem_rests_one.mpr ⟨'~', by simp, rfl⟩, mem_rests_nil.mpr rfl⟩

theorem tilde_not_mem_of_blank {blanks : List Char} (h : ∀ c ∈ blanks, isBlank c = true) :
    '~' ∉ blanks := fun hmem ↦ absurd (h '~' hmem) (by decide)

/-- Where the white space before the first tilde and the text behind it are not those of a name,
the pattern does not match. -/
theorem rests_otherNamePattern_eq_nil {front rest : List Char} (hfront : '~' ∉ front)
    (h : (∀ c ∈ front, isBlank c = true) → ∀ name more, rest = name ++ '~' :: more → '~' ∉ name →
      ¬ IsPhrase name) :
    rests otherNamePattern (front ++ '~' :: rest) = [] := by
  refine List.eq_nil_iff_forall_not_mem.mpr fun more hmore ↦ ?_
  obtain ⟨blanks, name, hblanks, hname, heq⟩ := (mem_rests_otherNamePattern _ _).mp hmore
  obtain ⟨rfl, rfl⟩ := append_cons_inj_of_first hfront (tilde_not_mem_of_blank hblanks) heq
  exact h hblanks name more rfl hname.tilde_not_mem hname

/-- **All matches of the pattern are the names between tildes.** -/
theorem NamesRemoved.removesAll {s t : List Char} (h : NamesRemoved s t) :
    RemovesAll otherNamePattern s t := by
  induction h with
  | @none s h =>
    refine .done (cut_eq_none fun v hv ↦ List.eq_nil_iff_forall_not_mem.mpr fun rest hrest ↦ ?_)
    obtain ⟨blanks, name, -, -, rfl⟩ := (mem_rests_otherNamePattern _ _).mp hrest
    exact h (hv.subset (by simp))
  | @name front name rest t hfront hname _ ih =>
    obtain ⟨blanks, hsplit, hblanks⟩ := exists_trimEnd_append front
    have hmatch : (rests otherNamePattern (blanks ++ '~' :: (name ++ '~' :: rest))).head? =
        some rest := by
      refine head?_rests ((mem_rests_otherNamePattern _ _).mpr ⟨_, _, hblanks, hname, rfl⟩)
        fun rest' hrest' ↦ ?_
      obtain ⟨blanks', name', hblanks', hname', heq⟩ := (mem_rests_otherNamePattern _ _).mp hrest'
      obtain ⟨-, heq⟩ := append_cons_inj_of_first (tilde_not_mem_of_blank hblanks)
        (tilde_not_mem_of_blank hblanks') heq
      exact (append_cons_inj_of_first hname.tilde_not_mem hname'.tilde_not_mem heq).2.symm
    -- A match that begins earlier would begin with something else than white space.
    have hbefore : ∀ v, v <:+ trimEnd front → v ≠ [] →
        rests otherNamePattern (v ++ (blanks ++ '~' :: (name ++ '~' :: rest))) = [] := by
      rintro v ⟨u, hu⟩ hne
      have hv : '~' ∉ v ++ blanks := fun hmem ↦ hfront <| by
        rw [hsplit, ← hu, List.append_assoc]
        exact List.mem_append_right u hmem
      rw [← List.append_assoc]
      refine rests_otherNamePattern_eq_nil hv fun hblank ↦ absurd ?_ (Bool.eq_false_iff.mp
        (getLast?_trimEnd (s := front) (c := v.getLast hne) ?_))
      · exact hblank _ (List.mem_append_left _ (List.getLast_mem hne))
      · rw [← hu, List.getLast?_append_of_ne_nil u hne, List.getLast?_eq_some_getLast hne]
    have hcut := cut_append hbefore
    rw [← List.append_assoc, ← hsplit, cut_of_head? hmatch] at hcut
    exact .next (hcut.trans (by simp)) ih
  | @lone front rest t hfront hlone _ ih =>
    have hbefore : ∀ v, v <:+ front ++ ['~'] → v ≠ [] →
        rests otherNamePattern (v ++ rest) = [] := by
      intro v hv hne
      obtain ⟨u, rfl, hu⟩ := (List.suffix_concat_iff.mp hv).resolve_left hne
      rw [List.append_assoc, List.singleton_append]
      exact rests_otherNamePattern_eq_nil (fun hmem ↦ hfront (hu.subset hmem)) fun _ ↦ hlone
    simpa using RemovesAll.append hbefore ih

/-! ## The trailing aside -/

/-- **An aside at the end**: a phrase between the last parenthesis that opens and the
parenthesis that closes it. -/
def IsTrailingAside (e : List Char) : Prop :=
  ∃ phrase, e = '(' :: (phrase ++ [')']) ∧ '(' ∉ phrase ∧ IsPhrase phrase

/-- The pattern for an aside at the end. -/
def trailingAsidePattern : List Part :=
  [.one (· = '('), .one isPhraseChar, .many isPhraseChar, .one (· = ')'), .atEnd]

theorem endsOnce_isTrailingAside : EndsOnce IsTrailingAside := by
  rintro u _ ⟨phrase, rfl, -⟩ ⟨longer, heq, hparen, -⟩
  cases u with
  | nil => rfl
  | cons c u =>
    -- The second parenthesis would be in the longer aside.
    have hmem : '(' ∈ longer ++ [')'] := (List.cons.inj heq).2 ▸ by simp
    simp [hparen] at hmem

theorem mem_rests_trailingAsidePattern (s rest : List Char) :
    rest ∈ rests trailingAsidePattern s ↔ rest = [] ∧ IsTrailingAside s := by
  rw [trailingAsidePattern, mem_rests_cons]
  simp only [mem_rests_one, mem_rests_some]
  simp only [mem_rests_one, mem_rests_cons, mem_rests_atEnd, mem_rests_nil, decide_eq_true_iff]
  constructor
  · rintro ⟨_, ⟨_, rfl, rfl⟩, phrase, _, hne, hphrase, rfl, _, ⟨_, rfl, rfl⟩, _, ⟨rfl, rfl⟩, rfl⟩
    have h : IsPhrase phrase := ⟨hne, hphrase⟩
    exact ⟨rfl, phrase, rfl, h.not_mem (by decide), h⟩
  · rintro ⟨rfl, phrase, rfl, -, hne, hphrase⟩
    exact ⟨_, ⟨_, rfl, rfl⟩, phrase, [')'], hne, hphrase, rfl, [], ⟨_, rfl, rfl⟩, [], ⟨rfl, rfl⟩,
      rfl⟩

theorem dropTrailingAside_append (t : List Char) {e : List Char} (he : IsTrailingAside e) :
    dropTrailingAside (t ++ e) = t := by
  obtain ⟨phrase, rfl, hparen, h⟩ := he
  have hreverse : (t ++ '(' :: (phrase ++ [')'])).reverse =
      ')' :: (phrase.reverse ++ '(' :: t.reverse) := by simp
  have hphrase : (phrase.reverse ++ '(' :: t.reverse).takeWhile (· ≠ '(') = phrase.reverse :=
    takeWhile_ne_append (fun hmem ↦ hparen (List.mem_reverse.mp hmem)) _
  have hplain := (isPlainPhrase_iff phrase.reverse).mpr ((isPhrase_reverse phrase).mpr h)
  rw [dropTrailingAside, hreverse]
  simp only [hphrase, List.drop_left, hplain, if_true, List.reverse_reverse]

theorem dropTrailingAside_eq_self {s : List Char} (h : ∀ t e, s = t ++ e → ¬ IsTrailingAside e) :
    dropTrailingAside s = s := by
  rw [dropTrailingAside]
  split
  · rename_i rest hs
    rw [List.reverse_eq_iff] at hs
    dsimp only
    split
    · rename_i stem hstem
      split
      · rename_i hplain
        obtain ⟨more, hmore⟩ :=
          List.takeWhile_prefix (fun c : Char ↦ decide (c ≠ '(')) (l := rest)
        generalize rest.takeWhile (fun c : Char ↦ decide (c ≠ '(')) = phrase at hstem hplain hmore
        rw [← hmore, List.drop_left] at hstem
        rw [isPlainPhrase_iff, ← isPhrase_reverse] at hplain
        have hend : IsTrailingAside ('(' :: (phrase.reverse ++ [')'])) :=
          ⟨phrase.reverse, rfl, hplain.not_mem (by decide), hplain⟩
        exact absurd hend (h stem.reverse _ (by simp [hs, ← hmore, hstem]))
      · rfl
    · rfl
  · rfl

/-! ## The query -/

theorem endRemoved_stripSeasonSuffix (s : List Char) :
    EndRemoved IsSeasonSuffix s (stripSeasonSuffix s) :=
  endRemoved_of (fun t _ ↦ stripSeasonSuffix_append t) (fun _ ↦ stripSeasonSuffix_eq_self) s

theorem endRemoved_dropTrailingAside (s : List Char) :
    EndRemoved IsTrailingAside s (dropTrailingAside s) :=
  endRemoved_of (fun t _ ↦ dropTrailingAside_append t) (fun _ ↦ dropTrailingAside_eq_self) s

theorem stripSeasonSuffix_eq_removeFirst (s : List Char) :
    stripSeasonSuffix s = removeFirst seasonSuffixPattern s :=
  (endRemoved_stripSeasonSuffix s).unique endsOnce_isSeasonSuffix
    (endRemoved_removeFirst endsOnce_isSeasonSuffix mem_rests_seasonSuffixPattern s)

theorem dropTrailingAside_eq_removeFirst (s : List Char) :
    dropTrailingAside s = removeFirst trailingAsidePattern s :=
  (endRemoved_dropTrailingAside s).unique endsOnce_isTrailingAside
    (endRemoved_removeFirst endsOnce_isTrailingAside mem_rests_trailingAsidePattern s)

theorem namesRemoved_dropOtherNames (s : List Char) : NamesRemoved s (dropOtherNames s) := by
  obtain ⟨t, ht⟩ := exists_namesRemoved s
  rwa [ht.dropOtherNames_eq]

/-- What is left when all matches are removed is what is left when the names are removed. -/
theorem removesAll_iff_namesRemoved (s t : List Char) :
    RemovesAll otherNamePattern s t ↔ NamesRemoved s t := by
  refine ⟨fun h ↦ ?_, NamesRemoved.removesAll⟩
  rw [h.unique (namesRemoved_dropOtherNames s).removesAll]
  exact namesRemoved_dropOtherNames s

/-- **What a query is made of.**  By patterns, the query is what is left of a title when the first
match of the season suffix is removed, then all names between tildes, then the white space at the
ends, then the first match of the trailing aside, and then again the white space at the ends.  By
what stands there, it is what is left when a season suffix at the end is removed, then from tilde to
tilde the names with the white space before them, then, between trimming and trimming, an aside at
the end.  So a query has no white space at its ends, and nothing is in it that is not in the title
in the same order. -/
theorem preprocess_described (s t : List Char) :
    (preprocess s = t ↔
      ∃ v, RemovesAll otherNamePattern (removeFirst seasonSuffixPattern s) v ∧
        t = trim (removeFirst trailingAsidePattern (trim v))) ∧
    (preprocess s = t ↔
      ∃ u v w, EndRemoved IsSeasonSuffix s u ∧ NamesRemoved u v ∧
        EndRemoved IsTrailingAside (trim v) w ∧ t = trim w) ∧
    Trimmed (preprocess s) ∧ (preprocess s).Sublist s := by
  have hsuffix := endRemoved_stripSeasonSuffix s
  have hnames := namesRemoved_dropOtherNames (stripSeasonSuffix s)
  have haside := endRemoved_dropTrailingAside (trim (dropOtherNames (stripSeasonSuffix s)))
  refine ⟨⟨?_, ?_⟩, ⟨?_, ?_⟩, trimmed_trim _, ?_⟩
  · rintro rfl
    rw [← stripSeasonSuffix_eq_removeFirst]
    refine ⟨_, hnames.removesAll, ?_⟩
    rw [← dropTrailingAside_eq_removeFirst, preprocess]
  · rintro ⟨v, hv, rfl⟩
    rw [← stripSeasonSuffix_eq_removeFirst, removesAll_iff_namesRemoved] at hv
    rw [← dropTrailingAside_eq_removeFirst, preprocess, hv.dropOtherNames_eq]
  · rintro rfl
    exact ⟨_, _, _, hsuffix, hnames, haside, rfl⟩
  · rintro ⟨u, v, w, hu, hv, hw, rfl⟩
    obtain rfl := hsuffix.unique endsOnce_isSeasonSuffix hu
    obtain rfl := hv.dropOtherNames_eq
    rw [preprocess, haside.unique endsOnce_isTrailingAside hw]
  · calc List.Sublist (preprocess s)
          (dropTrailingAside (trim (dropOtherNames (stripSeasonSuffix s)))) := trim_sublist _
      List.Sublist _ (trim (dropOtherNames (stripSeasonSuffix s))) := haside.sublist
      List.Sublist _ (dropOtherNames (stripSeasonSuffix s)) := trim_sublist _
      List.Sublist _ (stripSeasonSuffix s) := hnames.sublist
      List.Sublist _ s := hsuffix.sublist

end AnimeLookup.Title
