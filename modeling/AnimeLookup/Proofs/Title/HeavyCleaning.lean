import AnimeLookup.Proofs.Title.LightCleaning

/-!
# Cleaning heavily, again and again

Like the light cleaning, the heavy one need not be finished after one pass: dropping a colon may
bring the parts of a word for a film together, and the next pass takes that word out and puts
` Movie` behind the title.  Here, too, it is settled what is left to do, and that it comes to an end
(`heavyClean_settles`).

What a heavy cleaning leaves (`HeavilyClean`) has no loose punctuation, no colon and no unusual
space, and none of the numerals that are respelled.  The last point takes an argument, because the
three respellings are made one after the other: none of them undoes what an earlier one has done,
since each of the words begins with a letter that no numeral has, and none has a digit
(`not_infix_respellEach`).

On such a text nothing makes a pass longer.  Respelling keeps the length, dropping and reducing make
it smaller, and the words for a film are longer than what is put in their place
(`length_expandMovieWords_lt`).  So every pass on a text that is not settled makes it shorter, and
there are at most as many of them as the text has characters (`exists_settled`).
-/

set_option autoImplicit false

namespace AnimeLookup.Title

open Text

/-! ## Respelling -/

/-- The text after one replacement for each pair, in their order. -/
def respellEach (pairs : List (List Char × List Char)) (s : List Char) : List Char :=
  pairs.foldl (fun t pair ↦ replace pair.1 pair.2 t) s

theorem respellEach_cons (pair : List Char × List Char) (pairs : List (List Char × List Char))
    (s : List Char) :
    respellEach (pair :: pairs) s = respellEach pairs (replace pair.1 pair.2 s) := rfl

/-- **What is written cannot touch a copy of the pattern**: it begins with a character that the
pattern lacks, and it lacks the first character of the pattern. -/
def WrittenApart (new pattern : List Char) : Prop :=
  ∃ d more e rest, new = d :: more ∧ pattern = e :: rest ∧ d ∉ pattern ∧ e ∉ new

instance : (new pattern : List Char) → Decidable (WrittenApart new pattern)
  | d :: more, e :: rest =>
    decidable_of_iff (d ∉ e :: rest ∧ e ∉ d :: more)
      ⟨fun h ↦ ⟨d, more, e, rest, rfl, rfl, h⟩, fun ⟨_, _, _, _, hnew, hpattern, h⟩ ↦ by
        cases hnew
        cases hpattern
        exact h⟩
  | [], _ => isFalse fun ⟨_, _, _, _, hnew, _⟩ ↦ List.cons_ne_nil _ _ hnew.symm
  | _ :: _, [] => isFalse fun ⟨_, _, _, _, _, hpattern, _⟩ ↦ List.cons_ne_nil _ _ hpattern.symm

theorem WrittenApart.ne_nil {new pattern : List Char} (h : WrittenApart new pattern) :
    pattern ≠ [] := by
  obtain ⟨-, -, e, rest, -, rfl, -⟩ := h
  exact List.cons_ne_nil e rest

section Respelling

variable {pairs : List (List Char × List Char)} {s : List Char}

theorem mem_of_mem_respellEach {c : Char} (h : c ∈ respellEach pairs s) :
    c ∈ s ∨ ∃ pair ∈ pairs, c ∈ pair.2 := by
  induction pairs generalizing s with
  | nil => exact .inl h
  | cons pair rest ih =>
    rcases ih h with hreplaced | ⟨other, hother, hc⟩
    · rcases mem_of_mem_replace hreplaced with hnew | hold
      · exact .inr ⟨pair, List.mem_cons_self, hnew⟩
      · exact .inl hold
    · exact .inr ⟨other, List.mem_cons_of_mem pair hother, hc⟩

theorem length_respellEach (h : ∀ pair ∈ pairs, pair.2.length = pair.1.length) :
    (respellEach pairs s).length = s.length := by
  induction pairs generalizing s with
  | nil => rfl
  | cons pair rest ih =>
    obtain ⟨hpair, hrest⟩ := List.forall_mem_cons.mp h
    exact (ih hrest).trans (length_replace_of_eq hpair)

theorem count_respellEach {c : Char} (h : ∀ pair ∈ pairs, pair.2.count c = pair.1.count c) :
    (respellEach pairs s).count c = s.count c := by
  induction pairs generalizing s with
  | nil => rfl
  | cons pair rest ih =>
    obtain ⟨hpair, hrest⟩ := List.forall_mem_cons.mp h
    exact (ih hrest).trans (countP_replace_of_eq hpair)

theorem respellEach_eq_self (h : ∀ pair ∈ pairs, ¬ pair.1 <:+: s) : respellEach pairs s = s := by
  induction pairs with
  | nil => rfl
  | cons pair rest ih =>
    obtain ⟨hpair, hrest⟩ := List.forall_mem_cons.mp h
    rw [respellEach_cons, replace_eq_self pair.2 hpair]
    exact ih hrest

/-- A text that does not occur is not put together by replacements that cannot touch it. -/
theorem not_infix_respellEach_of_not_infix {p : List Char}
    (hpairs : ∀ pair ∈ pairs, pair.1 ≠ [] ∧ WrittenApart pair.2 p) (h : ¬ p <:+: s) :
    ¬ p <:+: respellEach pairs s := by
  induction pairs generalizing s with
  | nil => exact h
  | cons pair rest ih =>
    obtain ⟨⟨hne, d, more, e, q, hnew, rfl, hd, he⟩, hrest⟩ := List.forall_mem_cons.mp hpairs
    rw [respellEach_cons]
    refine ih hrest fun hin ↦ h ?_
    rw [hnew] at hin he
    exact infix_of_infix_replace hne hd he hin

/-- **None of the patterns is left**, if what is written for one cannot touch another. -/
theorem not_infix_respellEach
    (hpairs : ∀ pair ∈ pairs, ∀ other ∈ pairs, WrittenApart pair.2 other.1) :
    ∀ pair ∈ pairs, ¬ pair.1 <:+: respellEach pairs s := by
  induction pairs generalizing s with
  | nil => intro pair hpair; exact absurd hpair List.not_mem_nil
  | cons first rest ih =>
    intro pair hpair
    rw [respellEach_cons]
    rcases List.mem_cons.mp hpair with rfl | hmem
    · -- The first pattern goes at once, and the later replacements do not bring it back.
      obtain ⟨d, more, e, q, hnew, hpattern, hd, he⟩ := hpairs pair hpair pair hpair
      have hgone : ¬ pair.1 <:+: replace pair.1 pair.2 s := by
        rw [hnew] at he
        rw [hpattern] at hd
        rw [hnew, hpattern]
        exact not_infix_replace hd he
      refine not_infix_respellEach_of_not_infix (fun other hother ↦ ?_) hgone
      have hmem := List.mem_cons_of_mem pair hother
      exact ⟨(hpairs other hmem other hmem).ne_nil, hpairs other hmem pair hpair⟩
    · exact ih (fun a ha b hb ↦ hpairs a (List.mem_cons_of_mem first ha) b
        (List.mem_cons_of_mem first hb)) pair hmem

end Respelling

theorem writtenApart_numeralRespellings : ∀ pair ∈ numeralRespellings,
    ∀ other ∈ numeralRespellings, WrittenApart pair.2 other.1 := by
  decide

/-! ## Words for a film -/

theorem unpunctuated_expandMovieWord {s : List Char} (h : Unpunctuated s) (word : List Char) :
    Unpunctuated (expandMovieWord s word) := by
  rw [expandMovieWord]
  split
  · intro c hc hmem
    rcases List.mem_append.mp (mem_of_mem_trim hmem) with hrest | hmovie
    · exact h c hc (mem_of_mem_remove hrest)
    · have hall : (loosePunctuation.all fun c ↦ !" Movie".toList.contains c) = true := by decide
      have hnot := List.all_eq_true.mp hall c hc
      rw [List.contains_iff_mem.mpr hmovie] at hnot
      exact absurd hnot (by decide)
  · exact h

theorem expandMovieWord_eq_self {s word : List Char} (h : ¬ word <:+: s) :
    expandMovieWord s word = s := by
  rw [expandMovieWord, if_neg (by rwa [occurs_iff])]

/-- A long word makes more room than ` Movie` takes. -/
theorem length_expandMovieWord_lt {s word : List Char} (hlong : 6 < word.length)
    (h : word <:+: s) : (expandMovieWord s word).length < s.length := by
  have hne : word ≠ [] := List.ne_nil_of_length_pos (Nat.zero_lt_of_lt hlong)
  have hremove : (remove word s).length + word.length ≤ s.length + 0 :=
    length_replace_add_le hne h (Nat.zero_le _)
  have htrim := length_trim_le (remove word s ++ " Movie".toList)
  have hmovie : " Movie".toList.length = 6 := rfl
  rw [List.length_append, hmovie] at htrim
  rw [expandMovieWord, if_pos ((occurs_iff word s).mpr h)]
  omega

section Words

variable {words : List (List Char)} (hlong : ∀ word ∈ words, 6 < word.length)

include hlong

theorem length_foldl_expandMovieWord_le (s : List Char) :
    (words.foldl expandMovieWord s).length ≤ s.length := by
  induction words generalizing s with
  | nil => exact Nat.le_refl _
  | cons word rest ih =>
    obtain ⟨hword, hrest⟩ := List.forall_mem_cons.mp hlong
    refine Nat.le_trans (ih hrest (expandMovieWord s word)) ?_
    by_cases hin : word <:+: s
    · exact Nat.le_of_lt (length_expandMovieWord_lt hword hin)
    · exact Nat.le_of_eq (congrArg List.length (expandMovieWord_eq_self hin))

theorem length_foldl_expandMovieWord_lt {s : List Char} (h : ∃ word ∈ words, word <:+: s) :
    (words.foldl expandMovieWord s).length < s.length := by
  induction words generalizing s with
  | nil => simp at h
  | cons word rest ih =>
    obtain ⟨hword, hrest⟩ := List.forall_mem_cons.mp hlong
    rw [List.foldl_cons]
    by_cases hin : word <:+: s
    · exact Nat.lt_of_le_of_lt (length_foldl_expandMovieWord_le hrest _)
        (length_expandMovieWord_lt hword hin)
    · rw [expandMovieWord_eq_self hin]
      obtain ⟨other, hother, hoccurs⟩ := h
      rcases List.mem_cons.mp hother with rfl | hmem
      · exact absurd hoccurs hin
      · exact ih hrest ⟨other, hmem, hoccurs⟩

end Words

theorem lt_length_of_mem_movieWords : ∀ word ∈ movieWords, 6 < word.length := by decide

/-- **Expanding a word for a film makes a title shorter.** -/
theorem length_expandMovieWords_lt {s : List Char} (h : ∃ word ∈ movieWords, word <:+: s) :
    (expandMovieWords s).length < s.length :=
  length_foldl_expandMovieWord_lt lt_length_of_mem_movieWords h

theorem expandMovieWords_eq_self {s : List Char} (h : ∀ word ∈ movieWords, ¬ word <:+: s) :
    expandMovieWords s = s := by
  have hfold : ∀ words : List (List Char), (∀ word ∈ words, ¬ word <:+: s) →
      words.foldl expandMovieWord s = s := by
    intro words
    induction words with
    | nil => exact fun _ ↦ rfl
    | cons word rest ih =>
      intro hwords
      obtain ⟨hword, hrest⟩ := List.forall_mem_cons.mp hwords
      rw [List.foldl_cons, expandMovieWord_eq_self hword, ih hrest]
  exact hfold movieWords h

theorem unpunctuated_expandMovieWords {s : List Char} (h : Unpunctuated s) :
    Unpunctuated (expandMovieWords s) := by
  rw [expandMovieWords]
  generalize movieWords = words
  induction words generalizing s with
  | nil => exact h
  | cons word rest ih => exact ih (unpunctuated_expandMovieWord h word)

/-- Without a capital `G` only the word in small letters is expanded. -/
theorem expandMovieWords_of_small {s : List Char} (h : 'G' ∉ s) :
    expandMovieWords s = expandMovieWord s "gekijyouban".toList := by
  have hcapital : ¬ "Gekijyouban".toList <:+: s := fun hin ↦ h (hin.subset List.mem_cons_self)
  rw [expandMovieWords, movieWords, List.foldl_cons, expandMovieWord_eq_self hcapital,
    List.foldl_cons, List.foldl_nil]

/-- The expansion brings no letter in that is neither in the word nor in ` Movie`. -/
theorem count_expandMovieWord {c : Char} (hblank : isBlank c = false) {word : List Char}
    (hword : word.count c = 0) (hmovie : " Movie".toList.count c = 0) (s : List Char) :
    (expandMovieWord s word).count c = s.count c := by
  rw [expandMovieWord]
  split
  · rw [count_trim hblank, List.count_append, hmovie, Nat.add_zero]
    exact countP_replace_of_eq hword.symm
  · rfl

/-! ## One pass -/

/-- **What a heavy cleaning leaves.** -/
structure HeavilyClean (t : List Char) : Prop where
  /-- There is no loose punctuation. -/
  unpunctuated : Unpunctuated t
  /-- There is no colon and no unusual space. -/
  noiseless : ∀ c ∈ t, isHeavyNoise c = false
  /-- There is no numeral that is to be respelled. -/
  respelled : ∀ pair ∈ numeralRespellings, ¬ pair.1 <:+: t

theorem HeavilyClean.not_mem {t : List Char} (h : HeavilyClean t) {c : Char}
    (hc : c ∈ loosePunctuation ++ [':', '\u3000', '\u2423']) : c ∉ t := by
  intro hmem
  rcases List.mem_append.mp hc with hloose | hnoise
  · exact h.unpunctuated c hloose hmem
  · have hall : ([':', '\u3000', '\u2423'].all isHeavyNoise) = true := by decide
    have htrue := List.all_eq_true.mp hall c hnoise
    rw [h.noiseless c hmem] at htrue
    exact Bool.false_ne_true htrue

/-- Expanding a word for a film makes no spaced aside in a text without spaces, and no season marker
in a text without an `S`. -/
theorem expandMovieWord_of_spaceless {s : List Char} (hspace : ' ' ∉ s) (hcapital : 'S' ∉ s)
    (word : List Char) :
    ¬ [' ', '('] <:+: expandMovieWord s word ∧ 'S' ∉ expandMovieWord s word := by
  rw [expandMovieWord]
  split
  · constructor
    · intro hin
      have hmovie : [' ', '('] <:+: " Movie".toList :=
        infix_of_infix_append (fun h ↦ hspace (mem_of_mem_remove h)) (hin.trans (isInfix_trim _))
      exact absurd (hmovie.subset (List.mem_cons_of_mem ' ' List.mem_cons_self)) (by decide)
    · intro hmem
      rcases List.mem_append.mp (mem_of_mem_trim hmem) with hold | hnew
      · exact hcapital (mem_of_mem_remove hold)
      · exact absurd hnew (by decide)
  · exact ⟨fun hin ↦ hspace (hin.subset List.mem_cons_self), hcapital⟩

/-- **A heavy cleaning leaves what it should.** -/
theorem heavilyClean_heavyClean (s : List Char) : HeavilyClean (heavyClean s) := by
  have hwords : ∀ c, (∃ pair ∈ numeralRespellings, c ∈ pair.2) →
      c ∉ loosePunctuation ∧ isHeavyNoise c = false := by
    have hall : (numeralRespellings.all fun pair ↦
        pair.2.all fun c ↦ !loosePunctuation.contains c && !isHeavyNoise c) = true := by decide
    rintro c ⟨pair, hpair, hc⟩
    simpa using List.all_eq_true.mp (List.all_eq_true.mp hall pair hpair) c hc
  have hmem : ∀ c ∈ heavyClean s,
      (c ∈ lightClean (expandMovieWords s) ∧ isHeavyNoise c = false) ∨
        c ∉ loosePunctuation ∧ isHeavyNoise c = false := by
    intro c hc
    rcases mem_of_mem_respellEach hc with hold | hnew
    · left
      simpa using List.mem_filter.mp hold
    · exact .inr (hwords c hnew)
  constructor
  · intro c hc hin
    rcases hmem c hin with ⟨hlight, -⟩ | ⟨hnot, -⟩
    · exact unpunctuated_lightClean _ c hc hlight
    · exact hnot hc
  · intro c hc
    exact (hmem c hc).elim And.right And.right
  · exact not_infix_respellEach writtenApart_numeralRespellings

/-- **A title that a heavy cleaning leaves as it is**, provided that it is cleaned already. -/
structure Settled (t : List Char) : Prop where
  /-- There is no white space at its ends. -/
  trimmed : Trimmed t
  /-- There is no season marker. -/
  markerless : ¬ HasSeasonMarker t
  /-- There is no word for a film. -/
  wordless : ∀ word ∈ movieWords, ¬ word <:+: t

theorem settled_iff {t : List Char} :
    Settled t ↔ Trimmed t ∧ ¬ HasSeasonMarker t ∧ ∀ word ∈ movieWords, ¬ word <:+: t :=
  ⟨fun h ↦ ⟨h.trimmed, h.markerless, h.wordless⟩, fun h ↦ ⟨h.1, h.2.1, h.2.2⟩⟩

theorem HeavilyClean.heavyClean_eq_self {t : List Char} (h : HeavilyClean t) (hsettled : Settled t) :
    heavyClean t = t := by
  have hfilter : t.filter (!isHeavyNoise ·) = t :=
    List.filter_eq_self.mpr fun c hc ↦ by rw [h.noiseless c hc, Bool.not_false]
  rw [heavyClean, expandMovieWords_eq_self hsettled.wordless,
    lightClean_eq_self h.unpunctuated hsettled.trimmed hsettled.markerless, hfilter]
  exact respellEach_eq_self h.respelled

/-- After the expansion nothing makes a title longer. -/
theorem length_heavyClean_le (t : List Char) :
    (heavyClean t).length ≤ (lightClean (expandMovieWords t)).length := by
  have hrespell : (heavyClean t).length =
      ((lightClean (expandMovieWords t)).filter (!isHeavyNoise ·)).length :=
    length_respellEach (by decide)
  rw [hrespell]
  exact List.length_filter_le _ _

/-- **In a text without spaces and capitals a heavy cleaning leaves every `m`**: there is none in
anything that it takes out or writes, the `M` of ` Movie` being a capital. -/
theorem count_m_heavyClean {s : List Char} (hspace : ' ' ∉ s)
    (hupper : ∀ c : Char, c.isUpper = true → c ∉ s) : (heavyClean s).count 'm' = s.count 'm' := by
  obtain ⟨haside, hmarker⟩ := expandMovieWord_of_spaceless hspace (hupper 'S' (by decide))
    "gekijyouban".toList
  have hrespell : (heavyClean s).count 'm' =
      ((lightClean (expandMovieWords s)).filter (!isHeavyNoise ·)).count 'm' :=
    count_respellEach (by decide)
  rw [hrespell, List.count_filter (by decide), expandMovieWords_of_small (hupper 'G' (by decide)),
    count_lightClean (by decide) (by decide) (by decide) haside hmarker,
    count_expandMovieWord (by decide) (by decide) (by decide)]

/-- **A title that is not settled gets shorter.** -/
theorem HeavilyClean.length_heavyClean_lt {t : List Char} (h : HeavilyClean t)
    (hopen : ¬ Settled t) : (heavyClean t).length < t.length := by
  by_cases hwords : ∃ word ∈ movieWords, word <:+: t
  · calc (heavyClean t).length ≤ (lightClean (expandMovieWords t)).length := length_heavyClean_le t
      _ ≤ (expandMovieWords t).length :=
        length_lightClean_le (unpunctuated_expandMovieWords h.unpunctuated)
      _ < t.length := length_expandMovieWords_lt hwords
  · have hwordless : ∀ word ∈ movieWords, ¬ word <:+: t := fun word hword hin ↦
      hwords ⟨word, hword, hin⟩
    have hle := length_heavyClean_le t
    rw [expandMovieWords_eq_self hwordless] at hle
    refine Nat.lt_of_le_of_lt hle (length_lightClean_lt h.unpunctuated fun hlight ↦ hopen ?_)
    exact ⟨hlight.1, hlight.2, hwordless⟩

theorem HeavilyClean.heavyClean_eq_self_iff {t : List Char} (h : HeavilyClean t) :
    heavyClean t = t ↔ Settled t := by
  refine ⟨fun heq ↦ ?_, h.heavyClean_eq_self⟩
  by_contra hopen
  have hlength := h.length_heavyClean_lt hopen
  rw [heq] at hlength
  exact Nat.lt_irrefl _ hlength

/-! ## All passes -/

/-- **Cleaning comes to an end**, after as many passes as there are characters at the latest. -/
theorem HeavilyClean.exists_settled {t : List Char} (h : HeavilyClean t) :
    ∃ n ≤ t.length, Settled (heavyClean^[n] t) := by
  induction hlength : t.length using Nat.strongRecOn generalizing t with
  | ind size ih =>
    by_cases hsettled : Settled t
    · exact ⟨0, Nat.zero_le _, hsettled⟩
    · have hshorter := h.length_heavyClean_lt hsettled
      obtain ⟨n, hn, hfixed⟩ :=
        ih _ (hlength ▸ hshorter) (heavilyClean_heavyClean t) rfl
      exact ⟨n + 1, by omega, hfixed⟩

/-- Every title is settled by repeated cleaning: the first pass may still make it longer, and the
length of what that pass leaves bounds the number of the others. -/
theorem exists_heavyClean_eq_self (s : List Char) :
    ∃ n ≤ (heavyClean s).length + 1, heavyClean (heavyClean^[n] s) = heavyClean^[n] s := by
  obtain ⟨n, hn, hsettled⟩ := (heavilyClean_heavyClean s).exists_settled
  refine ⟨n + 1, Nat.succ_le_succ hn, ?_⟩
  have hclean : HeavilyClean (heavyClean^[n + 1] s) := by
    rw [Function.iterate_succ_apply']
    exact heavilyClean_heavyClean _
  rw [← Function.iterate_succ_apply] at hsettled
  exact hclean.heavyClean_eq_self hsettled

/-- **What one heavy cleaning achieves, and how the further ones end.**  There is no loose
punctuation any more, no colon, no unusual space, and none of the numerals that are respelled.  The
cleaned title is settled exactly if it has no white space at its ends, no season marker and no word
for a film, and otherwise the next pass makes it shorter.  So there is a number of passes after which
it is settled. -/
theorem heavyClean_settles (s : List Char) :
    (∀ c ∈ ['.', '-', '\x60', '\'', '&', '(', ')', ':', '\u3000', '\u2423'], c ∉ heavyClean s) ∧
      (∀ numeral ∈ ["2wei", "3rei", "4ier"], ¬ numeral.toList <:+: heavyClean s) ∧
      (heavyClean (heavyClean s) = heavyClean s ↔
        Trimmed (heavyClean s) ∧ ¬ HasSeasonMarker (heavyClean s) ∧
          ∀ word ∈ ["Gekijyouban", "gekijyouban"], ¬ word.toList <:+: heavyClean s) ∧
      (heavyClean (heavyClean s) ≠ heavyClean s →
        (heavyClean (heavyClean s)).length < (heavyClean s).length) ∧
      ∃ n ≤ (heavyClean s).length + 1, heavyClean (heavyClean^[n] s) = heavyClean^[n] s := by
  have hclean := heavilyClean_heavyClean s
  refine ⟨fun c hc ↦ hclean.not_mem hc, fun numeral hnumeral ↦ ?_, ?_, fun hopen ↦ ?_,
    exists_heavyClean_eq_self s⟩
  · have hmem : numeral.toList ∈ numeralRespellings.map Prod.fst :=
      List.mem_map_of_mem (f := String.toList) hnumeral
    obtain ⟨pair, hpair, heq⟩ := List.mem_map.mp hmem
    exact heq ▸ hclean.respelled pair hpair
  · have hwords : movieWords = ["Gekijyouban", "gekijyouban"].map String.toList := rfl
    rw [hclean.heavyClean_eq_self_iff, settled_iff, hwords, List.forall_mem_map]
  · exact hclean.length_heavyClean_lt fun hsettled ↦ hopen (hclean.heavyClean_eq_self hsettled)

end AnimeLookup.Title
