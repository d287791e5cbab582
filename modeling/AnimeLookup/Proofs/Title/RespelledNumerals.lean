import AnimeLookup.Proofs.Title.HeavyCleaning
import AnimeLookup.Proofs.Title.PlainTitles
import AnimeLookup.Proofs.Title.SeasonNames

/-!
# Numerals that romanisations respell

Romanisations write three German numerals with a digit (`2wei`, `3rei`, `4ier`).  A title with such
a numeral is equivalent to the title with the word for it, whatever else stands in the two
(`equivalent_respelled`).

The respelling is the last step of the heavy cleaning, so it has to be seen that the two titles go
through all the steps before it side by side.  What carries this is that they *differ in one place*
(`DifferIn`): a common beginning, one of the two spellings, and a common end.  Each step keeps that.

* Folding does, if the spelling begins the title or stands behind a space.  The last letters of the
  two spellings are context for a capital sigma behind them, and they are the same context.
* A step that goes character by character does, since no spelling has a character that is dropped or
  rewritten (`DifferIn.map`), and trimming does not reach the spelling (`DifferIn.trim`).
* A replacement does if no occurrence of its pattern can touch the spelling (`WrittenApart`), as is
  the case with the word for a film and with the numerals that are respelled earlier.

The replacement of the numeral itself then makes the two texts the same
(`DifferIn.respellEach_eq`).
-/

set_option autoImplicit false

namespace AnimeLookup.Title

open Text

/-! ## Replacing around a text -/

section Around

variable {pattern x : List Char}

theorem WrittenApart.noneAcross (h : WrittenApart x pattern) (v : List Char) :
    NoneAcross pattern (x ++ v) := by
  obtain ⟨d, more, e, rest, rfl, rfl, hd, -⟩ := h
  exact noneAcross_cons (fun hmem ↦ hd (List.mem_cons_of_mem e hmem))

/-- **A text that no occurrence can touch stands through a replacement.** -/
theorem WrittenApart.replace_around (h : WrittenApart x pattern) (new u v : List Char) :
    replace pattern new (u ++ (x ++ v)) =
      replace pattern new u ++ (x ++ replace pattern new v) := by
  rw [replace_append new u (h.noneAcross v)]
  obtain ⟨-, -, e, rest, -, rfl, -, he⟩ := h
  rw [replace_append_of_not_mem new v he]

/-- The pattern then occurs before that text or behind it. -/
theorem WrittenApart.infix_around_iff (h : WrittenApart x pattern) (u v : List Char) :
    pattern <:+: u ++ (x ++ v) ↔ pattern <:+: u ∨ pattern <:+: v := by
  rw [infix_append_iff_of_noneAcross (h.noneAcross v)]
  obtain ⟨-, -, e, rest, -, rfl, -, he⟩ := h
  refine or_congr_right ⟨infix_of_infix_append he, fun hin ↦ ?_⟩
  exact hin.trans (List.suffix_append x v).isInfix

/-- A pattern that can only begin with its first character does not overlap itself, so a copy of it
is replaced wherever it stands. -/
theorem replace_around_pattern (hne : pattern ≠ []) (h : ∀ e ∈ pattern.head?, e ∉ pattern.tail)
    (new u v : List Char) :
    replace pattern new (u ++ (pattern ++ v)) =
      replace pattern new u ++ (new ++ replace pattern new v) := by
  obtain ⟨e, rest, rfl⟩ := List.exists_cons_of_ne_nil hne
  have hnone : NoneAcross (e :: rest) (e :: rest ++ v) := noneAcross_cons (h e rfl)
  have hdrop : (e :: rest ++ v).drop (rest.length + 1) = v := by simp
  rw [replace_append new u hnone, replace_cons_of_startsWith (List.prefix_append _ _), hdrop]

end Around

/-! ## Texts that differ in one place -/

/-- **Two texts that differ in one place**, where one has `x` and the other one `y`. -/
def DifferIn (x y s t : List Char) : Prop :=
  ∃ u v, s = u ++ (x ++ v) ∧ t = u ++ (y ++ v)

namespace DifferIn

variable {x y s t : List Char}

/-- A step that goes part by part, and changes neither `x` nor `y`, changes what is common. -/
theorem map (h : DifferIn x y s t) {f : List Char → List Char}
    (happend : ∀ u v, f (u ++ v) = f u ++ f v) (hx : f x = x) (hy : f y = y) :
    DifferIn x y (f s) (f t) := by
  obtain ⟨u, v, rfl, rfl⟩ := h
  exact ⟨f u, f v, by rw [happend, happend, hx], by rw [happend, happend, hy]⟩

theorem append (h : DifferIn x y s t) (w : List Char) : DifferIn x y (s ++ w) (t ++ w) := by
  obtain ⟨u, v, rfl, rfl⟩ := h
  exact ⟨u, v ++ w, by simp, by simp⟩

theorem trim (h : DifferIn x y s t) (hx : Trimmed x) (hxne : x ≠ []) (hy : Trimmed y)
    (hyne : y ≠ []) : DifferIn x y (Text.trim s) (Text.trim t) := by
  obtain ⟨u, v, rfl, rfl⟩ := h
  exact ⟨_, _, trim_around hx hxne u v, trim_around hy hyne u v⟩

theorem replace (h : DifferIn x y s t) {pattern : List Char} (hx : WrittenApart x pattern)
    (hy : WrittenApart y pattern) (new : List Char) :
    DifferIn x y (Text.replace pattern new s) (Text.replace pattern new t) := by
  obtain ⟨u, v, rfl, rfl⟩ := h
  exact ⟨_, _, hx.replace_around new u v, hy.replace_around new u v⟩

theorem occurs_eq (h : DifferIn x y s t) {pattern : List Char} (hx : WrittenApart x pattern)
    (hy : WrittenApart y pattern) : occurs pattern s = occurs pattern t := by
  obtain ⟨u, v, rfl, rfl⟩ := h
  rw [Bool.eq_iff_iff, occurs_iff, occurs_iff, hx.infix_around_iff, hy.infix_around_iff]

/-- **Texts that differ in a copy of a pattern become the same when it is replaced**, provided that
no earlier replacement reaches the copy. -/
theorem respellEach_eq {pairs : List (List Char × List Char)}
    (hself : ∀ pair ∈ pairs, ∀ e ∈ pair.1.head?, e ∉ pair.1.tail)
    (hwords : ∀ pair ∈ pairs, ∀ other ∈ pairs, WrittenApart pair.2 other.1)
    (hnumerals : pairs.Pairwise fun earlier later ↦ WrittenApart later.1 earlier.1)
    {pair : List Char × List Char} (hpair : pair ∈ pairs) (h : DifferIn pair.1 pair.2 s t) :
    respellEach pairs s = respellEach pairs t := by
  induction pairs generalizing s t with
  | nil => exact absurd hpair List.not_mem_nil
  | cons first rest ih =>
    obtain ⟨hlater, hrest⟩ := List.pairwise_cons.mp hnumerals
    have hword := hwords pair hpair first List.mem_cons_self
    rw [respellEach_cons, respellEach_cons]
    rcases List.mem_cons.mp hpair with rfl | hmem
    · obtain ⟨u, v, rfl, rfl⟩ := h
      rw [hword.replace_around,
        replace_around_pattern hword.ne_nil (hself pair List.mem_cons_self)]
    · exact ih (fun a ha ↦ hself a (List.mem_cons_of_mem first ha))
        (fun a ha b hb ↦ hwords a (List.mem_cons_of_mem first ha) b (List.mem_cons_of_mem first hb))
        hrest hmem (h.replace (hlater pair hmem) hword first.2)

end DifferIn

/-! ## Spellings -/

/-- **A text that the comparison leaves alone** up to the respelling, wherever it stands. -/
structure Kept (x : List Char) : Prop where
  /-- It is there. -/
  ne_nil : x ≠ []
  /-- It has no white space and no dots. -/
  solid : Solid x
  /-- It has no punctuation that a light cleaning rewrites. -/
  plain : plainPunctuation x = x
  /-- It has no character that a heavy cleaning drops. -/
  noiseless : x.filter (!isHeavyNoise ·) = x
  /-- The word for a film does not touch it. -/
  apart : WrittenApart x "gekijyouban".toList
  /-- It is in small letters, and a text goes on behind it as behind a letter. -/
  lowercase_append : ∀ t, lowercase (x ++ t) = x ++ lowercaseAfter true t

theorem Kept.trimmed {x : List Char} (h : Kept x) : Trimmed x :=
  .of_none fun c hc ↦ (h.solid c hc).1

/-- The spellings end in letters, which look the same from behind. -/
theorem lowercase_spelling {x : List Char} (hascii : x.all isAscii = true)
    (hsmall : lowercaseAscii x = x) (hlast : x.getLast? = some 'i' ∨ x.getLast? = some 'r')
    (t : List Char) : lowercase (x ++ t) = x ++ lowercaseAfter true t := by
  have hsigma : 'Σ' ∉ x := fun hmem ↦
    absurd (List.all_eq_true.mp hascii 'Σ' hmem) (by decide)
  obtain ⟨c, hend, hcased, hignorable⟩ :
      ∃ c, x.getLast? = some c ∧ isCased c = true ∧ isCaseIgnorable c = false := by
    rcases hlast with h | h
    · exact ⟨'i', h, by decide +kernel⟩
    · exact ⟨'r', h, by decide +kernel⟩
  obtain ⟨u, rfl⟩ := List.getLast?_eq_some_iff.mp hend
  rw [List.append_assoc, List.singleton_append, lowercase_append_cased hcased hignorable hsigma,
    lowercase_of_ascii hascii, hsmall]

theorem kept_of_mem_numeralRespellings {pair : List Char × List Char}
    (h : pair ∈ numeralRespellings) : Kept pair.1 ∧ Kept pair.2 := by
  have hall : ∀ pair ∈ numeralRespellings, ∀ x ∈ [pair.1, pair.2],
      x ≠ [] ∧ Solid x ∧ plainPunctuation x = x ∧ x.filter (!isHeavyNoise ·) = x ∧
        WrittenApart x "gekijyouban".toList ∧ x.all isAscii = true ∧ lowercaseAscii x = x ∧
        (x.getLast? = some 'i' ∨ x.getLast? = some 'r') := by
    decide
  have hkept : ∀ x ∈ [pair.1, pair.2], Kept x := by
    intro x hx
    obtain ⟨hne, hsolid, hplain, hnoise, hapart, hascii, hsmall, hlast⟩ := hall pair h x hx
    exact ⟨hne, hsolid, hplain, hnoise, hapart, lowercase_spelling hascii hsmall hlast⟩
  exact ⟨hkept _ List.mem_cons_self, hkept _ (List.mem_cons_of_mem _ List.mem_cons_self)⟩

/-! ## The steps of the comparison -/

namespace DifferIn

variable {x y : List Char} (hx : Kept x) (hy : Kept y)

include hx hy

/-- **Folding keeps what titles have in common**, if the spelling is a word or the beginning of
one. -/
theorem fold {p : List Char} (hp : p = [] ∨ p.getLast? = some ' ') (q : List Char) :
    DifferIn x y (Title.fold (p ++ (x ++ q))) (Title.fold (p ++ (y ++ q))) := by
  have hlower : ∀ {z}, Kept z →
      lowercase (p ++ (z ++ q)) = lowercase p ++ (z ++ lowercaseAfter true q) := by
    intro z hz
    rcases hp with rfl | hspace
    · exact hz.lowercase_append q
    · obtain ⟨r, rfl⟩ := List.getLast?_eq_some_iff.mp hspace
      rw [List.append_assoc, List.singleton_append, lowercase_append_space, hz.lowercase_append,
        lowercase_append_space, lowercase_nil, List.append_cons]
  have hdotless : ∀ {z}, Kept z → z.filter (· ≠ '.') = z := fun hz ↦
    List.filter_eq_self.mpr fun c hc ↦ decide_eq_true (hz.solid c hc).2
  have hstart : DifferIn x y (lowercase (p ++ (x ++ q))) (lowercase (p ++ (y ++ q))) :=
    ⟨_, _, hlower hx, hlower hy⟩
  have hspaceless := hstart.map (f := List.filter (· ≠ ' ')) (fun _ _ ↦ List.filter_append _ _)
    hx.solid.filter_space hy.solid.filter_space
  have htrim := hspaceless.trim hx.trimmed hx.ne_nil hy.trimmed hy.ne_nil
  exact htrim.map (f := List.filter (· ≠ '.')) (fun _ _ ↦ List.filter_append _ _) (hdotless hx)
    (hdotless hy)

variable {s t : List Char} (h : DifferIn x y s t)

include h

theorem expandMovieWord :
    DifferIn x y (Title.expandMovieWord s "gekijyouban".toList)
      (Title.expandMovieWord t "gekijyouban".toList) := by
  rw [Title.expandMovieWord, Title.expandMovieWord, h.occurs_eq hx.apart hy.apart]
  split
  · exact ((h.replace hx.apart hy.apart []).append _).trim hx.trimmed hx.ne_nil hy.trimmed hy.ne_nil
  · exact h

/-- Of a light cleaning we need the case in which there is no spaced aside and no season marker.  An
aside might have the spelling in it, and a marker might end in it. -/
theorem lightClean (hsaside : ¬ [' ', '('] <:+: s) (hsmarker : 'S' ∉ s)
    (htaside : ¬ [' ', '('] <:+: t) (htmarker : 'S' ∉ t) :
    DifferIn x y (Title.lightClean s) (Title.lightClean t) := by
  rw [lightClean_of_bare hsaside hsmarker, lightClean_of_bare htaside htmarker]
  exact (h.trim hx.trimmed hx.ne_nil hy.trimmed hy.ne_nil).map (fun _ _ ↦ List.flatMap_append)
    hx.plain hy.plain

end DifferIn

/-! ## The comparison -/

/-- No numeral that is respelled overlaps itself, or is touched by the replacement of one before. -/
theorem numeralRespellings_apart :
    (∀ pair ∈ numeralRespellings, ∀ e ∈ pair.1.head?, e ∉ pair.1.tail) ∧
      numeralRespellings.Pairwise fun earlier later ↦ WrittenApart later.1 earlier.1 := by
  refine ⟨?_, by decide⟩
  intro pair hpair e he
  simp only [numeralRespellings, List.mem_cons, List.not_mem_nil, or_false] at hpair
  rcases hpair with rfl | rfl | rfl <;> exact Option.some.inj he ▸ by decide

/-- **Folded titles that differ in the spelling of a numeral are cleaned to the same text.** -/
theorem heavyClean_fold_eq {pair : List Char × List Char} (hpair : pair ∈ numeralRespellings)
    {a b : List Char} (h : DifferIn pair.1 pair.2 (fold a) (fold b)) :
    heavyClean (fold a) = heavyClean (fold b) := by
  obtain ⟨hx, hy⟩ := kept_of_mem_numeralRespellings hpair
  have hbare : ∀ s, ¬ [' ', '('] <:+: expandMovieWord (fold s) "gekijyouban".toList ∧
      'S' ∉ expandMovieWord (fold s) "gekijyouban".toList := fun s ↦
    expandMovieWord_of_spaceless (space_not_mem_fold s) (not_mem_fold_of_isUpper (by decide) s) _
  have hexpand := h.expandMovieWord hx hy
  have hlight := hexpand.lightClean hx hy (hbare a).1 (hbare a).2 (hbare b).1 (hbare b).2
  have hnoise := hlight.map (f := List.filter (!isHeavyNoise ·)) (fun _ _ ↦ List.filter_append _ _)
    hx.noiseless hy.noiseless
  rw [heavyClean, heavyClean, expandMovieWords_of_small (not_mem_fold_of_isUpper (by decide) a),
    expandMovieWords_of_small (not_mem_fold_of_isUpper (by decide) b)]
  exact hnoise.respellEach_eq numeralRespellings_apart.1 writtenApart_numeralRespellings
    numeralRespellings_apart.2 hpair

/-- **A numeral in the spelling of a romanisation and the word for it make no difference**, in
whatever titles they stand, provided that nothing but a space is directly before them. -/
theorem equivalent_respelled {p : List Char} (hp : p = [] ∨ p.getLast? = some ' ')
    (q : List Char) :
    ∀ pair ∈ [("2wei", "zwei"), ("3rei", "drei"), ("4ier", "vier")],
      equivalent (p ++ pair.1.toList ++ q) (p ++ pair.2.toList ++ q) = true ∧
        equivalent (p ++ pair.2.toList ++ q) (p ++ pair.1.toList ++ q) = true := by
  intro pair hpair
  have hmem : (pair.1.toList, pair.2.toList) ∈ numeralRespellings :=
    List.mem_map_of_mem (f := fun pair : String × String ↦ (pair.1.toList, pair.2.toList)) hpair
  obtain ⟨hx, hy⟩ := kept_of_mem_numeralRespellings hmem
  have hrule : ⟨"heavy_clean", sameForm heavyClean⟩ ∈ rules := by simp [rules]
  rw [List.append_assoc, List.append_assoc]
  refine equivalent_of_accepts (by simp [hx.ne_nil]) (by simp [hy.ne_nil]) hrule
    (beq_iff_eq.mpr ?_)
  exact heavyClean_fold_eq hmem (.fold hx hy hp q)

/-- The titles have the word for a film, another numeral on either side, an aside, and a sigma that
looks at the spelling before it. -/
theorem equivalent_second_film :
    "Gekijyouban 3rei (TV) ".toList.getLast? = some ' ' ∧
      equivalent "Gekijyouban 3rei (TV) 2weiΣ: gekijyouban-4ier.".toList
        "Gekijyouban 3rei (TV) zweiΣ: gekijyouban-4ier.".toList = true := by
  have hspace : "Gekijyouban 3rei (TV) ".toList.getLast? = some ' ' := by decide
  have hnumeral : "Gekijyouban 3rei (TV) 2weiΣ: gekijyouban-4ier.".toList =
      "Gekijyouban 3rei (TV) ".toList ++ "2wei".toList ++ "Σ: gekijyouban-4ier.".toList := by decide
  have hword : "Gekijyouban 3rei (TV) zweiΣ: gekijyouban-4ier.".toList =
      "Gekijyouban 3rei (TV) ".toList ++ "zwei".toList ++ "Σ: gekijyouban-4ier.".toList := by decide
  rw [hnumeral, hword]
  exact ⟨hspace, (equivalent_respelled (.inr hspace) _ ("2wei", "zwei") (by decide)).1⟩

end AnimeLookup.Title
