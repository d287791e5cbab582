import AnimeLookup.Proofs.Title.SeasonNames

/-!
# The digit of a season

Two rules of the chain look for an `s` with a *season digit* behind it, which is a 0 or a 9 and
nothing else, and they forget everything behind the last one of a line (`seasonDigit`).  This file
says what they find in a title with the name of a season.

What they find may be in the title itself, or be made by the name.  A number in shorthand stands
behind an `s`, so it is found if it begins with a season digit; an ordinal numeral is found if the
title in front of it ends in an `s`.  Where the name is not what is found it is forgotten, and its
number with it.  `HidesNumber` lists the ways in which this can happen to two names at once, and
`seasonDigit_agree_iff` says that the list is complete.
-/

set_option autoImplicit false

namespace AnimeLookup.Title

open Text

/-! ## Marked lines -/

/-- **Whether a line has an `s` with a season digit behind it.** -/
def Marked (line : List Char) : Prop := ['s', '0'] <:+: line ∨ ['s', '9'] <:+: line

instance (line : List Char) : Decidable (Marked line) :=
  decidable_of_iff ((occurs ['s', '0'] line || occurs ['s', '9'] line) = true) <| by
    rw [Bool.or_eq_true, occurs_iff, occurs_iff, Marked]

theorem not_marked_of_not_mem {line : List Char} (h : 's' ∉ line) : ¬ Marked line := by
  rintro (hzero | hnine)
  · exact h (hzero.subset List.mem_cons_self)
  · exact h (hnine.subset List.mem_cons_self)

/-- A mark in a line stands at its beginning or behind its first character. -/
theorem marked_cons_iff (c : Char) (rest : List Char) :
    Marked (c :: rest) ↔
      (c = 's' ∧ (rest.head? = some '0' ∨ rest.head? = some '9')) ∨ Marked rest := by
  have hprefix : ∀ d : Char, ['s', d] <+: c :: rest ↔ c = 's' ∧ rest.head? = some d := fun d ↦ by
    cases rest with
    | nil => simp
    | cons e more => simp [List.cons_prefix_cons, eq_comm]
  rw [Marked, Marked, List.infix_cons_iff, List.infix_cons_iff, hprefix, hprefix, or_or_or_comm,
    ← and_or_left]

theorem isSeasonDigit_iff {c : Char} (h : c ≠ ' ') :
    isSeasonDigit c = true ↔ c = '0' ∨ c = '9' := by
  simp [isSeasonDigit, h]

/-- What is found behind the first character counts before what begins with it. -/
theorem lastSeasonDigit_cons (c : Char) (rest : List Char) :
    lastSeasonDigit (c :: rest) = ((lastSeasonDigit rest).map (c :: ·)).or
      (if c = 's' then (rest.head?.filter isSeasonDigit).map ([·]) else none) := by
  rw [lastSeasonDigit]
  cases lastSeasonDigit rest <;> rfl

/-- A line without spaces has a season digit exactly if it is marked. -/
theorem lastSeasonDigit_isSome_iff {line : List Char} (h : ' ' ∉ line) :
    (lastSeasonDigit line).isSome = true ↔ Marked line := by
  induction line with
  | nil => simp [lastSeasonDigit, Marked]
  | cons c rest ih =>
    rw [List.mem_cons, not_or] at h
    have hhead : rest.head?.any isSeasonDigit = true ↔
        rest.head? = some '0' ∨ rest.head? = some '9' := by
      cases rest with
      | nil => simp
      | cons d more =>
        have hspace : d ≠ ' ' := fun hd ↦ h.2 (hd ▸ List.mem_cons_self)
        rw [List.head?_cons, Option.any_some, isSeasonDigit_iff hspace, Option.some.injEq,
          Option.some.injEq]
    rw [lastSeasonDigit_cons, marked_cons_iff, ← ih h.2, ← hhead, Option.isSome_or,
      Option.isSome_map, Bool.or_eq_true, or_comm]
    by_cases hc : c = 's' <;> simp [hc]

theorem lastSeasonDigit_eq_none_iff {line : List Char} (h : ' ' ∉ line) :
    lastSeasonDigit line = none ↔ ¬ Marked line := by
  rw [← lastSeasonDigit_isSome_iff h, Option.not_isSome_iff_eq_none]

/-- What is found is shorter than the line, since the `s` is left out. -/
theorem length_of_lastSeasonDigit {line u : List Char} (h : lastSeasonDigit line = some u) :
    u.length < line.length := by
  induction line generalizing u with
  | nil => simp [lastSeasonDigit] at h
  | cons c rest ih =>
    rw [lastSeasonDigit_cons, Option.or_eq_some_iff, Option.map_eq_some_iff] at h
    rcases h with ⟨stem, hstem, rfl⟩ | ⟨-, h⟩
    · exact Nat.succ_lt_succ (ih hstem)
    · split at h
      · obtain ⟨d, hd, rfl⟩ := Option.map_eq_some_iff.mp h
        cases rest with
        | nil => simp at hd
        | cons e more => simp
      · exact absurd h (by simp)

/-- What is found consists of characters of the line. -/
theorem sublist_of_lastSeasonDigit {line u : List Char} (h : lastSeasonDigit line = some u) :
    u.Sublist line := by
  induction line generalizing u with
  | nil => simp [lastSeasonDigit] at h
  | cons c rest ih =>
    rw [lastSeasonDigit_cons, Option.or_eq_some_iff, Option.map_eq_some_iff] at h
    rcases h with ⟨stem, hstem, rfl⟩ | ⟨-, h⟩
    · exact (ih hstem).cons_cons c
    · split at h
      · obtain ⟨d, hd, rfl⟩ := Option.map_eq_some_iff.mp h
        have hhead := (Option.filter_eq_some_iff.mp hd).1
        exact (List.singleton_sublist.mpr (List.mem_of_head? hhead)).cons c
      · exact absurd h (by simp)

/-! ## Lines that go on -/

section Continued

variable {line t : List Char}

/-- A season digit in what follows is found before those in the line itself. -/
theorem lastSeasonDigit_append_of_some {u : List Char} (h : lastSeasonDigit t = some u) :
    lastSeasonDigit (line ++ t) = some (line ++ u) := by
  induction line with
  | nil => exact h
  | cons c rest ih =>
    rw [List.cons_append, lastSeasonDigit_cons, ih, Option.map_some, Option.some_or,
      List.cons_append]

/-- An `s` at the end of the line takes the digit that follows. -/
theorem lastSeasonDigit_append_of_joint {d : Char} {more : List Char} (hd : isSeasonDigit d = true)
    (h : lastSeasonDigit (d :: more) = none) :
    lastSeasonDigit (line ++ 's' :: d :: more) = some (line ++ [d]) := by
  refine lastSeasonDigit_append_of_some ?_
  rw [lastSeasonDigit_cons, h]
  simp [hd]

/-- If neither what follows nor the joint has a season digit, it is sought in the line. -/
theorem lastSeasonDigit_append_of_none (h : lastSeasonDigit t = none)
    (hjoint : line.getLast? = some 's' → t.head?.filter isSeasonDigit = none) :
    lastSeasonDigit (line ++ t) = lastSeasonDigit line := by
  induction line with
  | nil => exact h
  | cons c rest ih =>
    cases rest with
    | nil =>
      rw [List.singleton_append, lastSeasonDigit_cons, lastSeasonDigit_cons, h]
      by_cases hc : c = 's'
      · simp [hc, lastSeasonDigit, hjoint (by simp [hc])]
      · simp [hc, lastSeasonDigit]
    | cons d more =>
      rw [List.getLast?_cons_cons] at hjoint
      rw [List.cons_append, lastSeasonDigit_cons, lastSeasonDigit_cons, ih hjoint]
      rfl

/-- A beginning without an `s` stays in front of whatever is found. -/
theorem lastSeasonDigit_prepend (h : 's' ∉ line) (t : List Char) :
    lastSeasonDigit (line ++ t) = (lastSeasonDigit t).map (line ++ ·) := by
  cases ht : lastSeasonDigit t with
  | some u => exact lastSeasonDigit_append_of_some ht
  | none =>
    induction line with
    | nil => exact ht
    | cons c rest ih =>
      rw [List.mem_cons, not_or] at h
      rw [List.cons_append, lastSeasonDigit_cons, ih h.2, if_neg (Ne.symm h.1)]
      rfl

end Continued

/-! ## The lines of a text -/

/-- The lines before the last one. -/
def earlierLines (s : List Char) : List (List Char) := (s.splitOn '\n').dropLast

/-- The last line. -/
def lastLine (s : List Char) : List Char := (s.splitOn '\n').getLastD []

theorem splitOn_of_not_mem {s : List Char} {sep : Char} (h : sep ∉ s) : s.splitOn sep = [s] := by
  induction s with
  | nil => exact List.splitOn_nil sep
  | cons c rest ih =>
    rw [List.mem_cons, not_or] at h
    rw [List.splitOn_cons_eq_if_modifyHead, ih h.2]
    simp [Ne.symm h.1]

/-- **Text without a line break continues the last line.** -/
theorem splitOn_append {s t : List Char} (h : '\n' ∉ t) :
    (s ++ t).splitOn '\n' = earlierLines s ++ [lastLine s ++ t] := by
  have hsplit : ∃ front last, s.splitOn '\n' = front ++ [last] ∧
      (s ++ t).splitOn '\n' = front ++ [last ++ t] := by
    induction s with
    | nil => exact ⟨[], [], List.splitOn_nil _, splitOn_of_not_mem h⟩
    | cons c rest ih =>
      obtain ⟨front, last, hrest, happend⟩ := ih
      rw [List.cons_append, List.splitOn_cons_eq_if_modifyHead,
        List.splitOn_cons_eq_if_modifyHead, hrest, happend]
      split
      · exact ⟨[] :: front, last, rfl, rfl⟩
      · cases front with
        | nil => exact ⟨[], c :: last, rfl, rfl⟩
        | cons line more => exact ⟨(c :: line) :: more, last, rfl, rfl⟩
  obtain ⟨front, last, hs, happend⟩ := hsplit
  rw [happend, earlierLines, lastLine, hs, List.dropLast_concat, List.getLastD_concat]

/-- A line of a text is part of it. -/
theorem sublist_of_mem_splitOn {s line : List Char} {sep : Char} (h : line ∈ s.splitOn sep) :
    line.Sublist s := by
  induction s generalizing line with
  | nil =>
    rw [List.splitOn_nil, List.mem_singleton] at h
    exact h ▸ List.Sublist.refl []
  | cons c rest ih =>
    obtain ⟨first, more, hrest⟩ := List.exists_cons_of_ne_nil (List.splitOn_ne_nil sep rest)
    rw [hrest] at ih
    rw [List.splitOn_cons_eq_if_modifyHead, hrest] at h
    split at h
    · rcases List.mem_cons.mp h with rfl | hline
      · exact List.nil_sublist _
      · exact (ih hline).cons c
    · rcases List.mem_cons.mp h with rfl | hline
      · exact (ih List.mem_cons_self).cons_cons c
      · exact (ih (List.mem_cons_of_mem first hline)).cons c

theorem earlierLine_sublist {s line : List Char} (h : line ∈ earlierLines s) : line.Sublist s :=
  sublist_of_mem_splitOn (List.dropLast_subset _ h)

theorem lastLine_sublist (s : List Char) : (lastLine s).Sublist s := by
  rw [lastLine, List.getLastD_eq_getLast?, List.getLast?_eq_some_getLast (List.splitOn_ne_nil _ s)]
  exact sublist_of_mem_splitOn (List.getLast_mem _)

theorem sublist_of_seasonDigit {s u : List Char} (h : seasonDigit s = some u) : u.Sublist s := by
  obtain ⟨line, hline, hu⟩ := List.exists_of_findSome?_eq_some h
  exact (sublist_of_lastSeasonDigit hu).trans (sublist_of_mem_splitOn hline)

/-- Text without a line break and without a season digit changes nothing behind another one, if it
does not begin with such a digit either. -/
theorem seasonDigit_append_of_none {t : List Char} (hline : '\n' ∉ t)
    (hnone : lastSeasonDigit t = none) (hhead : t.head?.filter isSeasonDigit = none)
    (s : List Char) : seasonDigit (s ++ t) = seasonDigit s := by
  have hsplit : s.splitOn '\n' = earlierLines s ++ [lastLine s] := by
    have h := splitOn_append (s := s) (t := []) List.not_mem_nil
    rwa [List.append_nil, List.append_nil] at h
  rw [seasonDigit, seasonDigit, splitOn_append hline, hsplit, List.findSome?_append,
    List.findSome?_append, List.findSome?_singleton, List.findSome?_singleton,
    lastSeasonDigit_append_of_none hnone fun _ ↦ hhead]

/-! ### The first line -/

/-- The first line. -/
def firstLine (s : List Char) : List Char := (s.splitOn '\n').headD []

/-- The lines behind the first one. -/
def laterLines (s : List Char) : List (List Char) := (s.splitOn '\n').tail

theorem splitOn_eq_cons (s : List Char) : s.splitOn '\n' = firstLine s :: laterLines s := by
  obtain ⟨first, more, h⟩ := List.exists_cons_of_ne_nil (List.splitOn_ne_nil '\n' s)
  rw [firstLine, laterLines, h]
  rfl

/-- **Text without a line break begins the first line.** -/
theorem splitOn_prepend {t : List Char} (h : '\n' ∉ t) (s : List Char) :
    (t ++ s).splitOn '\n' = (t ++ firstLine s) :: laterLines s := by
  induction t with
  | nil => exact splitOn_eq_cons s
  | cons c rest ih =>
    rw [List.mem_cons, not_or] at h
    rw [List.cons_append, List.splitOn_cons_eq_if_modifyHead, if_neg (by simpa using Ne.symm h.1),
      ih h.2]
    rfl

theorem seasonDigit_eq_or (s : List Char) :
    seasonDigit s = (lastSeasonDigit (firstLine s)).or
      ((laterLines s).findSome? lastSeasonDigit) := by
  rw [seasonDigit, splitOn_eq_cons, List.findSome?_cons]
  cases lastSeasonDigit (firstLine s) <;> rfl

/-- What stands in front of a text goes with what is found in its first line, and with nothing
else. -/
theorem seasonDigit_prepend {t : List Char} (hline : '\n' ∉ t) (hs : 's' ∉ t) (s : List Char) :
    seasonDigit (t ++ s) = ((lastSeasonDigit (firstLine s)).map (t ++ ·)).or
      ((laterLines s).findSome? lastSeasonDigit) := by
  rw [seasonDigit, splitOn_prepend hline, List.findSome?_cons, lastSeasonDigit_prepend hs]
  cases lastSeasonDigit (firstLine s) <;> rfl

/-! ## Titles with the name of a season -/

/-- **The first digit of a number, if it is a season digit.** -/
def SeasonNumeral.mark (n : SeasonNumeral) : Option Char :=
  n.digits.head?.filter fun c ↦ c = '0' || c = '9'

namespace SeasonNumeral

variable (n : SeasonNumeral)

theorem mark_eq : n.mark = n.digits.head?.filter isSeasonDigit := by
  have hfilter : ∀ d : Char, d.isDigit = true →
      (some d).filter (fun c ↦ c = '0' || c = '9') = (some d).filter isSeasonDigit := by
    intro d hd
    have hspace : d ≠ ' ' := fun h ↦ absurd (h ▸ hd) (by decide)
    simp [Option.filter_some, isSeasonDigit, hspace]
  rcases n.digits_cases with ⟨d, hn, hd⟩ | ⟨d, e, hn, hd, -⟩
  · rw [mark, hn, List.head?_cons, hfilter d hd]
  · rw [mark, hn, List.head?_cons, hfilter d hd]

/-- A number that begins with a season digit, taken apart. -/
theorem exists_of_mark {n : SeasonNumeral} {d : Char} (h : n.mark = some d) :
    isSeasonDigit d = true ∧ ∃ more, n.digits = d :: more := by
  rw [mark_eq, Option.filter_eq_some_iff, List.head?_eq_some_iff] at h
  exact ⟨h.2, h.1⟩

theorem lastSeasonDigit_digits : lastSeasonDigit n.digits = none :=
  (lastSeasonDigit_eq_none_iff (not_mem_digits (by decide))).mpr
    (not_marked_of_not_mem (not_mem_digits (by decide)))

end SeasonNumeral

namespace SeasonName

/-- What is found in a line with a shorthand behind it: the shorthand's own digit if it is a season
digit, and otherwise what is found in the line. -/
theorem lastSeasonDigit_shorthand (n : SeasonNumeral) (line : List Char) :
    lastSeasonDigit (line ++ (shorthand n).tail) =
      (n.mark.map fun d ↦ line ++ [d]).or (lastSeasonDigit line) := by
  cases hmark : n.mark with
  | some d =>
    obtain ⟨hd, more, hn⟩ := SeasonNumeral.exists_of_mark hmark
    have hnone := n.lastSeasonDigit_digits
    rw [hn] at hnone
    rw [tail, hn, lastSeasonDigit_append_of_joint hd hnone]
    rfl
  | none =>
    rw [SeasonNumeral.mark_eq] at hmark
    have hnone : lastSeasonDigit (shorthand n).tail = none := by
      rw [tail, lastSeasonDigit_cons, n.lastSeasonDigit_digits, hmark]
      rfl
    exact lastSeasonDigit_append_of_none hnone fun _ ↦ rfl

theorem lastSeasonDigit_ordinal_tail (n : SeasonNumeral) :
    lastSeasonDigit (ordinal n).tail = none := by
  have hsuffix : ∀ w ∈ ["st", "nd", "rd", "th"],
      lastSeasonDigit (w.toList ++ "season".toList) = none := by
    decide
  rw [tail, List.append_assoc, lastSeasonDigit_append_of_none
    (hsuffix _ (ordinalSuffix_mem n.number)), n.lastSeasonDigit_digits]
  exact fun h ↦ absurd (List.mem_of_getLast? h) (SeasonNumeral.not_mem_digits (by decide))

/-- What is found in a line with an ordinal numeral behind it: the digit that an `s` at the end of
the line takes from the numeral, and otherwise what is found in the line. -/
theorem lastSeasonDigit_ordinal (n : SeasonNumeral) (line : List Char) :
    lastSeasonDigit (line ++ (ordinal n).tail) =
      if line.getLast? = some 's' ∧ n.mark.isSome = true then
        n.mark.map fun d ↦ line.dropLast ++ [d]
      else lastSeasonDigit line := by
  have hnone := lastSeasonDigit_ordinal_tail n
  split
  · rename_i hjoint
    obtain ⟨hlast, hmark⟩ := hjoint
    obtain ⟨d, hmark⟩ := Option.isSome_iff_exists.mp hmark
    obtain ⟨hd, more, hn⟩ := SeasonNumeral.exists_of_mark hmark
    obtain ⟨front, rfl⟩ := List.getLast?_eq_some_iff.mp hlast
    have htail : (ordinal n).tail =
        d :: (more ++ (ordinalSuffix n.number).toList ++ "season".toList) := by
      rw [tail, hn]
      rfl
    rw [htail] at hnone ⊢
    rw [List.append_assoc, List.singleton_append, lastSeasonDigit_append_of_joint hd hnone, hmark,
      Option.map_some, List.dropLast_concat]
  · rename_i hjoint
    refine lastSeasonDigit_append_of_none hnone fun hlast ↦ ?_
    have hhead : (ordinal n).tail.head? = n.digits.head? := by
      rcases n.digits_cases with ⟨d, hn, -⟩ | ⟨d, e, hn, -⟩ <;> rw [tail, hn] <;> rfl
    rw [hhead, ← SeasonNumeral.mark_eq]
    exact Option.not_isSome_iff_eq_none.mp fun hmark ↦ hjoint ⟨hlast, hmark⟩

/-- **What is found in a title with the name of a season**: what is found in the lines before its
last one, and otherwise what is found in the last one. -/
theorem seasonDigit_tail (s : SeasonName) (stem : List Char) :
    seasonDigit (stem ++ s.tail) =
      ((earlierLines stem).findSome? lastSeasonDigit).or
        (lastSeasonDigit (lastLine stem ++ s.tail)) := by
  rw [seasonDigit, splitOn_append (s.not_mem_tail (by decide)), List.findSome?_append,
    List.findSome?_singleton]

/-- What is found is too short to be a title with the name of a season. -/
theorem length_of_seasonDigit (s : SeasonName) {stem u : List Char}
    (h : seasonDigit (stem ++ s.tail) = some u) : u.length ≤ stem.length + 1 := by
  have hlast := (lastLine_sublist stem).length_le
  rw [seasonDigit_tail, Option.or_eq_some_iff] at h
  rcases h with h | ⟨-, h⟩
  · obtain ⟨line, hline, hu⟩ := List.exists_of_findSome?_eq_some h
    have hlength := (earlierLine_sublist hline).length_le
    have := length_of_lastSeasonDigit hu
    omega
  · cases s with
    | shorthand n =>
      rw [lastSeasonDigit_shorthand, Option.or_eq_some_iff, Option.map_eq_some_iff] at h
      rcases h with ⟨d, -, rfl⟩ | ⟨-, h⟩
      · simpa using hlast
      · have := length_of_lastSeasonDigit h
        omega
    | ordinal n =>
      rw [lastSeasonDigit_ordinal] at h
      split at h
      · obtain ⟨d, -, rfl⟩ := Option.map_eq_some_iff.mp h
        rw [List.length_append, List.length_dropLast, List.length_singleton]
        omega
      · have := length_of_lastSeasonDigit h
        omega

end SeasonName

/-! ## Hidden numbers -/

/-- **What a line hides of the numbers** of a season in shorthand and of another one, both named
behind it: what is found is the same digit of two numbers in shorthand, or a mark of the line
itself that neither name has drawn the comparison away from. -/
def HiddenInLine (line : List Char) (n : SeasonNumeral) : SeasonName → Prop
  | .shorthand m => n.mark = m.mark ∧ (n.mark.isSome = true ∨ Marked line)
  | .ordinal m =>
    n.mark = none ∧ Marked line ∧ ¬ (line.getLast? = some 's' ∧ m.mark.isSome = true)

/-- **The comparison of season digits does not see the numbers** of a season in shorthand and of
another one, both named behind the title `p`: either it never comes to the last line, where they
are, or the last line hides them. -/
def HidesNumber (p : List Char) (n : SeasonNumeral) (other : SeasonName) : Prop :=
  (∃ line ∈ earlierLines (foldStem p), Marked line) ∨
    HiddenInLine (lastLine (foldStem p)) n other

theorem hiddenInLine_iff {line : List Char} (hspace : ' ' ∉ line) (n : SeasonNumeral)
    (other : SeasonName) :
    (∃ u, lastSeasonDigit (line ++ (SeasonName.shorthand n).tail) = some u ∧
        lastSeasonDigit (line ++ other.tail) = some u) ↔ HiddenInLine line n other := by
  rw [SeasonName.lastSeasonDigit_shorthand]
  -- What is found in the line alone is shorter than what a name puts behind it.
  have hshort : ∀ u d, lastSeasonDigit line = some u → u ≠ line ++ [d] := fun u d hu heq ↦ by
    have hlength := length_of_lastSeasonDigit hu
    rw [heq, List.length_append] at hlength
    omega
  cases other with
  | shorthand m =>
    rw [HiddenInLine, SeasonName.lastSeasonDigit_shorthand, ← lastSeasonDigit_isSome_iff hspace]
    cases n.mark with
    | some d =>
      cases m.mark with
      | some e =>
        constructor
        · rintro ⟨u, hd, he⟩
          have heq : line ++ [d] = line ++ [e] :=
            (Option.some.inj hd).trans (Option.some.inj he).symm
          simpa using heq
        · rintro ⟨heq, -⟩
          obtain rfl := Option.some.inj heq
          exact ⟨_, rfl, rfl⟩
      | none =>
        refine iff_of_false ?_ (by simp)
        rintro ⟨u, hu, hline⟩
        exact hshort u d hline (Option.some.inj hu).symm
    | none =>
      cases m.mark with
      | some e =>
        refine iff_of_false ?_ (by simp)
        rintro ⟨u, hline, hu⟩
        exact hshort u e hline (Option.some.inj hu).symm
      | none => simp [Option.isSome_iff_exists]
  | ordinal m =>
    rw [HiddenInLine, SeasonName.lastSeasonDigit_ordinal, ← lastSeasonDigit_isSome_iff hspace]
    split
    · rename_i hjoint
      refine iff_of_false ?_ fun h ↦ h.2.2 hjoint
      rintro ⟨u, hline, hu⟩
      obtain ⟨e, -, rfl⟩ := Option.map_eq_some_iff.mp hu
      obtain ⟨front, rfl⟩ := List.getLast?_eq_some_iff.mp hjoint.1
      rw [List.dropLast_concat, Option.or_eq_some_iff, Option.map_eq_some_iff] at hline
      rcases hline with ⟨d, -, hd⟩ | ⟨-, hline⟩
      · have hlength := congrArg List.length hd
        simp only [List.length_append, List.length_singleton] at hlength
        omega
      · have hlength := length_of_lastSeasonDigit hline
        simp only [List.length_append, List.length_singleton] at hlength
        omega
    · rename_i hjoint
      cases n.mark with
      | some d =>
        refine iff_of_false ?_ (by simp)
        rintro ⟨u, hu, hline⟩
        exact hshort u d hline (Option.some.inj hu).symm
      | none =>
        rw [and_iff_right rfl, and_iff_left hjoint]
        simp [Option.isSome_iff_exists]

/-- **Season digits agree exactly if they hide the numbers.** -/
theorem seasonDigit_agree_iff (p : List Char) (n : SeasonNumeral) (other : SeasonName) :
    (∃ u, seasonDigit (foldStem p ++ (SeasonName.shorthand n).tail) = some u ∧
        seasonDigit (foldStem p ++ other.tail) = some u) ↔ HidesNumber p n other := by
  rw [HidesNumber, SeasonName.seasonDigit_tail, SeasonName.seasonDigit_tail]
  have hspace : ∀ line ∈ earlierLines (foldStem p), ' ' ∉ line := fun line hline h ↦
    space_not_mem_foldStem p ((earlierLine_sublist hline).subset h)
  cases hearlier : (earlierLines (foldStem p)).findSome? lastSeasonDigit with
  | some u =>
    obtain ⟨line, hline, hu⟩ := List.exists_of_findSome?_eq_some hearlier
    have hmarked : Marked line := (lastSeasonDigit_isSome_iff (hspace line hline)).mp (by simp [hu])
    exact iff_of_true ⟨u, rfl, rfl⟩ (.inl ⟨line, hline, hmarked⟩)
  | none =>
    have hnone : ¬ ∃ line ∈ earlierLines (foldStem p), Marked line := by
      rintro ⟨line, hline, hmarked⟩
      have hu := List.findSome?_eq_none_iff.mp hearlier line hline
      exact (lastSeasonDigit_eq_none_iff (hspace line hline)).mp hu hmarked
    have hlast : ' ' ∉ lastLine (foldStem p) := fun h ↦
      space_not_mem_foldStem p ((lastLine_sublist _).subset h)
    rw [Option.none_or, Option.none_or, hiddenInLine_iff hlast, or_iff_right hnone]

end AnimeLookup.Title
