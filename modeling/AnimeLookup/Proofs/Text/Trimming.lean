import AnimeLookup.Text.Blank

/-!
# Trimmed texts

A text is *trimmed* (`Trimmed`) if it neither begins nor ends with white space.  These are the texts
that `trim` leaves as they are (`trim_eq_self_iff`), and every text that it returns is one of them
(`trimmed_trim`).  Any other text gets shorter (`length_trim_lt`).

Only the two ends matter, so a text that is put together from two is trimmed at the beginning of the
first part and at the end of the second, provided that the part in question does not consist of
white space (`trim_append`).

At the end stand some facts about any kind of character: a run of it goes as far as the first
character of another kind (`takeWhile_append_of_stop`), and so is known from the text
(`append_inj_of_stop`).
-/

set_option autoImplicit false

namespace AnimeLookup.Text

/-- **A text without white space at its ends.** -/
structure Trimmed (s : List Char) : Prop where
  /-- It does not begin with white space. -/
  head : ∀ c, s.head? = some c → isBlank c = false
  /-- It does not end with white space. -/
  last : ∀ c, s.getLast? = some c → isBlank c = false

theorem Trimmed.of_none {s : List Char} (h : ∀ c ∈ s, isBlank c = false) : Trimmed s where
  head := fun c hc ↦ h c (List.mem_of_head? hc)
  last := fun c hc ↦ h c (List.mem_of_getLast? hc)

/-- What `trimEnd` leaves is a beginning of the text. -/
theorem isPrefix_trimEnd (s : List Char) : trimEnd s <+: s := by
  have hsuffix : trimStart s.reverse <:+ s.reverse := List.dropWhile_suffix _
  have hprefix := List.reverse_prefix.mpr hsuffix
  rwa [List.reverse_reverse] at hprefix

/-- What `trim` leaves stands in the text in one piece. -/
theorem isInfix_trim (s : List Char) : trim s <:+: s :=
  (isPrefix_trimEnd _).isInfix.trans (List.dropWhile_suffix _).isInfix

theorem trim_sublist (s : List Char) : (trim s).Sublist s := (isInfix_trim s).sublist

/-- What `trimEnd` drops is the white space at the end. -/
theorem exists_trimEnd_append (s : List Char) :
    ∃ blanks, s = trimEnd s ++ blanks ∧ ∀ c ∈ blanks, isBlank c = true := by
  refine ⟨(s.reverse.takeWhile isBlank).reverse, ?_, fun c hc ↦ ?_⟩
  · rw [trimEnd, trimStart, ← List.reverse_append, List.takeWhile_append_dropWhile,
      List.reverse_reverse]
  · exact List.all_eq_true.mp List.all_takeWhile c (List.mem_reverse.mp hc)

theorem mem_of_mem_trim {c : Char} {s : List Char} (h : c ∈ trim s) : c ∈ s :=
  (trim_sublist s).subset h

theorem head?_trimStart {s : List Char} {c : Char} (h : (trimStart s).head? = some c) :
    isBlank c = false := by
  have hnot := List.head?_dropWhile_not isBlank s
  rw [show s.dropWhile isBlank = trimStart s from rfl, h] at hnot
  exact hnot

theorem trimStart_of_head {s : List Char} (h : ∀ c, s.head? = some c → isBlank c = false) :
    trimStart s = s := by
  cases s with
  | nil => rfl
  | cons c rest => exact List.dropWhile_cons_of_neg (by simp [h c rfl])

theorem getLast?_trimEnd {s : List Char} {c : Char} (h : (trimEnd s).getLast? = some c) :
    isBlank c = false := by
  rw [trimEnd, List.getLast?_reverse] at h
  exact head?_trimStart h

/-- **What is trimmed has no white space at its ends.** -/
theorem trimmed_trim (s : List Char) : Trimmed (trim s) where
  head := by
    intro c hc
    obtain ⟨more, hmore⟩ := isPrefix_trimEnd (trimStart s)
    refine head?_trimStart (s := s) ?_
    rw [← hmore, List.head?_append, show trimEnd (trimStart s) = trim s from rfl, hc,
      Option.some_or]
  last := fun _ hc ↦ getLast?_trimEnd hc

theorem trimEnd_of_last {s : List Char} (h : ∀ c, s.getLast? = some c → isBlank c = false) :
    trimEnd s = s := by
  have hlast : trimStart s.reverse = s.reverse := trimStart_of_head fun c hc ↦
    h c (by rwa [List.head?_reverse] at hc)
  rw [trimEnd, hlast, List.reverse_reverse]

/-- **Trimming leaves a text as it is exactly if it is trimmed.** -/
theorem trim_eq_self_iff {s : List Char} : trim s = s ↔ Trimmed s := by
  refine ⟨fun h ↦ h ▸ trimmed_trim s, fun h ↦ ?_⟩
  rw [trim, trimStart_of_head h.head, trimEnd_of_last h.last]

/-- A text that does not end with white space is trimmed at its beginning only. -/
theorem trim_eq_trimStart {s : List Char} (h : ∀ c, s.getLast? = some c → isBlank c = false) :
    trim s = trimStart s := by
  refine trimEnd_of_last fun c hc ↦ h c ?_
  obtain ⟨blanks, hblanks⟩ : trimStart s <:+ s := List.dropWhile_suffix isBlank
  rw [← hblanks, List.getLast?_append, hc, Option.some_or]

theorem length_trim_le (s : List Char) : (trim s).length ≤ s.length := (trim_sublist s).length_le

theorem length_trim_lt {s : List Char} (h : ¬ Trimmed s) : (trim s).length < s.length :=
  Nat.lt_of_le_of_ne (length_trim_le s) fun heq ↦
    h (trim_eq_self_iff.mp ((trim_sublist s).eq_of_length heq))

/-! ## Counting -/

theorem count_trimStart {c : Char} (h : isBlank c = false) (s : List Char) :
    (trimStart s).count c = s.count c := by
  have hnone : (s.takeWhile isBlank).count c = 0 := List.count_eq_zero.mpr fun hmem ↦ by
    have hblank := List.all_eq_true.mp List.all_takeWhile c hmem
    exact Bool.false_ne_true (h.symm.trans hblank)
  have hsplit := congrArg (List.count c) (List.takeWhile_append_dropWhile (p := isBlank) (l := s))
  rw [List.count_append, hnone, Nat.zero_add] at hsplit
  exact hsplit

/-- Trimming takes nothing but white space. -/
theorem count_trim {c : Char} (h : isBlank c = false) (s : List Char) :
    (trim s).count c = s.count c := by
  rw [trim, trimEnd, List.count_reverse, count_trimStart h, List.count_reverse, count_trimStart h]

theorem mem_trim_of_mem {c : Char} {s : List Char} (h : isBlank c = false) (hc : c ∈ s) :
    c ∈ trim s := by
  rw [← List.count_pos_iff, count_trim h]
  exact List.count_pos_iff.mpr hc

/-! ## Texts in two parts -/

/-- Trimmed texts stay trimmed when one is put behind another. -/
theorem Trimmed.append {s t : List Char} (hs : Trimmed s) (ht : Trimmed t) : Trimmed (s ++ t) where
  head := by
    intro c hc
    rw [List.head?_append, Option.or_eq_some_iff] at hc
    exact hc.elim (hs.head c) fun h ↦ ht.head c h.2
  last := by
    intro c hc
    rw [List.getLast?_append, Option.or_eq_some_iff] at hc
    exact hc.elim (ht.last c) fun h ↦ hs.last c h.2

/-- Dropping white space brings none to the end. -/
theorem last_filter {s : List Char} {p : Char → Bool} (hp : ∀ c, isBlank c = false → p c = true)
    (h : ∀ c, s.getLast? = some c → isBlank c = false) :
    ∀ c, (s.filter p).getLast? = some c → isBlank c = false := by
  intro c hc
  rcases List.eq_nil_or_concat s with rfl | ⟨front, d, rfl⟩
  · exact absurd hc (by simp)
  · rw [List.concat_eq_append] at h hc
    have hd := h d List.getLast?_concat
    rw [List.filter_append, List.filter_cons_of_pos (hp d hd), List.filter_nil,
      List.getLast?_concat, Option.some.injEq] at hc
    exact hc ▸ hd

/-- Dropping white space leaves a trimmed text trimmed. -/
theorem Trimmed.filter {s : List Char} (h : Trimmed s) {p : Char → Bool}
    (hp : ∀ c, isBlank c = false → p c = true) : Trimmed (s.filter p) where
  head := by
    intro c hc
    cases s with
    | nil => exact absurd hc (by simp)
    | cons d rest =>
      have hd := h.head d rfl
      rw [List.filter_cons_of_pos (hp d hd), List.head?_cons, Option.some.injEq] at hc
      exact hc ▸ hd
  last := last_filter hp h.last

section Parts

variable {s t : List Char} {c d : Char}

theorem trimStart_append_cons (hc : isBlank c = false) :
    trimStart (s ++ c :: t) = trimStart s ++ c :: t := by
  have hstart : (c :: t).dropWhile isBlank = c :: t := List.dropWhile_cons_of_neg (by simp [hc])
  rw [trimStart, List.dropWhile_append, hstart]
  split
  · rename_i hnil
    rw [trimStart, List.isEmpty_iff.mp hnil, List.nil_append]
  · rfl

theorem trimEnd_append_cons (hc : isBlank c = false) :
    trimEnd (s ++ c :: t) = s ++ c :: trimEnd t := by
  rw [trimEnd, List.reverse_append, List.reverse_cons, List.append_assoc, List.singleton_append,
    trimStart_append_cons hc, List.reverse_append, List.reverse_cons, List.reverse_reverse,
    List.append_assoc, List.singleton_append, trimEnd]

theorem trimEnd_concat (hc : isBlank c = false) : trimEnd (s ++ [c]) = s ++ [c] :=
  trimEnd_append_cons hc

/-- Of a text whose second part begins and ends without white space only the beginning is
trimmed. -/
theorem trim_append {more front : List Char} (hstart : t = c :: more) (hc : isBlank c = false)
    (hend : t = front ++ [d]) (hd : isBlank d = false) : trim (s ++ t) = trimStart s ++ t := by
  rw [trim, hstart, trimStart_append_cons hc, ← hstart, hend, ← List.append_assoc,
    trimEnd_concat hd, List.append_assoc]

/-- **On the two sides of a trimmed text that is not empty** trimming goes by itself. -/
theorem trim_around (ht : Trimmed t) (hne : t ≠ []) (u v : List Char) :
    trim (u ++ (t ++ v)) = trimStart u ++ (t ++ trimEnd v) := by
  obtain ⟨c, more, hstart⟩ := List.exists_cons_of_ne_nil hne
  obtain ⟨front, d, hend⟩ := (List.eq_nil_or_concat t).resolve_left hne
  rw [List.concat_eq_append] at hend
  have hc : isBlank c = false := ht.head c (by rw [hstart, List.head?_cons])
  have hd : isBlank d = false := ht.last d (by rw [hend, List.getLast?_concat])
  calc trim (u ++ (t ++ v)) = trimEnd (trimStart u ++ (t ++ v)) := by
        rw [trim, hstart, List.cons_append, trimStart_append_cons hc]
    _ = trimEnd (trimStart u ++ front ++ d :: v) := by rw [hend]; simp
    _ = trimStart u ++ (t ++ trimEnd v) := by rw [trimEnd_append_cons hd, hend]; simp

theorem trim_append_of_trimmed (ht : Trimmed t) (hne : t ≠ []) :
    trim (s ++ t) = trimStart s ++ t := by
  have hnil : trimEnd [] = [] := rfl
  have h := trim_around ht hne s []
  rwa [hnil, List.append_nil] at h

end Parts

/-! ## Where a run of characters ends -/

section Runs

variable {p : Char → Bool} {w rest : List Char}

theorem takeWhile_append_of_stop (hw : w.all p = true)
    (hrest : ∀ c ∈ rest.head?, p c = false) : (w ++ rest).takeWhile p = w := by
  rw [List.takeWhile_append_of_pos (List.all_eq_true.mp hw)]
  cases rest with
  | nil => exact List.append_nil w
  | cons c more =>
    rw [List.takeWhile_cons_of_neg (ne_true_of_eq_false (hrest c rfl)), List.append_nil]

theorem dropWhile_append_of_stop (hw : w.all p = true)
    (hrest : ∀ c ∈ rest.head?, p c = false) : (w ++ rest).dropWhile p = rest := by
  rw [List.dropWhile_append_of_pos (List.all_eq_true.mp hw)]
  cases rest with
  | nil => rfl
  | cons c more => exact List.dropWhile_cons_of_neg (ne_true_of_eq_false (hrest c rfl))

/-- A text falls in one way only into a run and what begins with a character of another kind. -/
theorem append_inj_of_stop {v more : List Char} (hw : w.all p = true) (hv : v.all p = true)
    (hrest : ∀ c ∈ rest.head?, p c = false) (hmore : ∀ c ∈ more.head?, p c = false)
    (h : w ++ rest = v ++ more) : w = v ∧ rest = more := by
  have hrun : w = v := by
    rw [← takeWhile_append_of_stop hw hrest, h, takeWhile_append_of_stop hv hmore]
  exact ⟨hrun, List.append_cancel_left (hrun ▸ h)⟩

end Runs

end AnimeLookup.Text
