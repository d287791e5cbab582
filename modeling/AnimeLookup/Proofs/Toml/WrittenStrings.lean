import AnimeLookup.Toml.Text
import AnimeLookup.Toml.Writer

/-!
# Written strings are read back

A string is written in one of four ways, and whichever is chosen, the reader finds the string and
stops right behind it (`anyString_writeString`).

Two of the ways have escapes and can show every string.  The other two have none, so they depend on
what is in the string; `Style.Suits` says what they need, and `suits_of` that the choice respects
it.

Between triple marks, the reader has to tell the marks that belong to the string from those that
close it, while it has to tell nothing but "are there three of them" where it stands.  The relation
`Lines` says what may be written between triple marks, by how many marks stand in front of the
place.  It has one constructor for a mark and one for anything else, whatever the escapes are, so
the argument about marks is the same for both kinds.
-/

set_option autoImplicit false

namespace AnimeLookup.Toml

/-! ## Escapes -/

/-- **What stands behind a backslash and means a character**, whatever follows it. -/
def IsEscape (e : List Char) (c : Char) : Prop :=
  ∀ rest, escapeAt (e ++ rest) = some (c, e.length) ∧ joinedLength (e ++ rest) = none

theorem isEscape_quote : IsEscape ['"'] '"' := fun _ ↦ ⟨rfl, rfl⟩

theorem hexValue_upperHexDigit : ∀ k < 16, Text.hexValue (upperHexDigit k) = some k := by decide

/-- A control character by its number. -/
theorem isEscape_code {c : Char} (h : c.toNat < 128) :
    IsEscape ['u', '0', '0', upperHexDigit (c.toNat / 16), upperHexDigit (c.toNat % 16)] c := by
  have hhigh := hexValue_upperHexDigit (c.toNat / 16) (by omega)
  have hlow := hexValue_upperHexDigit (c.toNat % 16) (by omega)
  generalize upperHexDigit (c.toNat / 16) = high at hhigh ⊢
  generalize upperHexDigit (c.toNat % 16) = low at hlow ⊢
  have hzero : Text.hexValue '0' = some 0 := rfl
  have hread : Text.readHex ['0', '0', high, low] = some c.toNat := by
    simp only [Text.readHex, List.foldlM_cons, List.foldlM_nil, hzero, hhigh, hlow,
      Option.map_some, Option.bind_eq_bind, Option.bind_some, Option.pure_def]
    exact congrArg some (by omega)
  have hchar : charOfHex ['0', '0', high, low] = some c := by
    rw [charOfHex, hread, Option.bind_some, if_pos (show c.toNat.isValidChar from c.valid),
      Char.ofNat_toNat]
  intro rest
  refine ⟨?_, rfl⟩
  rw [List.cons_append, escapeAt, if_pos (by simp)]
  exact congrArg (Option.map (·, 5)) hchar

/-- **A character other than a quotation mark is written as an escape that means it, or as
itself.** -/
theorem escapeChar_cases (lines : Bool) {c : Char} (hquote : c ≠ '"') :
    (∃ e, escapeChar lines c = '\\' :: e ∧ IsEscape e c) ∨
      escapeChar lines c = [c] ∧ c ≠ '\\' ∧
        (c = '\n' ∧ lines = true ∨ c ≠ '\n' ∧ c ≠ '\r' ∧ isPlain c = true) := by
  unfold escapeChar
  split
  · exact .inl ⟨['b'], rfl, fun _ ↦ ⟨rfl, rfl⟩⟩
  · exact .inl ⟨['t'], rfl, fun _ ↦ ⟨rfl, rfl⟩⟩
  · cases lines with
    | true => exact .inr ⟨rfl, by decide, .inl ⟨rfl, rfl⟩⟩
    | false => exact .inl ⟨['n'], rfl, fun _ ↦ ⟨rfl, rfl⟩⟩
  · exact .inl ⟨['f'], rfl, fun _ ↦ ⟨rfl, rfl⟩⟩
  · exact .inl ⟨['r'], rfl, fun _ ↦ ⟨rfl, rfl⟩⟩
  · exact .inl ⟨['\\'], rfl, fun _ ↦ ⟨rfl, rfl⟩⟩
  · rename_i hnewline _ hreturn hbackslash
    split
    · rename_i hcontrol
      rw [Bool.or_eq_true, decide_eq_true_iff, beq_iff_eq] at hcontrol
      exact .inl ⟨_, rfl, isEscape_code (by omega)⟩
    · rename_i hcontrol
      rw [Bool.not_eq_true, Bool.or_eq_false_iff, decide_eq_false_iff_not,
        beq_eq_false_iff_ne] at hcontrol
      refine .inr ⟨rfl, hbackslash, .inr ⟨hnewline, hreturn, ?_⟩⟩
      simp [isPlain, hcontrol.2]
      omega

/-! ## On one line -/

theorem basicAfter_skip (skipped rest : List Char) :
    basicAfter skipped.length (skipped ++ rest) = basicAfter 0 rest := by
  induction skipped with
  | nil => rfl
  | cons c more ih => exact ih

theorem basicAfter_escape {e : List Char} {c : Char} (h : IsEscape e c) (rest : List Char) :
    basicAfter 0 ('\\' :: e ++ rest) = push c (basicAfter 0 rest) := by
  rw [List.cons_append, basicAfter, if_neg (by decide), if_pos rfl, (h rest).1]
  exact congrArg (push c) (basicAfter_skip e rest)

theorem basicAfter_escapeChar {c : Char} (hquote : c ≠ '"') (rest : List Char) :
    basicAfter 0 (escapeChar false c ++ rest) = push c (basicAfter 0 rest) := by
  rcases escapeChar_cases false hquote with ⟨e, he, h⟩ | ⟨hself, hbackslash, hkind⟩
  · rw [he, basicAfter_escape h]
  · obtain ⟨-, -, hplain⟩ := hkind.resolve_left (by simp)
    rw [hself, List.singleton_append, basicAfter, if_neg hquote, if_neg hbackslash, if_pos hplain]

/-- A string with escapes is read up to its closing mark. -/
theorem basicAfter_escapeAfter (s : List Char) (quotes : Nat) (rest : List Char) :
    basicAfter 0 (escapeAfter false quotes s ++ '"' :: rest) = some (s, rest) := by
  induction s generalizing quotes with
  | nil => rfl
  | cons c more ih =>
    rw [escapeAfter]
    by_cases hquote : c = '"'
    · rw [if_pos hquote, if_neg (by simp), hquote]
      have h := basicAfter_escape isEscape_quote (escapeAfter false 0 more ++ '"' :: rest)
      rw [ih] at h
      exact h
    · rw [if_neg hquote, List.append_assoc, basicAfter_escapeChar hquote, ih]
      rfl

/-- A string without escapes is read up to its closing mark. -/
theorem literal_append {s : List Char} (h : ∀ c ∈ s, c ≠ '\'' ∧ isPlain c = true)
    (rest : List Char) : literal (s ++ '\'' :: rest) = some (s, rest) := by
  induction s with
  | nil => rfl
  | cons c more ih =>
    obtain ⟨⟨hmark, hplain⟩, hmore⟩ := List.forall_mem_cons.mp h
    rw [List.cons_append, literal, if_neg hmark, if_pos hplain, ih hmore]
    rfl

/-! ## On several lines -/

theorem lineBreakLength_eq_none {c : Char} (hnewline : c ≠ '\n') (hreturn : c ≠ '\r')
    (rest : List Char) : lineBreakLength (c :: rest) = none := by
  unfold lineBreakLength
  split
  · rename_i heq
    exact absurd (List.cons.inj heq).1 hnewline
  · rename_i heq
    exact absurd (List.cons.inj heq).1 hreturn
  · rfl

section Triple

variable {mark : Char} {escapes : Bool}

/-- A text that does not begin with a mark and is read as a character. -/
structure ReadAs (mark : Char) (escapes : Bool) (u : List Char) (c : Char) : Prop where
  /-- It is not empty, and does not begin with a mark. -/
  starts : ∃ d more, u = d :: more ∧ d ≠ mark
  /-- It is read as the character. -/
  reads : ∀ rest, tripleAfter mark escapes 0 (u ++ rest) =
    push c (tripleAfter mark escapes 0 rest)

/-- **What may be written between triple marks** for a string, where the given number of marks
stand in front. -/
inductive Lines (mark : Char) (escapes : Bool) : Nat → List Char → List Char → Prop
  /-- The end. -/
  | nil (marks : Nat) : Lines mark escapes marks [] []
  /-- A mark, of which there are at most two in a row. -/
  | mark {marks : Nat} {s w : List Char} (hmarks : marks < 2)
      (h : Lines mark escapes (marks + 1) s w) : Lines mark escapes marks (mark :: s) (mark :: w)
  /-- Anything else. -/
  | other {marks : Nat} {u s w : List Char} {c : Char} (hu : ReadAs mark escapes u c)
      (h : Lines mark escapes 0 s w) : Lines mark escapes marks (c :: s) (u ++ w)

/-- The closing marks are told from those of the string. -/
theorem closeTriple_replicate {k : Nat} (hk : k ≤ 2) {rest : List Char}
    (hrest : rest.head? ≠ some mark) :
    closeTriple mark (List.replicate (k + 3) mark ++ rest) = (List.replicate k mark, rest) := by
  have htake : (rest.takeWhile fun c ↦ decide (c = mark)) = [] := by
    cases rest with
    | nil => rfl
    | cons c more =>
      have hc : c ≠ mark := fun h ↦ hrest (congrArg some h)
      exact List.takeWhile_cons_of_neg (by simpa using hc)
  have hrun : ((List.replicate (k + 3) mark ++ rest).takeWhile fun c ↦ decide (c = mark)) =
      List.replicate (k + 3) mark := by
    rw [List.takeWhile_append_of_pos (by simp), htake, List.append_nil]
  have hdrop : (List.replicate (k + 3) mark ++ rest).drop (k + 3) = rest :=
    List.drop_left' List.length_replicate
  rw [closeTriple, hrun, List.length_replicate, Nat.add_sub_cancel, Nat.min_eq_left hk, hdrop]

theorem tripleAfter_close {k : Nat} (hk : k ≤ 2) {rest : List Char}
    (hrest : rest.head? ≠ some mark) :
    tripleAfter mark escapes 0 (List.replicate k mark ++ mark :: mark :: mark :: rest) =
      some (List.replicate k mark, rest) := by
  have hmarks : List.replicate k mark ++ mark :: mark :: mark :: rest =
      List.replicate (k + 3) mark ++ rest := by
    rw [← List.replicate_append_replicate, List.append_assoc]
    rfl
  have hcons : List.replicate (k + 3) mark ++ rest =
      mark :: mark :: mark :: (List.replicate k mark ++ rest) := rfl
  rw [hmarks, hcons, tripleAfter, if_pos (by simp [List.isPrefixOf]), ← hcons,
    closeTriple_replicate hk hrest]

/-- Behind a mark, two more begin the closing ones, or are all that is left of the string. -/
theorem Lines.eq_replicate {marks : Nat} {s w rest : List Char} (h : Lines mark escapes marks s w)
    (hmarks : 1 ≤ marks) (hle : marks ≤ 2)
    (hpre : [mark, mark].isPrefixOf (w ++ mark :: mark :: mark :: rest) = true) :
    ∃ k, s = List.replicate k mark ∧ w = List.replicate k mark ∧ k + marks ≤ 2 := by
  have hother : ∀ {u v : List Char}, (∃ d more, u = d :: more ∧ d ≠ mark) →
      ¬ [mark].isPrefixOf (u ++ v) = true := by
    rintro u v ⟨d, more, rfl, hd⟩
    simp [List.isPrefixOf, Ne.symm hd]
  cases h with
  | nil => exact ⟨0, rfl, rfl, by omega⟩
  | mark hlt h =>
    rw [List.cons_append, List.isPrefixOf, Bool.and_eq_true] at hpre
    cases h with
    | nil => exact ⟨1, rfl, rfl, by omega⟩
    | mark hlt' _ => omega
    | other hu _ =>
      rw [List.append_assoc] at hpre
      exact absurd hpre.2 (hother hu.starts)
  | other hu _ =>
    obtain ⟨d, more, rfl, hd⟩ := hu.starts
    simp [List.isPrefixOf, Ne.symm hd] at hpre

/-- The characters that a string can be put between. -/
def IsMark (c : Char) : Prop := c = '"' ∨ c = '\''

/-- A mark that does not begin the closing ones. -/
theorem tripleAfter_mark (hmark : IsMark mark) {rest : List Char}
    (h : ¬ [mark, mark].isPrefixOf rest = true) :
    tripleAfter mark escapes 0 (mark :: rest) = push mark (tripleAfter mark escapes 0 rest) := by
  rw [tripleAfter, if_neg (by simpa using h)]
  rcases hmark with rfl | rfl <;> rfl

/-- **What is written between triple marks is read up to the closing ones.** -/
theorem Lines.tripleAfter_eq (hmark : IsMark mark) {marks : Nat} {s w rest : List Char}
    (h : Lines mark escapes marks s w) (hle : marks ≤ 2) (hrest : rest.head? ≠ some mark) :
    tripleAfter mark escapes 0 (w ++ mark :: mark :: mark :: rest) = some (s, rest) := by
  induction h with
  | nil => exact tripleAfter_close (Nat.zero_le 2) hrest
  | @mark marks s w hlt h ih =>
    by_cases hpre : [mark, mark].isPrefixOf (w ++ mark :: mark :: mark :: rest) = true
    · obtain ⟨k, rfl, rfl, hk⟩ := h.eq_replicate (Nat.succ_pos marks) (by omega) hpre
      exact tripleAfter_close (k := k + 1) (by omega) hrest
    · rw [List.cons_append, tripleAfter_mark hmark hpre, ih (by omega)]
      rfl
  | other hu _ ih =>
    rw [List.append_assoc, hu.reads, ih (by omega)]
    rfl

end Triple

/-! ### With escapes -/

theorem tripleAfter_skip (mark : Char) (escapes : Bool) (skipped rest : List Char) :
    tripleAfter mark escapes skipped.length (skipped ++ rest) =
      tripleAfter mark escapes 0 rest := by
  induction skipped with
  | nil => rfl
  | cons c more ih => exact ih

theorem readAs_escape {e : List Char} {c : Char} (h : IsEscape e c) :
    ReadAs '"' true ('\\' :: e) c where
  starts := ⟨'\\', e, rfl, by decide⟩
  reads rest := by
    rw [List.cons_append, tripleAfter, if_neg (by simp), if_pos (by decide), (h rest).2,
      (h rest).1]
    exact congrArg (push c) (tripleAfter_skip '"' true e rest)

/-- A character that stands for itself, where a line feed does so too. -/
theorem readAs_self {mark c : Char} {escapes : Bool} (hmark : c ≠ mark)
    (hbackslash : escapes = true → c ≠ '\\')
    (hkind : c = '\n' ∨ c ≠ '\n' ∧ c ≠ '\r' ∧ isPlain c = true) : ReadAs mark escapes [c] c where
  starts := ⟨c, [], rfl, hmark⟩
  reads rest := by
    have hclosing : ¬ (c = mark && [mark, mark].isPrefixOf rest) = true := by simp [hmark]
    have hescape : ¬ (c = '\\' && escapes) = true := by
      rw [Bool.and_eq_true, decide_eq_true_iff]
      exact fun h ↦ hbackslash h.2 h.1
    rw [List.singleton_append, tripleAfter, if_neg hclosing, if_neg hescape]
    rcases hkind with rfl | ⟨hnewline, hreturn, hplain⟩
    · rfl
    · rw [lineBreakLength_eq_none hnewline hreturn, if_pos hplain]

/-- Every string can be written with escapes between triple marks. -/
theorem lines_escapeAfter (s : List Char) (quotes : Nat) :
    Lines '"' true quotes s (escapeAfter true quotes s) := by
  induction s generalizing quotes with
  | nil => exact .nil quotes
  | cons c more ih =>
    rw [escapeAfter]
    by_cases hquote : c = '"'
    · rw [if_pos hquote, if_pos rfl, hquote]
      by_cases hfew : quotes < 2
      · rw [if_pos hfew]
        exact .mark hfew (ih _)
      · rw [if_neg hfew]
        exact .other (readAs_escape isEscape_quote) (ih 0)
    · rw [if_neg hquote]
      rcases escapeChar_cases true hquote with ⟨e, he, h⟩ | ⟨hself, hbackslash, hkind⟩
      · rw [he]
        exact .other (readAs_escape h) (ih 0)
      · rw [hself]
        exact .other (readAs_self hquote (fun _ ↦ hbackslash) (hkind.imp_left And.left)) (ih 0)

/-! ### Without escapes -/

theorem le_longestRunOf (mark : Char) (current : Nat) (s : List Char) :
    current ≤ longestRunOf mark current s := by
  induction s generalizing current with
  | nil => exact Nat.le_refl current
  | cons c more ih =>
    rw [longestRunOf]
    split
    · exact Nat.le_of_succ_le (ih _)
    · exact Nat.le_max_left _ _

theorem not_mem_of_longestRunOf {mark : Char} {s : List Char} (h : longestRunOf mark 0 s = 0) :
    ∀ c ∈ s, c ≠ mark := by
  induction s with
  | nil => simp
  | cons c more ih =>
    rw [longestRunOf] at h
    split at h
    · have hle := le_longestRunOf mark (0 + 1) more
      omega
    · rename_i hc
      rw [Nat.max_eq_zero_iff] at h
      exact List.forall_mem_cons.mpr ⟨hc, ih h.2⟩

/-- A character without an escape that is no line break is plain. -/
theorem isPlain_of_needsEscape {c : Char} (h : needsEscape c = false) (hnewline : c ≠ '\n') :
    c ≠ '\r' ∧ isPlain c = true := by
  constructor
  · rintro rfl
    exact absurd h (by decide)
  · simp only [needsEscape, isPlain] at h ⊢
    by_cases htab : c = '\t'
    · simp [htab]
    · simp [htab, hnewline] at h ⊢
      exact h

/-- A string without long runs of apostrophes can be written as it is between triple
apostrophes. -/
theorem lines_self {s : List Char} {marks : Nat} (hescape : ∀ c ∈ s, needsEscape c = false)
    (hruns : longestRunOf '\'' marks s ≤ 2) : Lines '\'' false marks s s := by
  induction s generalizing marks with
  | nil => exact .nil marks
  | cons c more ih =>
    obtain ⟨hc, hmore⟩ := List.forall_mem_cons.mp hescape
    rw [longestRunOf] at hruns
    by_cases hmark : c = '\''
    · rw [if_pos hmark] at hruns
      rw [hmark]
      exact .mark (Nat.lt_of_lt_of_le (le_longestRunOf _ _ more) hruns) (ih hmore hruns)
    · rw [if_neg hmark] at hruns
      have hkind : c = '\n' ∨ c ≠ '\n' ∧ c ≠ '\r' ∧ isPlain c = true := by
        by_cases hnewline : c = '\n'
        · exact .inl hnewline
        · exact .inr ⟨hnewline, isPlain_of_needsEscape hc hnewline⟩
      exact .other (u := [c]) (readAs_self hmark nofun hkind)
        (ih hmore (Nat.le_trans (Nat.le_max_right _ _) hruns))

/-! ## Any string -/

/-- What a string must be like to be written in a way without escapes. -/
def Style.Suits : Style → List Char → Prop
  | literal, s => ∀ c ∈ s, c ≠ '\'' ∧ isPlain c = true
  | tripleLiteral, s => (∀ c ∈ s, needsEscape c = false) ∧ longestRunOf '\'' 0 s ≤ 2
  | basic, _ => True
  | tripleBasic, _ => True

/-- **The way that is chosen for a string suits it.** -/
theorem Style.suits_of (s : List Char) : (Style.of s).Suits s := by
  have hplain : s.any needsEscape = false → ∀ c ∈ s, needsEscape c = false := fun h c hc ↦ by
    simpa using List.any_eq_false.mp h c hc
  rw [Style.of]
  split
  · trivial
  · split
    · rename_i h
      simp only [Bool.and_eq_true, Bool.not_eq_true', beq_iff_eq] at h
      obtain ⟨⟨hescape, happrox⟩, hnewline⟩ := h
      intro c hc
      have hne : c ≠ '\n' := by
        rintro rfl
        simp [hc] at hnewline
      exact ⟨not_mem_of_longestRunOf happrox c hc,
        (isPlain_of_needsEscape (hplain hescape c hc) hne).2⟩
    · split
      · trivial
      · split
        · rename_i h
          simp only [Bool.and_eq_true, Bool.not_eq_true', decide_eq_true_iff] at h
          exact ⟨hplain h.1, h.2⟩
        · split <;> trivial

section AnyString

variable {s t rest : List Char}

/-- Behind a quotation mark without two others, a string on one line is read. -/
theorem anyString_quote (h : ¬ ['"', '"'].isPrefixOf t = true) :
    anyString ('"' :: t) = (basicAfter 0 t).map fun (s, rest) ↦ (String.ofList s, rest) := by
  unfold anyString
  split
  · rename_i heq
    rw [(List.cons.inj heq).2] at h
    simp at h
  · rename_i heq
    exact absurd (List.cons.inj heq).1 (by decide)
  · rfl

/-- Behind an apostrophe without two others, a string on one line is read. -/
theorem anyString_apostrophe (h : ¬ ['\'', '\''].isPrefixOf t = true) :
    anyString ('\'' :: t) = (literal t).map fun (s, rest) ↦ (String.ofList s, rest) := by
  unfold anyString
  split
  · rename_i heq
    exact absurd (List.cons.inj heq).1 (by decide)
  · rename_i heq
    rw [(List.cons.inj heq).2] at h
    simp at h
  · rfl

theorem anyString_basic (hrest : rest.head? ≠ some '"') :
    anyString (Style.basic.write s ++ rest) = some (String.ofList s, rest) := by
  have hopen : ¬ ['"', '"'].isPrefixOf (escapeAfter false 0 s ++ '"' :: rest) = true := by
    cases s with
    | nil =>
      cases rest with
      | nil => decide
      | cons c more =>
        have hc : ¬ '"' = c := fun h ↦ hrest (congrArg some h.symm)
        simp [escapeAfter, List.isPrefixOf, hc]
    | cons c more =>
      rw [escapeAfter]
      by_cases hquote : c = '"'
      · simp [hquote, List.isPrefixOf]
      · rw [if_neg hquote]
        rcases escapeChar_cases false hquote with ⟨e, he, -⟩ | ⟨hself, -⟩
        · simp [he, List.isPrefixOf]
        · simp [hself, List.isPrefixOf, Ne.symm hquote]
  rw [Style.write, List.append_assoc, List.cons_append, List.singleton_append,
    anyString_quote hopen, basicAfter_escapeAfter]
  rfl

theorem anyString_literal (hs : Style.literal.Suits s) (hrest : rest.head? ≠ some '\'') :
    anyString (Style.literal.write s ++ rest) = some (String.ofList s, rest) := by
  have hopen : ¬ ['\'', '\''].isPrefixOf (s ++ '\'' :: rest) = true := by
    cases s with
    | nil =>
      cases rest with
      | nil => decide
      | cons c more =>
        have hc : ¬ '\'' = c := fun h ↦ hrest (congrArg some h.symm)
        simp [List.isPrefixOf, hc]
    | cons c more =>
      have hc : ¬ '\'' = c := fun h ↦ (hs c List.mem_cons_self).1 h.symm
      simp [List.isPrefixOf, hc]
  rw [Style.write, List.append_assoc, List.cons_append, List.singleton_append,
    anyString_apostrophe hopen, literal_append hs]
  rfl

/-- The line break behind an opening triple mark is passed over. -/
theorem triple_leadingBreak {mark : Char} {escapes : Bool} (hmark : IsMark mark)
    {w : List Char} (h : Lines mark escapes 0 s w) (hbreak : s.contains '\n' = false →
      lineBreakLength (w ++ mark :: mark :: mark :: rest) = none)
    (hrest : rest.head? ≠ some mark) :
    triple mark escapes (leadingBreak s ++ w ++ mark :: mark :: mark :: rest) =
      some (s, rest) := by
  rw [triple, leadingBreak]
  by_cases hcontains : s.contains '\n' = true
  · rw [if_pos hcontains, ← h.tripleAfter_eq hmark (Nat.zero_le 2) hrest]
    rfl
  · rw [if_neg hcontains, List.nil_append, hbreak (Bool.eq_false_iff.mpr hcontains),
      ← h.tripleAfter_eq hmark (Nat.zero_le 2) hrest]
    rfl

theorem anyString_tripleBasic (hrest : rest.head? ≠ some '"') :
    anyString (Style.tripleBasic.write s ++ rest) = some (String.ofList s, rest) := by
  have hbreak : s.contains '\n' = false →
      lineBreakLength (escapeAfter true 0 s ++ '"' :: '"' :: '"' :: rest) = none := by
    intro hcontains
    cases s with
    | nil => rfl
    | cons c more =>
      rw [escapeAfter]
      by_cases hquote : c = '"'
      · rw [if_pos hquote, hquote]
        rfl
      · rw [if_neg hquote]
        rcases escapeChar_cases true hquote with ⟨e, he, -⟩ | ⟨hself, -, hkind⟩
        · rw [he]
          rfl
        · rcases hkind with ⟨rfl, -⟩ | ⟨hnewline, hreturn, -⟩
          · simp at hcontains
          · rw [hself]
            exact lineBreakLength_eq_none hnewline hreturn _
  have htriple := triple_leadingBreak (.inl rfl) (lines_escapeAfter s 0) hbreak hrest
  have hwrite : Style.tripleBasic.write s ++ rest = '"' :: '"' :: '"' ::
      (leadingBreak s ++ escapeAfter true 0 s ++ '"' :: '"' :: '"' :: rest) := by
    simp [Style.write]
  rw [hwrite, anyString, htriple]
  rfl

theorem anyString_tripleLiteral (hs : Style.tripleLiteral.Suits s)
    (hrest : rest.head? ≠ some '\'') :
    anyString (Style.tripleLiteral.write s ++ rest) = some (String.ofList s, rest) := by
  have hbreak : s.contains '\n' = false →
      lineBreakLength (s ++ '\'' :: '\'' :: '\'' :: rest) = none := by
    intro hcontains
    cases s with
    | nil => rfl
    | cons c more =>
      have hnewline : c ≠ '\n' := by
        rintro rfl
        simp at hcontains
      exact lineBreakLength_eq_none hnewline
        (isPlain_of_needsEscape (hs.1 c List.mem_cons_self) hnewline).1 _
  have htriple := triple_leadingBreak (.inr rfl) (lines_self hs.1 hs.2) hbreak hrest
  have hwrite : Style.tripleLiteral.write s ++ rest = '\'' :: '\'' :: '\'' ::
      (leadingBreak s ++ s ++ '\'' :: '\'' :: '\'' :: rest) := by
    simp [Style.write]
  rw [hwrite, anyString, htriple]
  rfl

end AnyString

/-- **A written string is read back**, unless a mark follows it. -/
theorem anyString_writeString (s : String) {rest : List Char} (hquote : rest.head? ≠ some '"')
    (hapostrophe : rest.head? ≠ some '\'') :
    anyString (writeString s ++ rest) = some (s, rest) := by
  have hs := Style.suits_of s.toList
  have hread : anyString (writeString s ++ rest) = some (String.ofList s.toList, rest) := by
    rw [writeString]
    cases hstyle : Style.of s.toList with
    | basic => exact anyString_basic hquote
    | literal => exact anyString_literal (hstyle ▸ hs) hapostrophe
    | tripleBasic => exact anyString_tripleBasic hquote
    | tripleLiteral => exact anyString_tripleLiteral (hstyle ▸ hs) hapostrophe
  rwa [String.ofList_toList] at hread

end AnimeLookup.Toml
