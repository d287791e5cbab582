import AnimeLookup.Proofs.Text.Trimming
import AnimeLookup.Proofs.Toml.WrittenStrings
import AnimeLookup.Toml.Reader

/-!
# The statements of written sections

The text of a list of sections is cut into the statements that one would expect (`statements_of`):
a header for each section, and an entry for each of its entries.

A word is recognised by its shape alone, so a numeral has to be told from everything else that a
word can be: a truth value, a date or a time, and a floating-point number.  Each of those has some
character that is no digit.

The number of statements that may still come is part of what the reader keeps count of.  `CutInto`
leaves it open, so that texts can be put together.
-/

set_option autoImplicit false

namespace AnimeLookup.Toml

open Text

theorem skipBlanks_cons {c : Char} (h : isBlank c = false) (rest : List Char) :
    skipBlanks (c :: rest) = c :: rest :=
  List.dropWhile_cons_of_neg (ne_true_of_eq_false h)

/-! ## Numerals -/

section Numerals

variable {w : List Char}

theorem hexValue_of_isDigit {c : Char} (h : c.isDigit = true) :
    hexValue c = some (c.toNat - '0'.toNat) := if_pos h

theorem foldl_hexValue (hw : w.all Char.isDigit = true) (start : Nat) :
    w.foldl (fun n c ↦ n * 10 + (hexValue c).getD 0) start = Nat.ofDigitChars 10 w start := by
  induction w generalizing start with
  | nil => rfl
  | cons c more ih =>
    rw [List.all_cons, Bool.and_eq_true] at hw
    rw [List.foldl_cons, hexValue_of_isDigit hw.1, Option.getD_some, ih hw.2,
      Nat.ofDigitChars_cons, Nat.mul_comm]

theorem ofDigits_decimal (n : Nat) : ofDigits 10 (decimal n) = n :=
  (foldl_hexValue (all_isDigit_decimal n) 0).trans Nat.ofDigitChars_ten_toDigits

theorem ungroup_of_digits (hw : w.all Char.isDigit = true) (hne : w ≠ []) :
    ungroup Char.isDigit w = some w := by
  induction w with
  | nil => exact absurd rfl hne
  | cons c more ih =>
    rw [List.all_cons, Bool.and_eq_true] at hw
    cases more with
    | nil => rw [ungroup, if_pos hw.1]
    | cons d more =>
      have hd : d ≠ '_' := by
        rintro rfl
        exact absurd hw.2 (by simp)
      rw [ungroup, if_pos hw.1, ih hw.2 (by simp)]
      · rfl
      · exact nofun
      · exact fun _ h ↦ hd (List.cons.inj h).1

theorem splitSign_of_digits (hw : w.all Char.isDigit = true) : splitSign w = (none, w) := by
  unfold splitSign
  split
  · exact absurd hw (by simp)
  · exact absurd hw (by simp)
  · rfl

theorem hasNoLeadingZero_decimal (n : Nat) : hasNoLeadingZero (decimal n) = true := by
  by_cases h : n = 0
  · rw [h]
    rfl
  · simp [hasNoLeadingZero, head?_decimal_ne_zero h]

/-- A numeral has no part in which something other than a digit is expected. -/
theorem expect_drop_of_digits (hw : w.all Char.isDigit = true) {c : Char} (hc : c.isDigit = false)
    (k : Nat) : expect c (w.drop k) = none := by
  cases hdrop : w.drop k with
  | nil => rfl
  | cons d more =>
    have hd : d.isDigit = true :=
      List.all_eq_true.mp hw d (List.mem_of_mem_drop (hdrop ▸ List.mem_cons_self))
    refine if_neg fun heq ↦ ?_
    rw [heq, hc] at hd
    exact Bool.false_ne_true hd

/-- A numeral is no date and no time. -/
theorem isDatetime_of_digits (hw : w.all Char.isDigit = true) : isDatetime w = false := by
  have hdate : date w = none := by
    rw [date, fixedDigits]
    split
    · simp [expect_drop_of_digits hw (c := '-') rfl]
    · rfl
  have htime : time w = none := by
    rw [time, fixedDigits]
    split
    · simp [expect_drop_of_digits hw (c := ':') rfl]
    · rfl
  rw [isDatetime, hdate, htime]
  rfl

/-- A numeral is no floating-point number. -/
theorem readFloat_of_digits (hw : w.all Char.isDigit = true) : readFloat w = none := by
  have hgroup : w.all isGroupChar = true :=
    List.all_eq_true.mpr fun c hc ↦ by simp [isGroupChar, List.all_eq_true.mp hw c hc]
  have hrest : w.dropWhile isGroupChar = [] := by
    have hstop : ∀ c ∈ ([] : List Char).head?, isGroupChar c = false := by simp
    simpa only [List.append_nil] using dropWhile_append_of_stop hgroup hstop
  have hword : ¬ (w = ['i', 'n', 'f'] || w = ['n', 'a', 'n']) = true := by
    rw [Bool.or_eq_true, decide_eq_true_iff, decide_eq_true_iff]
    rintro (rfl | rfl) <;> exact absurd hw (by decide)
  have hparts : floatParts w = none := by
    rw [floatParts, splitSign_of_digits hw]
    simp only [hrest]
    cases ungroup Char.isDigit (w.takeWhile isGroupChar) with
    | none => rfl
    | some whole =>
      rw [Option.bind_eq_bind, Option.bind_some]
      split <;> rfl
  rw [readFloat, splitSign_of_digits hw, if_neg hword, hparts]
  rfl

/-- **A numeral is read as its number**, if that fits into 64 bits with a sign. -/
theorem ofWord_decimal {n : Nat} (h : n ≤ largestInteger) :
    ofWord (decimal n) = some (.integer n) := by
  have hw := all_isDigit_decimal n
  have hfit : fitInteger n = some (.integer n) := if_pos ⟨by omega, by omega⟩
  have hinteger : readInteger (decimal n) = some (.integer n) := by
    unfold readInteger
    split
    · rename_i heq
      exact absurd (heq ▸ hw) (by simp)
    · rename_i heq
      exact absurd (heq ▸ hw) (by simp)
    · rename_i heq
      exact absurd (heq ▸ hw) (by simp)
    · rw [splitSign_of_digits hw]
      simp only [ungroup_of_digits hw (decimal_ne_nil n), Option.bind_some,
        hasNoLeadingZero_decimal, if_true, ofDigits_decimal]
      exact hfit
  have hword : ∀ word : List Char, word.all Char.isDigit = false → decimal n ≠ word :=
    fun word hfalse heq ↦ Bool.false_ne_true (hfalse.symm.trans (heq ▸ hw))
  rw [ofWord, if_neg (hword _ rfl), if_neg (hword _ rfl), isDatetime_of_digits hw,
    if_neg Bool.false_ne_true, readFloat_of_digits hw, hinteger]
  rfl

end Numerals

/-! ## Values -/

theorem scalar_of_word {word : List Char} (hword : word.all isWordChar = true)
    (rest : List Char) :
    scalar (word ++ '\n' :: rest) = (ofWord word).map (·, '\n' :: rest) := by
  have htake : takeWord (word ++ '\n' :: rest) = (word, '\n' :: rest) := by
    have hstop : ∀ c ∈ ('\n' :: rest).head?, isWordChar c = false := by simp; decide
    rw [takeWord, takeWhile_append_of_stop hword hstop, dropWhile_append_of_stop hword hstop]
    exact if_neg (by simp [startsTime])
  have hdefault : scalar (word ++ '\n' :: rest) =
      (ofWord (takeWord (word ++ '\n' :: rest)).1).map
        (·, (takeWord (word ++ '\n' :: rest)).2) := by
    cases word with
    | nil => rfl
    | cons c more =>
      rw [List.all_cons, Bool.and_eq_true] at hword
      unfold scalar
      split
      · rename_i heq
        exact absurd ((List.cons.inj heq).1 ▸ hword.1) (by decide)
      · rename_i heq
        exact absurd ((List.cons.inj heq).1 ▸ hword.1) (by decide)
      · rfl
  rw [hdefault, htake]

/-- A written string begins with a mark. -/
theorem exists_writeString_eq_cons (s : String) :
    ∃ c more, writeString s = c :: more ∧ IsMark c := by
  rw [writeString]
  cases Style.of s.toList with
  | basic => exact ⟨_, _, rfl, .inl rfl⟩
  | literal => exact ⟨_, _, rfl, .inr rfl⟩
  | tripleBasic => exact ⟨_, _, rfl, .inl rfl⟩
  | tripleLiteral => exact ⟨_, _, rfl, .inr rfl⟩

theorem scalar_of_mark {c : Char} (hc : IsMark c) (rest : List Char) :
    scalar (c :: rest) = (anyString (c :: rest)).map fun (t, rest) ↦ (.string t, rest) := by
  rcases hc with rfl | rfl <;> rfl

/-- **A written scalar is read back**, up to the end of the line. -/
theorem scalar_write {v : Scalar} (h : v.isWritable = true) (rest : List Char) :
    scalar (v.write ++ '\n' :: rest) = some (v.toToml, '\n' :: rest) := by
  cases v with
  | string s =>
    obtain ⟨c, more, hcons, hc⟩ := exists_writeString_eq_cons s
    have hread : anyString (writeString s ++ '\n' :: rest) = some (s, '\n' :: rest) :=
      anyString_writeString s (by simp) (by simp)
    rw [hcons] at hread
    rw [Scalar.write, hcons, List.cons_append, scalar_of_mark hc, ← List.cons_append, hread]
    rfl
  | nat n =>
    have hdigits : (decimal n).all isWordChar = true := by
      refine List.all_eq_true.mpr fun c hc ↦ ?_
      simp [isWordChar, Char.isAlphanum, List.all_eq_true.mp (all_isDigit_decimal n) c hc]
    rw [Scalar.write, scalar_of_word hdigits, ofWord_decimal (of_decide_eq_true h)]
    rfl
  | bool b => cases b <;> exact scalar_of_word (by decide) rest

/-- What is written for a scalar begins neither an array nor an inline table, and not with a
blank. -/
theorem exists_write_eq_cons (v : Scalar) :
    ∃ c more, v.write = c :: more ∧ c ≠ '[' ∧ c ≠ '\x7b' ∧ isBlank c = false := by
  cases v with
  | string s =>
    obtain ⟨c, more, hcons, hc⟩ := exists_writeString_eq_cons s
    refine ⟨c, more, hcons, ?_⟩
    rcases hc with rfl | rfl <;> decide
  | nat n =>
    obtain ⟨c, more, hcons⟩ := List.exists_cons_of_ne_nil (decimal_ne_nil n)
    have hc : c.isDigit = true :=
      List.all_eq_true.mp (all_isDigit_decimal n) c (hcons ▸ List.mem_cons_self)
    refine ⟨c, more, hcons, ?_, ?_, ?_⟩
    · rintro rfl
      exact absurd hc (by decide)
    · rintro rfl
      exact absurd hc (by decide)
    · rw [isBlank, Bool.or_eq_false_iff, decide_eq_false_iff_not, decide_eq_false_iff_not]
      constructor
      · rintro rfl
        exact absurd hc (by decide)
      · rintro rfl
        exact absurd hc (by decide)
  | bool b => cases b <;> exact ⟨_, _, rfl, by decide⟩

theorem value_eq_scalar {c : Char} (harray : c ≠ '[') (htable : c ≠ '\x7b') (depth : Nat)
    (rest : List Char) : value depth (c :: rest) = scalar (c :: rest) := by
  cases depth with
  | zero => rfl
  | succ depth =>
    unfold value
    split
    · rename_i heq
      exact absurd (List.cons.inj heq).1 harray
    · rename_i heq
      exact absurd (List.cons.inj heq).1 htable
    · rfl

/-! ## Keys -/

/-- **A name that is a key without marks.** -/
structure IsBare (name : String) : Prop where
  /-- It is not empty. -/
  ne_nil : name.toList ≠ []
  /-- All its characters can be part of a key without marks. -/
  all_isKeyChar : name.toList.all isKeyChar = true

section Keys

variable {name : String} {rest : List Char}

theorem IsBare.exists_cons (h : IsBare name) : ∃ c more, name.toList = c :: more ∧
    isKeyChar c = true := by
  obtain ⟨c, more, hcons⟩ := List.exists_cons_of_ne_nil h.ne_nil
  exact ⟨c, more, hcons, List.all_eq_true.mp h.all_isKeyChar c (hcons ▸ List.mem_cons_self)⟩

theorem isBlank_of_isKeyChar {c : Char} (h : isKeyChar c = true) : isBlank c = false := by
  rw [isBlank, Bool.or_eq_false_iff, decide_eq_false_iff_not, decide_eq_false_iff_not]
  constructor
  · rintro rfl
    exact absurd h (by decide)
  · rintro rfl
    exact absurd h (by decide)

theorem keyPart_bare (h : IsBare name) (hrest : ∀ c ∈ rest.head?, isKeyChar c = false) :
    keyPart (name.toList ++ rest) = some (name, rest) := by
  have hpart : ¬ name.toList.isEmpty = true := by simpa using h.ne_nil
  have hdefault : keyPart (name.toList ++ rest) =
      if ((name.toList ++ rest).takeWhile isKeyChar).isEmpty then none
      else some (String.ofList ((name.toList ++ rest).takeWhile isKeyChar),
        (name.toList ++ rest).dropWhile isKeyChar) := by
    obtain ⟨c, more, hcons, hc⟩ := h.exists_cons
    rw [hcons, List.cons_append]
    unfold keyPart
    split
    · rename_i heq
      exact absurd ((List.cons.inj heq).1 ▸ hc) (by decide)
    · rename_i heq
      exact absurd ((List.cons.inj heq).1 ▸ hc) (by decide)
    · rfl
  rw [hdefault, takeWhile_append_of_stop h.all_isKeyChar hrest,
    dropWhile_append_of_stop h.all_isKeyChar hrest, if_neg hpart, String.ofList_toList]

/-- A key of one part, with blanks behind it. -/
theorem key_bare (h : IsBare name) {blanks : List Char} {d : Char} {rest : List Char}
    (hblanks : blanks.all isBlank = true) (hblank : isBlank d = false) (hdot : d ≠ '.')
    (hkey : ∀ c ∈ (blanks ++ d :: rest).head?, isKeyChar c = false) :
    key (name.toList ++ (blanks ++ d :: rest)) = some ([], name, d :: rest) := by
  have hstart : skipBlanks (name.toList ++ (blanks ++ d :: rest)) =
      name.toList ++ (blanks ++ d :: rest) := by
    obtain ⟨c, more, hcons, hc⟩ := h.exists_cons
    rw [hcons, List.cons_append]
    exact skipBlanks_cons (isBlank_of_isKeyChar hc) _
  have hend : skipBlanks (blanks ++ d :: rest) = d :: rest :=
    dropWhile_append_of_stop hblanks fun c hc ↦ Option.some.inj hc ▸ hblank
  have hparts : keyParts maxDepth (name.toList ++ (blanks ++ d :: rest)) =
      some ([name], d :: rest) := by
    show keyParts (78 + 1) _ = _
    rw [keyParts, hstart, keyPart_bare h hkey, Option.bind_eq_bind, Option.bind_some]
    simp only [hend]
    split
    · rename_i heq
      exact absurd (List.cons.inj heq).1 hdot
    · rfl
  rw [key, hparts]
  rfl

end Keys

/-! ## Lines -/

/-- The statement that an entry is read as. -/
def Section.entryStatement (e : String × Scalar) : Statement := .entry [] e.1 e.2.toToml

/-- **The statements that a section is read as.** -/
def Section.statements (s : Section) : List Statement :=
  .header [] s.name :: s.entries.map entryStatement

/-- **A text that is cut into some statements**, whatever follows. -/
def CutInto (s : List Char) (sts : List Statement) : Prop :=
  ∃ n ≤ s.length, ∀ fuel rest,
    statements (fuel + n) (s ++ rest) = (statements fuel rest).map (sts ++ ·)

namespace CutInto

variable {s t : List Char} {sts more : List Statement}

theorem nil : CutInto [] [] := ⟨0, Nat.le_refl 0, fun _ _ ↦ Option.map_id'.symm⟩

theorem append (hs : CutInto s sts) (ht : CutInto t more) : CutInto (s ++ t) (sts ++ more) := by
  obtain ⟨n, hn, hs⟩ := hs
  obtain ⟨m, hm, ht⟩ := ht
  refine ⟨m + n, by rw [List.length_append]; omega, fun fuel rest ↦ ?_⟩
  rw [← Nat.add_assoc, List.append_assoc, hs, ht, Option.map_map]
  exact congrArg (Option.map · _) (funext fun us ↦ (List.append_assoc sts more us).symm)

theorem flatMap {α : Type} {text : α → List Char} {statementsOf : α → List Statement} {l : List α}
    (h : ∀ a ∈ l, CutInto (text a) (statementsOf a)) :
    CutInto (l.flatMap text) (l.flatMap statementsOf) := by
  induction l with
  | nil => exact nil
  | cons a rest ih =>
    obtain ⟨ha, hrest⟩ := List.forall_mem_cons.mp h
    exact ha.append (ih hrest)

/-- The whole text is cut into the statements. -/
theorem statements_eq (h : CutInto s sts) : statements s.length s = some sts := by
  obtain ⟨n, hn, h⟩ := h
  have hend : Toml.statements (s.length - n) [] = some [] := by
    cases s.length - n <;> rfl
  have hwhole := h (s.length - n) []
  rwa [Nat.sub_add_cancel hn, List.append_nil, hend, Option.map_some, List.append_nil] at hwhole

/-- An empty line. -/
theorem lineBreak : CutInto ['\n'] [] :=
  ⟨1, Nat.le_refl 1, fun _ _ ↦ Option.map_id'.symm⟩

/-- A line with a statement. -/
theorem of_statement {c : Char} {line : List Char} {st : Statement}
    (hblank : isBlank c = false) (hplain : ¬ (c = '#' || c = '\n' || c = '\r') = true)
    (h : ∀ rest, (if c = '[' then header (c :: line ++ '\n' :: rest)
      else entry (c :: line ++ '\n' :: rest)) = some (st, '\n' :: rest)) :
    CutInto (c :: line ++ ['\n']) [st] := by
  refine ⟨1, by simp, fun fuel rest ↦ ?_⟩
  have hline : c :: line ++ ['\n'] ++ rest = c :: (line ++ '\n' :: rest) := by simp
  rw [hline, Toml.statements, skipBlanks_cons hblank]
  simp only [if_neg hplain]
  have hstatement := h rest
  have hfinish : finishLine ('\n' :: rest) = some rest := rfl
  rw [List.cons_append] at hstatement
  rw [Option.map_eq_bind]
  by_cases hheader : c = '['
  · rw [if_pos hheader] at hstatement ⊢
    simp only [hstatement, hfinish, Option.bind_eq_bind, Option.bind_some]
    rfl
  · rw [if_neg hheader] at hstatement ⊢
    simp only [hstatement, hfinish, Option.bind_eq_bind, Option.bind_some]
    rfl

end CutInto

section Sections

theorem ne_of_isKeyChar {c d : Char} (hc : isKeyChar c = true) (hd : isKeyChar d = false) :
    c ≠ d := by
  rintro rfl
  exact Bool.false_ne_true (hd.symm.trans hc)

/-- **A written entry is cut into its statement.** -/
theorem cutInto_entry {e : String × Scalar} (hkey : IsBare e.1) (hvalue : e.2.isWritable = true) :
    CutInto (Section.writeEntry e) [Section.entryStatement e] := by
  obtain ⟨name, v⟩ := e
  obtain ⟨c, more, hcons, hc⟩ := hkey.exists_cons
  obtain ⟨d, text, hwrite, harray, htable, hblank⟩ := exists_write_eq_cons v
  have hline : Section.writeEntry (name, v) = c :: (more ++ " = ".toList ++ v.write) ++ ['\n'] := by
    simp [Section.writeEntry, hcons]
  have hplain : ¬ (c = '#' || c = '\n' || c = '\r') = true := by
    simp [ne_of_isKeyChar hc (d := '#') rfl, ne_of_isKeyChar hc (d := '\n') rfl,
      ne_of_isKeyChar hc (d := '\r') rfl]
  rw [hline]
  refine .of_statement (isBlank_of_isKeyChar hc) hplain fun rest ↦ ?_
  have htext : c :: (more ++ " = ".toList ++ v.write) ++ '\n' :: rest =
      name.toList ++ ([' '] ++ '=' :: ' ' :: (v.write ++ '\n' :: rest)) := by simp [hcons]
  have hread : value maxDepth (skipBlanks (' ' :: (v.write ++ '\n' :: rest))) =
      some (v.toToml, '\n' :: rest) := by
    have hskip : skipBlanks (' ' :: (v.write ++ '\n' :: rest)) = v.write ++ '\n' :: rest := by
      rw [hwrite]
      exact skipBlanks_cons hblank _
    rw [hskip, hwrite, List.cons_append, value_eq_scalar harray htable, ← List.cons_append,
      ← hwrite, scalar_write hvalue]
  rw [if_neg (ne_of_isKeyChar hc rfl), htext, entry, keyValue,
    key_bare hkey (by decide) (by decide) (by decide) (by simp; decide)]
  simp only [Option.bind_eq_bind, Option.bind_some, hread]
  rfl

/-- **A written header is cut into its statement.** -/
theorem cutInto_header {name : String} (h : IsBare name) :
    CutInto ('[' :: name.toList ++ [']', '\n']) [.header [] name] := by
  have hline : '[' :: name.toList ++ [']', '\n'] = '[' :: (name.toList ++ [']']) ++ ['\n'] := by
    simp
  rw [hline]
  refine .of_statement (by decide) (by decide) fun rest ↦ ?_
  have htext : '[' :: (name.toList ++ [']']) ++ '\n' :: rest =
      '[' :: (name.toList ++ ([] ++ ']' :: '\n' :: rest)) := by simp
  have hkey : key (name.toList ++ ([] ++ ']' :: '\n' :: rest)) =
      some ([], name, ']' :: '\n' :: rest) :=
    key_bare h (by decide) (by decide) (by decide) (by simp; decide)
  obtain ⟨c, more, hcons, hc⟩ := h.exists_cons
  rw [if_pos rfl, htext]
  rw [hcons, List.cons_append] at hkey ⊢
  unfold header
  split
  · rename_i heq
    exact absurd (List.cons.inj (List.cons.inj heq).2).1 (ne_of_isKeyChar hc rfl)
  · rename_i heq
    rw [← (List.cons.inj heq).2, hkey]
    rfl
  · rename_i hother
    exact absurd rfl (hother _)

/-- **A section that can be written and read back**: it has a name and keys without marks. -/
structure Section.IsBare (s : Section) : Prop where
  /-- The name needs no marks. -/
  name : Toml.IsBare s.name
  /-- No key needs marks. -/
  key : ∀ e ∈ s.entries, Toml.IsBare e.1

theorem cutInto_section {s : Section} (h : s.IsBare) (hwritable : s.isWritable = true) :
    CutInto s.write s.statements := by
  have hentries : CutInto (s.entries.flatMap Section.writeEntry)
      (s.entries.flatMap fun e ↦ [Section.entryStatement e]) :=
    .flatMap fun e he ↦ cutInto_entry (h.key e he) (List.all_eq_true.mp hwritable e he)
  rw [← List.map_eq_flatMap] at hentries
  exact (cutInto_header h.name).append hentries

/-- **Written sections are cut into the statements of each of them.** -/
theorem statements_of {sections : List Section} {text : List Char}
    (h : ∀ s ∈ sections, s.IsBare) (hwrite : write sections = some text) :
    statements text.length text = some (sections.flatMap Section.statements) := by
  unfold write at hwrite
  split at hwrite
  · rename_i hwritable
    have hcut : ∀ s ∈ sections, CutInto s.write s.statements := fun s hs ↦
      cutInto_section (h s hs) (List.all_eq_true.mp hwritable s hs)
    refine CutInto.statements_eq ?_
    cases sections with
    | nil =>
      cases hwrite
      exact .nil
    | cons s rest =>
      cases hwrite
      obtain ⟨hs, hrest⟩ := List.forall_mem_cons.mp hcut
      exact hs.append (.flatMap fun t ht ↦ CutInto.lineBreak.append (hrest t ht))
  · cases hwrite

end Sections

end AnimeLookup.Toml
