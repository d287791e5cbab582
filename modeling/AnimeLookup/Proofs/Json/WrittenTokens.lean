import AnimeLookup.Json.Printer

/-!
# The tokens of a written value

The text of a value is cut into the tokens that one would expect (`scan_write`): those of its parts
in their order, with brackets, commas and colons between them, in either layout.

A text is scanned *as* some tokens if the scanner, coming to it between two tokens, finds them and
goes on behind it.  Most texts are scanned in that way whatever follows (`ScannedAs`), but a number
or a word goes on as long as it can, so for these what follows has to begin with something else
(`ScannedBefore`).  Everything that is written behind a value does: a comma, a bracket, or a line
break.
-/

set_option autoImplicit false

namespace AnimeLookup.Json

open Text Token

/-! ## The tokens -/

mutual

/-- **The tokens of a value.** -/
def tokens : Json → List Token
  | .null => [.null]
  | .bool b => [.bool b]
  | .integer n => [.integer n]
  | .inexact => [.inexact]
  | .string s => [.string s]
  | .array [] => [.openArray, .closeArray]
  | .array (v :: rest) => .openArray :: tokens v ++ itemTokens rest
  | .object [] => [.openObject, .closeObject]
  | .object ((key, v) :: rest) =>
    .openObject :: .string key :: .colon :: tokens v ++ memberTokens rest

/-- The tokens of the further items of an array, and of its end. -/
def itemTokens : List Json → List Token
  | [] => [.closeArray]
  | v :: rest => .comma :: tokens v ++ itemTokens rest

/-- The tokens of the further members of an object, and of its end. -/
def memberTokens : List (Option String × Json) → List Token
  | [] => [.closeObject]
  | (key, v) :: rest => .comma :: .string key :: .colon :: tokens v ++ memberTokens rest

end

/-! ## Texts and their tokens -/

/-- Whether a character can go on with a number or a word. -/
def continues (c : Char) : Bool := isNumeralChar c || c.isAlpha

/-- What follows is no part of a number or word in front of it. -/
def Apart (rest : List (Option Char)) : Prop :=
  ∀ c, rest.head? = some (some c) → continues c = false

/-- **A text that is scanned as some tokens**, whatever follows. -/
def ScannedAs (s : List Char) (ts : List Token) : Prop :=
  ∀ rest, scanFrom .between (s.map some ++ rest) = (scanFrom .between rest).map (ts ++ ·)

/-- A text that is scanned as some tokens if no part of a number or word follows. -/
def ScannedBefore (s : List Char) (ts : List Token) : Prop :=
  ∀ rest, Apart rest →
    scanFrom .between (s.map some ++ rest) = (scanFrom .between rest).map (ts ++ ·)

/-- A character between two tokens. -/
theorem scanFrom_between {c : Char} {t : Option Token} {state : State}
    (h : start c = some (t, state)) (rest : List (Option Char)) :
    scanFrom .between (some c :: rest) = (scanFrom state rest).map (t.toList ++ ·) := by
  rw [scanFrom, h, Option.map_eq_bind]
  rfl

theorem scanFrom_between_of_none {c : Char} (state : State) (h : start c = some (none, state))
    (rest : List (Option Char)) : scanFrom .between (some c :: rest) = scanFrom state rest :=
  (scanFrom_between h rest).trans Option.map_id'

namespace ScannedAs

variable {s t : List Char} {ts us : List Token}

theorem before (h : ScannedAs s ts) : ScannedBefore s ts := fun rest _ ↦ h rest

theorem nil : ScannedAs [] [] := fun _ ↦ Option.map_id'.symm

theorem append (hs : ScannedAs s ts) (ht : ScannedAs t us) : ScannedAs (s ++ t) (ts ++ us) := by
  intro rest
  rw [List.map_append, List.append_assoc, hs, ht, Option.map_map]
  exact congrArg (Option.map · _) (funext fun vs ↦ (List.append_assoc ts us vs).symm)

theorem of_punctuation {c : Char} {t : Token} (h : start c = some (some t, .between)) :
    ScannedAs [c] [t] :=
  fun rest ↦ scanFrom_between h rest

theorem of_blank {c : Char} (h : c = ' ' ∨ c = '\n' ∨ c = '\r' ∨ c = '\t') : ScannedAs [c] [] :=
  fun rest ↦ scanFrom_between_of_none .between (if_pos h) rest |>.trans Option.map_id'.symm

theorem of_blanks (h : ∀ c ∈ s, c = ' ' ∨ c = '\n' ∨ c = '\r' ∨ c = '\t') : ScannedAs s [] := by
  induction s with
  | nil => exact nil
  | cons c rest ih =>
    obtain ⟨hc, hrest⟩ := List.forall_mem_cons.mp h
    exact (of_blank hc).append (ih hrest)

end ScannedAs

/-- A text that begins with something that is no part of a number or word. -/
def StartsApart (s : List Char) : Prop := ∃ c more, s = c :: more ∧ continues c = false

/-- A number or word with something else behind it. -/
theorem ScannedBefore.append {s t : List Char} {ts us : List Token} (hs : ScannedBefore s ts)
    (ht : ScannedAs t us) (hstarts : StartsApart t) : ScannedAs (s ++ t) (ts ++ us) := by
  intro rest
  have hapart : Apart (t.map some ++ rest) := fun d hd ↦ by
    obtain ⟨c, more, rfl, hc⟩ := hstarts
    rw [← Option.some.inj (Option.some.inj hd)]
    exact hc
  rw [List.map_append, List.append_assoc, hs _ hapart, ht, Option.map_map]
  exact congrArg (Option.map · _) (funext fun vs ↦ (List.append_assoc ts us vs).symm)

/-! ## Numbers and words -/

/-- **A way to collect a token** that goes on as long as it can: the state in which it is collected,
the characters that belong to it, and what is made of them. -/
structure Collects (state : List Char → State) (goesOn : Char → Bool)
    (finish : List Char → Option Token) : Prop where
  /-- The text ends. -/
  ending : ∀ u, scanFrom (state u) [] = (finish u).map ([·])
  /-- A byte that is no part of a character. -/
  broken : ∀ u rest, scanFrom (state u) (none :: rest) = none
  /-- A character that belongs to the token. -/
  further : ∀ u c rest, goesOn c = true →
    scanFrom (state u) (some c :: rest) = scanFrom (state (u ++ [c])) rest
  /-- A character that does not. -/
  behind : ∀ u c rest, goesOn c = false → scanFrom (state u) (some c :: rest) =
    (finish u).bind fun t ↦ (scanFrom .between (some c :: rest)).map (t :: ·)

namespace Collects

variable {state : List Char → State} {goesOn : Char → Bool} {finish : List Char → Option Token}

theorem scanFrom_append (h : Collects state goesOn finish) {u w : List Char}
    (hw : ∀ c ∈ w, goesOn c = true) (rest : List (Option Char)) :
    scanFrom (state u) (w.map some ++ rest) = scanFrom (state (u ++ w)) rest := by
  induction w generalizing u with
  | nil => rw [List.map_nil, List.nil_append, List.append_nil]
  | cons c more ih =>
    obtain ⟨hc, hmore⟩ := List.forall_mem_cons.mp hw
    rw [List.map_cons, List.cons_append, h.further u c _ hc, ih hmore, List.append_assoc,
      List.singleton_append]

theorem scanFrom_apart (h : Collects state goesOn finish) {u : List Char} {t : Token}
    (ht : finish u = some t) {rest : List (Option Char)}
    (hrest : ∀ c, rest.head? = some (some c) → goesOn c = false) :
    scanFrom (state u) rest = (scanFrom .between rest).map (t :: ·) := by
  match rest with
  | [] => rw [h.ending, ht]; rfl
  | none :: more => rw [h.broken]; rfl
  | some c :: more => rw [h.behind u c more (hrest c rfl), ht]; rfl

/-- A text that begins the token and goes on with it is scanned as that token. -/
theorem scannedBefore (h : Collects state goesOn finish)
    (hcontinues : ∀ c, continues c = false → goesOn c = false) {c : Char} {w : List Char}
    {t : Token} (hstart : start c = some (none, state [c])) (hw : ∀ d ∈ w, goesOn d = true)
    (ht : finish (c :: w) = some t) : ScannedBefore (c :: w) [t] := by
  intro rest hrest
  rw [List.map_cons, List.cons_append, scanFrom_between_of_none _ hstart, h.scanFrom_append hw,
    List.singleton_append, h.scanFrom_apart ht fun d hd ↦ hcontinues d (hrest d hd)]
  rfl

end Collects

/-- What is to be done with a character behind a token is what is to be done with it between two
tokens. -/
theorem bind_start (t : Token) (c : Char) (rest : List (Option Char)) :
    (do let (token, state) ← start c
        return t :: token.toList ++ (← scanFrom state rest)) =
      (scanFrom .between (some c :: rest)).map (t :: ·) := by
  cases hstart : start c with
  | none => rw [scanFrom, hstart]; rfl
  | some found =>
    obtain ⟨token, state⟩ := found
    rw [scanFrom_between hstart, Option.map_map, Option.map_eq_bind]
    rfl

theorem collects_number : Collects .inNumber isNumeralChar ofNumeral where
  ending _ := rfl
  broken _ _ := rfl
  further _ _ _ h := if_pos h
  behind u c rest h := (if_neg (ne_true_of_eq_false h)).trans
    (congrArg ((ofNumeral u).bind ·) (funext fun t ↦ bind_start t c rest))

theorem collects_word : Collects .inWord Char.isAlpha ofWord where
  ending _ := rfl
  broken _ _ := rfl
  further _ _ _ h := if_pos h
  behind u c rest h := (if_neg (ne_true_of_eq_false h)).trans
    (congrArg ((ofWord u).bind ·) (funext fun t ↦ bind_start t c rest))

/-! ### Words -/

theorem scannedBefore_word {c : Char} {w : List Char} {t : Token}
    (hstart : start c = some (none, .inWord [c])) (hw : w.all Char.isAlpha = true)
    (ht : ofWord (c :: w) = some t) : ScannedBefore (c :: w) [t] :=
  collects_word.scannedBefore (fun _ h ↦ (Bool.or_eq_false_iff.mp h).2) hstart
    (List.all_eq_true.mp hw) ht

theorem scannedBefore_null : ScannedBefore ['n', 'u', 'l', 'l'] [.null] :=
  scannedBefore_word rfl rfl rfl

theorem scannedBefore_true : ScannedBefore ['t', 'r', 'u', 'e'] [.bool true] :=
  scannedBefore_word rfl rfl rfl

theorem scannedBefore_false : ScannedBefore ['f', 'a', 'l', 's', 'e'] [.bool false] :=
  scannedBefore_word rfl rfl rfl

/-! ### Numbers -/

theorem scannedBefore_number {c : Char} {w : List Char} {t : Token}
    (hstart : start c = some (none, .inNumber [c])) (hw : w.all isNumeralChar = true)
    (ht : ofNumeral (c :: w) = some t) : ScannedBefore (c :: w) [t] :=
  collects_number.scannedBefore (fun _ h ↦ (Bool.or_eq_false_iff.mp h).1) hstart
    (List.all_eq_true.mp hw) ht

theorem scannedBefore_inexact : ScannedBefore ['0', '.', '0'] [.inexact] :=
  scannedBefore_number rfl rfl rfl

theorem all_isNumeralChar {w : List Char} (h : w.all Char.isDigit = true) :
    w.all isNumeralChar = true := by
  refine List.all_eq_true.mpr fun c hc ↦ ?_
  simp [isNumeralChar, List.all_eq_true.mp h c hc]

/-- A character that begins a number. -/
theorem start_of_isDigit {c : Char} (h : c.isDigit = true) :
    start c = some (none, .inNumber [c]) := by
  have hblank : ¬ (c = ' ' ∨ c = '\n' ∨ c = '\r' ∨ c = '\t') := by
    rintro (rfl | rfl | rfl | rfl) <;> exact absurd h (by decide)
  have hquote : c ≠ '"' := fun hc ↦ absurd (hc ▸ h) (by decide)
  rw [start, if_neg hblank, if_neg hquote, if_pos (.inr h)]

theorem isIntegerPart_decimal (n : Nat) : isIntegerPart (decimal n) = true := by
  by_cases h : n = 0
  · rw [h]
    rfl
  · simp [isIntegerPart, decimal_ne_nil, head?_decimal_ne_zero h, all_isDigit_decimal]

theorem ofUnsigned_decimal (n : Nat) : ofUnsigned (decimal n) = some (.integer n) := by
  have hdigit := List.all_eq_true.mp (all_isDigit_decimal n)
  have htake : (decimal n).takeWhile Char.isDigit = decimal n := by
    have h : (decimal n ++ []).takeWhile Char.isDigit = _ := List.takeWhile_append_of_pos hdigit
    rwa [List.append_nil, List.takeWhile_nil, List.append_nil] at h
  have hdrop : (decimal n).dropWhile Char.isDigit = [] := by
    have h : (decimal n ++ []).dropWhile Char.isDigit = _ := List.dropWhile_append_of_pos hdigit
    rwa [List.append_nil, List.dropWhile_nil] at h
  rw [ofUnsigned, htake, hdrop, isIntegerPart_decimal]
  exact congrArg (fun k : Nat ↦ some (Token.integer k)) Nat.ofDigitChars_ten_toDigits

/-- The numeral of an integer is scanned as that integer. -/
theorem scannedBefore_integer (n : Int) : ScannedBefore (decimalInt n) [.integer n] := by
  have hdigits : ∀ k, ∃ c w, decimal k = c :: w ∧ c.isDigit = true ∧
      w.all Char.isDigit = true := by
    intro k
    obtain ⟨c, w, h⟩ := List.exists_cons_of_ne_nil (decimal_ne_nil k)
    have hall := all_isDigit_decimal k
    rw [h, List.all_cons, Bool.and_eq_true] at hall
    exact ⟨c, w, h, hall.1, hall.2⟩
  cases n with
  | ofNat k =>
    obtain ⟨c, w, h, hc, hw⟩ := hdigits k
    have hnumeral : ofNumeral (decimal k) = some (.integer k) := by
      have hminus : c ≠ '-' := fun heq ↦ absurd (heq ▸ hc) (by decide)
      rw [← ofUnsigned_decimal, h]
      unfold ofNumeral
      split
      · rename_i heq
        exact absurd (List.cons.inj heq).1 hminus
      · rfl
    rw [h] at hnumeral
    rw [decimalInt, h]
    exact scannedBefore_number (start_of_isDigit hc) (all_isNumeralChar hw) hnumeral
  | negSucc k =>
    have hnumeral : ofNumeral ('-' :: decimal (k + 1)) = some (.integer (.negSucc k)) := by
      rw [ofNumeral, ofUnsigned_decimal]
      rfl
    exact scannedBefore_number rfl (all_isNumeralChar (all_isDigit_decimal _)) hnumeral

/-! ## Strings -/

section Strings

variable {units : List StringUnit}

theorem scanFrom_inString {c : Char} (state : State) (h : inside units c = some (none, state))
    (rest : List (Option Char)) :
    scanFrom (.inString units) (some c :: rest) = scanFrom state rest := by
  rw [scanFrom, h]
  exact Option.bind_fun_some _

theorem scanFrom_inEscape {c : Char} (state : State) (h : escaped units c = some (none, state))
    (rest : List (Option Char)) :
    scanFrom (.inEscape units) (some c :: rest) = scanFrom state rest := by
  rw [scanFrom, h]
  exact Option.bind_fun_some _

theorem scanFrom_inHex {c : Char} {count value : Nat} (digit : Nat) (h : hexValue c = some digit)
    (rest : List (Option Char)) :
    scanFrom (.inHex units count value) (some c :: rest) =
      scanFrom (.hexDigit units count value digit) rest := by
  rw [scanFrom, h]
  rfl

/-- A character with a short escape. -/
theorem scanFrom_shortEscape {c d : Char} (hu : c ≠ 'u') (h : shortEscape c = some d)
    (rest : List (Option Char)) :
    scanFrom (.inString units) (some '\\' :: some c :: rest) =
      scanFrom (.inString (units ++ [.char d])) rest := by
  have hescaped : escaped units c = some (none, .inString (units ++ [.char d])) := by
    rw [escaped, if_neg hu, h]
    rfl
  rw [scanFrom_inString (.inEscape units) rfl, scanFrom_inEscape _ hescaped]

/-- A control character without a short escape. -/
theorem scanFrom_codeEscape {n : Nat} (h : n < 0x20) (rest : List (Option Char)) :
    scanFrom (.inString units)
        (['\\', 'u', '0', '0', hexDigit (n / 16), hexDigit (n % 16)].map some ++ rest) =
      scanFrom (.inString (units ++ [.code n])) rest := by
  have hhex : ∀ k < 16, hexValue (hexDigit k) = some k := by decide
  rw [List.map_cons, List.cons_append, scanFrom_inString (.inEscape units) rfl,
    List.map_cons, List.cons_append, scanFrom_inEscape (.inHex units 4 0) rfl,
    List.map_cons, List.cons_append, scanFrom_inHex 0 rfl,
    List.map_cons, List.cons_append, State.hexDigit, if_neg (by decide),
    scanFrom_inHex 0 rfl,
    List.map_cons, List.cons_append, State.hexDigit, if_neg (by decide),
    scanFrom_inHex _ (hhex _ (by omega)),
    List.map_cons, List.cons_append, State.hexDigit, if_neg (by decide),
    scanFrom_inHex _ (hhex _ (by omega)), List.map_nil, List.nil_append, State.hexDigit,
    if_pos (by decide), show ((0 * 16 + 0) * 16 + 0) * 16 + n / 16 = n / 16 by omega,
    show n / 16 * 16 + n % 16 = n by omega]

/-- **A character in a string is scanned as a unit that stands for it.** -/
theorem exists_unit_writeChar (c : Char) : ∃ unit : StringUnit,
    (∀ units rest, scanFrom (.inString units) ((writeChar c).map some ++ rest) =
      scanFrom (.inString (units ++ [unit])) rest) ∧
      ∀ more, unitsText (unit :: more) = (unitsText more).map (c :: ·) := by
  unfold writeChar
  split
  · exact ⟨.char '"', fun _ _ ↦ scanFrom_shortEscape (by decide) rfl _, fun _ ↦ rfl⟩
  · exact ⟨.char '\\', fun _ _ ↦ scanFrom_shortEscape (by decide) rfl _, fun _ ↦ rfl⟩
  · exact ⟨.char '\n', fun _ _ ↦ scanFrom_shortEscape (by decide) rfl _, fun _ ↦ rfl⟩
  · exact ⟨.char '\r', fun _ _ ↦ scanFrom_shortEscape (by decide) rfl _, fun _ ↦ rfl⟩
  · exact ⟨.char '\t', fun _ _ ↦ scanFrom_shortEscape (by decide) rfl _, fun _ ↦ rfl⟩
  · exact ⟨.char '\x08', fun _ _ ↦ scanFrom_shortEscape (by decide) rfl _, fun _ ↦ rfl⟩
  · exact ⟨.char '\x0c', fun _ _ ↦ scanFrom_shortEscape (by decide) rfl _, fun _ ↦ rfl⟩
  · rename_i hquote hbackslash _ _ _ _ _
    split
    · rename_i hcontrol
      refine ⟨.code c.toNat, fun _ _ ↦ scanFrom_codeEscape hcontrol _, fun more ↦ ?_⟩
      have hhigh : isHighSurrogate c.toNat = false := by simp [isHighSurrogate]; omega
      have hlow : isLowSurrogate c.toNat = false := by simp [isLowSurrogate]; omega
      rw [unitsText.eq_def (.code c.toNat :: more)]
      simp only [hhigh, hlow, if_neg Bool.false_ne_true, Char.ofNat_toNat]
    · rename_i hcontrol
      refine ⟨.char c, fun units rest ↦ scanFrom_inString _ ?_ rest, fun _ ↦ rfl⟩
      rw [inside, if_neg hquote, if_neg hbackslash, if_neg hcontrol]

theorem exists_units_writeChars (s : List Char) : ∃ content : List StringUnit,
    (∀ units rest, scanFrom (.inString units) ((s.flatMap writeChar).map some ++ rest) =
      scanFrom (.inString (units ++ content)) rest) ∧ unitsText content = some s := by
  induction s with
  | nil => exact ⟨[], fun units rest ↦ by rw [List.append_nil]; rfl, rfl⟩
  | cons c more ih =>
    obtain ⟨unit, hscan, htext⟩ := exists_unit_writeChar c
    obtain ⟨content, hmore, hcontent⟩ := ih
    refine ⟨unit :: content, fun units rest ↦ ?_, by rw [htext, hcontent]; rfl⟩
    rw [List.flatMap_cons, List.map_append, List.append_assoc, hscan, hmore, List.append_assoc,
      List.singleton_append]

theorem scanFrom_endOfString (rest : List (Option Char)) :
    scanFrom (.inString units) (some '"' :: rest) =
      (scanFrom .between rest).map (.string ((unitsText units).map String.ofList) :: ·) := by
  rw [scanFrom, Option.map_eq_bind]
  rfl

/-- A string with content that stands for no text. -/
theorem scannedAs_noText : ScannedAs (writeString none) [.string none] := by
  intro rest
  have hunits : unitsText [.code 0xD800] = none := by decide
  have htext : writeString none = ['"', '\\', 'u', 'd', '8', '0', '0', '"'] := by decide
  rw [htext]
  simp only [List.map_cons, List.map_nil, List.cons_append, List.nil_append]
  rw [scanFrom_between_of_none (.inString []) rfl,
    scanFrom_inString (.inEscape []) rfl, scanFrom_inEscape (.inHex [] 4 0) rfl,
    scanFrom_inHex 13 rfl, State.hexDigit, if_neg (by decide),
    scanFrom_inHex 8 rfl, State.hexDigit, if_neg (by decide),
    scanFrom_inHex 0 rfl, State.hexDigit, if_neg (by decide),
    scanFrom_inHex 0 rfl, State.hexDigit, if_pos (by decide), List.nil_append,
    scanFrom_endOfString, hunits]
  rfl

theorem writeString_some (s : String) :
    writeString (some s) = '"' :: (s.toList.flatMap writeChar ++ ['"']) := rfl

/-- **A string is scanned as itself.** -/
theorem scannedAs_string (s : Option String) : ScannedAs (writeString s) [.string s] := by
  cases s with
  | none => exact scannedAs_noText
  | some s =>
    intro rest
    obtain ⟨content, hscan, htext⟩ := exists_units_writeChars s.toList
    rw [writeString_some, List.map_cons, List.cons_append, List.map_append, List.append_assoc,
      scanFrom_between_of_none (.inString []) rfl, hscan, List.nil_append,
      List.map_singleton, List.singleton_append, scanFrom_endOfString, htext, Option.map_some,
      String.ofList_toList]
    rfl

end Strings

/-! ## Values -/

section Layouts

variable (layout : Layout)

theorem scannedAs_lineBreak (depth : Nat) : ScannedAs (layout.lineBreak depth) [] := by
  refine ScannedAs.of_blanks ?_
  cases layout with
  | compact => exact fun c hc ↦ absurd hc List.not_mem_nil
  | pretty =>
    intro c hc
    rcases List.mem_cons.mp hc with rfl | hc
    · exact .inr (.inl rfl)
    · exact .inl (List.eq_of_mem_replicate hc)

theorem scannedAs_gap : ScannedAs layout.gap [] := by
  cases layout with
  | compact => exact .nil
  | pretty => exact .of_blank (.inl rfl)

/-- What opens an array or object or separates its parts. -/
theorem scannedAs_before_part {c : Char} {t : Token} (h : start c = some (some t, .between))
    (depth : Nat) : ScannedAs (c :: layout.lineBreak depth) [t] :=
  (ScannedAs.of_punctuation h).append (scannedAs_lineBreak layout depth)

/-- What closes an array or object. -/
theorem scannedAs_end {c : Char} {t : Token} (h : start c = some (some t, .between))
    (depth : Nat) : ScannedAs (layout.lineBreak depth ++ [c]) [t] :=
  (scannedAs_lineBreak layout depth).append (ScannedAs.of_punctuation h)

/-- A key with its colon. -/
theorem scannedAs_key (key : Option String) :
    ScannedAs (writeString key ++ ':' :: layout.gap) [.string key, .colon] := by
  have hcolon : ScannedAs [':'] [.colon] := .of_punctuation rfl
  exact (scannedAs_string key).append (hcolon.append (scannedAs_gap layout))

theorem startsApart_end {c : Char} (h : continues c = false) (depth : Nat) :
    StartsApart (layout.lineBreak depth ++ [c]) := by
  cases layout with
  | compact => exact ⟨c, [], rfl, h⟩
  | pretty => exact ⟨'\n', _, rfl, by decide⟩

theorem startsApart_writeItems (depth : Nat) (items : List Json) :
    StartsApart (writeItems layout depth items) := by
  cases items with
  | nil => exact startsApart_end layout (by decide) depth
  | cons v rest =>
    rw [writeItems, List.cons_append, List.cons_append]
    exact ⟨',', _, rfl, by decide⟩

theorem startsApart_writeMembers (depth : Nat) (members : List (Option String × Json)) :
    StartsApart (writeMembers layout depth members) := by
  cases members with
  | nil => exact startsApart_end layout (by decide) depth
  | cons member rest =>
    obtain ⟨key, v⟩ := member
    rw [writeMembers]
    exact ⟨',', _, rfl, by decide⟩

mutual

/-- **The text of a value is scanned as its tokens.** -/
theorem scannedBefore_writeAt : ∀ (depth : Nat) (v : Json),
    ScannedBefore (writeAt layout depth v) (tokens v)
  | _, .null => scannedBefore_null
  | _, .bool true => scannedBefore_true
  | _, .bool false => scannedBefore_false
  | _, .integer n => scannedBefore_integer n
  | _, .inexact => scannedBefore_inexact
  | _, .string s => (scannedAs_string s).before
  | _, .array [] => by
    have hopen : ScannedAs ['['] [.openArray] := .of_punctuation rfl
    have hclose : ScannedAs [']'] [.closeArray] := .of_punctuation rfl
    exact (hopen.append hclose).before
  | depth, .array (v :: rest) => by
    have hopen := scannedAs_before_part layout (c := '[') rfl (depth + 1)
    have hbody := (scannedBefore_writeAt (depth + 1) v).append (scannedAs_writeItems depth rest)
      (startsApart_writeItems layout depth rest)
    rw [writeAt, List.append_assoc]
    exact (hopen.append hbody).before
  | _, .object [] => by
    have hopen : ScannedAs ['\x7b'] [.openObject] := .of_punctuation rfl
    have hclose : ScannedAs ['\x7d'] [.closeObject] := .of_punctuation rfl
    exact (hopen.append hclose).before
  | depth, .object ((key, v) :: rest) => by
    have hopen := scannedAs_before_part layout (c := '\x7b') rfl (depth + 1)
    have hkey := scannedAs_key layout key
    have hbody := (scannedBefore_writeAt (depth + 1) v).append (scannedAs_writeMembers depth rest)
      (startsApart_writeMembers layout depth rest)
    have h := (hopen.append (hkey.append hbody)).before
    simpa only [writeAt, tokens, List.append_assoc, List.cons_append, List.nil_append] using h

theorem scannedAs_writeItems : ∀ (depth : Nat) (items : List Json),
    ScannedAs (writeItems layout depth items) (itemTokens items)
  | depth, [] => scannedAs_end layout rfl depth
  | depth, v :: rest => by
    have hcomma := scannedAs_before_part layout (c := ',') rfl (depth + 1)
    have hbody := (scannedBefore_writeAt (depth + 1) v).append (scannedAs_writeItems depth rest)
      (startsApart_writeItems layout depth rest)
    rw [writeItems, List.append_assoc]
    exact hcomma.append hbody

theorem scannedAs_writeMembers : ∀ (depth : Nat) (members : List (Option String × Json)),
    ScannedAs (writeMembers layout depth members) (memberTokens members)
  | depth, [] => scannedAs_end layout rfl depth
  | depth, (key, v) :: rest => by
    have hcomma := scannedAs_before_part layout (c := ',') rfl (depth + 1)
    have hkey := scannedAs_key layout key
    have hbody := (scannedBefore_writeAt (depth + 1) v).append (scannedAs_writeMembers depth rest)
      (startsApart_writeMembers layout depth rest)
    have h := hcomma.append (hkey.append hbody)
    simpa only [writeMembers, memberTokens, List.append_assoc, List.cons_append, List.nil_append]
      using h

end

/-- **A written value is scanned as its tokens**, also with blanks behind it. -/
theorem scan_write_append (v : Json) {blanks : List Char}
    (h : ∀ c ∈ blanks, c = ' ' ∨ c = '\n' ∨ c = '\r' ∨ c = '\t') :
    scan ((v.write layout ++ blanks).map some) = some (tokens v) := by
  have hblanks := ScannedAs.of_blanks h
  have hapart : Apart (blanks.map some) := fun c hc ↦ by
    rw [List.head?_map] at hc
    obtain ⟨d, hd, heq⟩ := Option.map_eq_some_iff.mp hc
    rw [← Option.some.inj heq]
    rcases h d (List.mem_of_head? hd) with rfl | rfl | rfl | rfl <;> decide
  have hend := hblanks []
  rw [List.append_nil] at hend
  rw [scan, List.map_append, write, scannedBefore_writeAt layout 0 v _ hapart, hend]
  simp [scanFrom]

end Layouts

end AnimeLookup.Json
