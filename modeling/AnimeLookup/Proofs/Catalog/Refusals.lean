import AnimeLookup.Catalog.RateLimit
import AnimeLookup.Proofs.Text.Numerals
import Mathlib.Data.List.Forall2

/-!
# What a refusal says

A catalog that refuses a request for now may say how long to wait.  `AsksFor` says what a value asks
for: a number of seconds, or a date, which is met with a fixed wait, or nothing.  `Announces` says
what is made of all the headers of an answer: only the first one of the right name counts, and it
counts even if its value is no text, so that a later one is never looked at.

For every status, all headers and every value the functions of the library say the same
(`checkRateLimit_eq_iff`).

A number that does not fit into 64 bits is none.  Nor does it look like a date, since it has neither
a comma nor a letter in it, so it asks for nothing at all.
-/

set_option autoImplicit false

namespace AnimeLookup.Catalog

open Text

/-! ## What a value asks for -/

/-- A value that looks like a date. -/
def LooksLikeDate (value : List Char) : Prop := ',' ∈ value ∨ "GMT".toList <:+: value

/-- **The seconds that a value asks to wait.** -/
inductive AsksFor (value : List Char) : Option ℕ → Prop
  /-- It is a number of seconds, apart from the white space around it. -/
  | seconds {n : ℕ} (hnumber : IsNumeral (trim value) n) (hfits : n < UInt64.size) :
      AsksFor value (some n)
  /-- It is no such number, but looks like a date. -/
  | date (hnone : ∀ n < UInt64.size, ¬ IsNumeral (trim value) n) (hdate : LooksLikeDate value) :
      AsksFor value (some 5)
  /-- It is neither. -/
  | nothing (hnone : ∀ n < UInt64.size, ¬ IsNumeral (trim value) n)
      (hdate : ¬ LooksLikeDate value) : AsksFor value none

theorem looksLikeDate_iff (value : List Char) :
    (value.contains ',' || occurs "GMT".toList value) = true ↔ LooksLikeDate value := by
  rw [Bool.or_eq_true, List.contains_iff_mem, occurs_iff, LooksLikeDate]

/-- **The reader of values finds what they ask for.** -/
theorem parseRetryAfter_eq_iff (value : List Char) (wait : Option ℕ) :
    parseRetryAfter value = wait ↔ AsksFor value wait := by
  constructor
  · rintro rfl
    rw [parseRetryAfter]
    split
    · rename_i secs hread
      obtain ⟨hnumber, hfits⟩ := (readUnsigned_eq_some_iff _ _ _).mp hread
      exact .seconds hnumber hfits
    · rename_i hread
      have hnone := (readUnsigned_eq_none_iff _ _).mp hread
      split
      · rename_i hdate
        exact .date hnone ((looksLikeDate_iff value).mp hdate)
      · rename_i hdate
        exact .nothing hnone fun h ↦ hdate ((looksLikeDate_iff value).mpr h)
  · intro h
    cases h with
    | seconds hnumber hfits =>
      rw [parseRetryAfter, (readUnsigned_eq_some_iff _ _ _).mpr ⟨hnumber, hfits⟩]
    | date hnone hdate =>
      rw [parseRetryAfter, (readUnsigned_eq_none_iff _ _).mpr hnone]
      exact if_pos ((looksLikeDate_iff value).mpr hdate)
    | nothing hnone hdate =>
      rw [parseRetryAfter, (readUnsigned_eq_none_iff _ _).mpr hnone]
      exact if_neg fun h ↦ hdate ((looksLikeDate_iff value).mp h)

/-- A numeral does not look like a date. -/
theorem not_looksLikeDate {value : List Char} {n : ℕ} (h : IsNumeral (trim value) n) :
    ¬ LooksLikeDate value := by
  have hnot {c : Char} (hblank : isBlank c = false) (hplus : c ≠ '+') (hdigit : c.isDigit = false) :
      c ∉ value := by
    intro hc
    rcases h.of_mem (mem_trim_of_mem hblank hc) with hsign | hmem
    · exact hplus hsign
    · exact Bool.false_ne_true (hdigit.symm.trans hmem)
  rintro (hcomma | hzone)
  · exact hnot rfl (by decide) rfl hcomma
  · exact hnot (c := 'G') rfl (by decide) rfl (hzone.subset (by decide))

/-- **A number that does not fit into 64 bits asks for nothing.** -/
theorem parseRetryAfter_of_large {value : List Char} {n : ℕ} (h : IsNumeral (trim value) n)
    (hlarge : UInt64.size ≤ n) : parseRetryAfter value = none := by
  have hnone : ∀ m < UInt64.size, ¬ IsNumeral (trim value) m := fun m hm hnumber ↦
    absurd (hnumber.unique h ▸ hm) (Nat.not_lt.mpr hlarge)
  exact (parseRetryAfter_eq_iff value none).mpr (.nothing hnone (not_looksLikeDate h))

/-! ## The names of headers -/

/-- **A letter in either case**: the letter itself, or its capital, which ASCII has 32 places before
it. -/
def InEitherCase (c letter : Char) : Prop :=
  c = letter ∨ c.isUpper = true ∧ c.toNat + 32 = letter.toNat

/-- **A header of a name**, whatever the case of its letters. -/
def Header.HasName (h : Header) (name : String) : Prop :=
  List.Forall₂ InEitherCase h.name.toList name.toList

theorem toLower_of_not_isUpper {c : Char} (h : c.isUpper = false) : c.toLower = c :=
  dif_neg (of_decide_eq_false h)

theorem toNat_toLower_of_isUpper {c : Char} (h : c.isUpper = true) :
    c.toLower.toNat = c.toNat + 32 := by
  have hval : 'A'.val ≤ c.val ∧ c.val ≤ 'Z'.val := of_decide_eq_true h
  have hhigh : c.toNat ≤ 90 := UInt32.le_iff_toNat_le.mp hval.2
  have hlower : c.toLower.toNat = (c.val + 32).toNat := congrArg Char.toNat (dif_pos hval)
  rw [hlower, UInt32.toNat_add]
  refine Nat.mod_eq_of_lt ?_
  show c.toNat + 32 < 2 ^ 32
  omega

/-- The small form of a character is a letter exactly if it is that letter in either case. -/
theorem toLower_eq_iff {c letter : Char} (h : letter.isUpper = false) :
    c.toLower = letter ↔ InEitherCase c letter := by
  cases hc : c.isUpper with
  | false =>
    rw [toLower_of_not_isUpper hc, InEitherCase, hc]
    simp
  | true =>
    have hne : c ≠ letter := by
      rintro rfl
      exact Bool.false_ne_true (h.symm.trans hc)
    rw [← Char.toNat_inj, toNat_toLower_of_isUpper hc, InEitherCase, hc]
    simp [hne]

theorem map_toLower_eq_iff {s name : List Char} (h : ∀ c ∈ name, c.isUpper = false) :
    s.map Char.toLower = name ↔ List.Forall₂ InEitherCase s name := by
  induction s generalizing name with
  | nil => cases name <;> simp
  | cons c rest ih =>
    cases name with
    | nil => simp
    | cons letter more =>
      rw [List.forall_mem_cons] at h
      rw [List.map_cons, List.cons.injEq, List.forall₂_cons, toLower_eq_iff h.1, ih h.2]

theorem isNamed_iff {name : String} (hname : ∀ c ∈ name.toList, c.isUpper = false)
    (h : Header) : h.isNamed name = true ↔ h.HasName name := by
  rw [Header.isNamed, beq_iff_eq, Header.HasName, map_toLower_eq_iff hname]

/-- The name of the header that matters has small letters only. -/
theorem isNamed_retryAfter_iff (h : Header) :
    h.isNamed "retry-after" = true ↔ h.HasName "retry-after" := by
  have hsmall : ("retry-after".toList.all fun c ↦ !c.isUpper) = true := by decide
  exact isNamed_iff (fun c hc ↦ by simpa using List.all_eq_true.mp hsmall c hc) h

/-- **The first header of a name** in a list. -/
def FirstNamed (headers : List Header) (name : String) (h : Header) : Prop :=
  ∃ before after, headers = before ++ h :: after ∧ h.HasName name ∧
    ∀ g ∈ before, ¬ g.HasName name

theorem find?_eq_some_iff_firstNamed (headers : List Header) (h : Header) :
    headers.find? (·.isNamed "retry-after") = some h ↔ FirstNamed headers "retry-after" h := by
  simp only [List.find?_eq_some_iff_append, FirstNamed, Bool.not_eq_true', ← Bool.not_eq_true,
    isNamed_retryAfter_iff]
  constructor
  · rintro ⟨hname, before, after, hsplit, hfirst⟩
    exact ⟨before, after, hsplit, hname, hfirst⟩
  · rintro ⟨before, after, hsplit, hname, hfirst⟩
    exact ⟨hname, before, after, hsplit, hfirst⟩

theorem find?_eq_none_iff_noneNamed (headers : List Header) :
    headers.find? (·.isNamed "retry-after") = none ↔
      ∀ h ∈ headers, ¬ h.HasName "retry-after" := by
  simp only [List.find?_eq_none, isNamed_retryAfter_iff]

/-! ## The values of headers -/

/-- A byte of a value that is text: a visible ASCII character, a space or a tab. -/
def IsTextByte (b : UInt8) : Prop := b.toNat = 9 ∨ 32 ≤ b.toNat ∧ b.toNat ≤ 126

theorem isHeaderTextByte_iff (b : UInt8) : isHeaderTextByte b = true ↔ IsTextByte b := by
  rw [isHeaderTextByte, Bool.or_eq_true, Bool.and_eq_true, beq_iff_eq, decide_eq_true_iff,
    decide_eq_true_iff, IsTextByte, Nat.lt_succ_iff]

/-- **A header with a text for a value**: all its bytes are text, and they are the numbers of the
characters. -/
def Header.Spells (h : Header) (value : List Char) : Prop :=
  (∀ b ∈ h.value, IsTextByte b) ∧ value.map Char.toNat = h.value.map UInt8.toNat

theorem toNat_ofNat_of_isTextByte {b : UInt8} (h : IsTextByte b) :
    (Char.ofNat b.toNat).toNat = b.toNat := by
  have hlt : b.toNat < 0xD800 := by
    rw [IsTextByte] at h
    omega
  rw [Char.ofNat, dif_pos (.inl hlt)]
  rfl

theorem text?_eq_some_iff (h : Header) (value : List Char) :
    h.text? = some value ↔ h.Spells value := by
  simp only [Header.text?, Option.ite_none_right_eq_some, List.all_eq_true, isHeaderTextByte_iff,
    Option.some.injEq, Header.Spells]
  refine and_congr_right fun hbytes ↦ ?_
  have hnumbers : (h.value.map fun b ↦ Char.ofNat b.toNat).map Char.toNat =
      h.value.map UInt8.toNat := by
    rw [List.map_map]
    exact List.map_congr_left fun b hb ↦ toNat_ofNat_of_isTextByte (hbytes b hb)
  rw [← hnumbers, List.map_inj_right fun _ _ ↦ Char.toNat_inj.mp, eq_comm]

theorem text?_eq_none_iff (h : Header) : h.text? = none ↔ ∃ b ∈ h.value, ¬ IsTextByte b := by
  simp only [Header.text?, ite_eq_right_iff, List.all_eq_true, isHeaderTextByte_iff,
    reduceCtorEq, imp_false, not_forall, exists_prop]

/-! ## What the headers ask for -/

/-- **The milliseconds that the headers of an answer ask to wait.** -/
inductive Announces (headers : List Header) : Option ℕ → Prop
  /-- There is no header that says anything. -/
  | absent (h : ∀ g ∈ headers, ¬ g.HasName "retry-after") : Announces headers none
  /-- The first one that could is no text, whatever the others are. -/
  | unreadable {h : Header} {b : UInt8} (hfirst : FirstNamed headers "retry-after" h)
      (hb : b ∈ h.value) (hbyte : ¬ IsTextByte b) : Announces headers none
  /-- What the first one asks for is what counts. -/
  | read {h : Header} {value : List Char} {wait : Option ℕ}
      (hfirst : FirstNamed headers "retry-after" h) (hvalue : h.Spells value)
      (hwait : AsksFor value wait) : Announces headers (wait.map (· * 1000))

theorem retryAfterMs_eq (headers : List Header) :
    retryAfterMs headers = ((headers.find? (·.isNamed "retry-after")).bind Header.text?).bind
      fun value ↦ (parseRetryAfter value).map (· * 1000) := by
  rw [retryAfterMs]
  cases headers.find? (·.isNamed "retry-after") with
  | none => rfl
  | some h =>
    show (h.text?.bind fun value ↦ (parseRetryAfter value).bind fun secs ↦ some (secs * 1000)) =
      h.text?.bind fun value ↦ (parseRetryAfter value).map (· * 1000)
    refine congrArg h.text?.bind (funext fun value ↦ ?_)
    cases parseRetryAfter value <;> rfl

/-- **The reader of headers finds what they ask for.** -/
theorem retryAfterMs_eq_iff (headers : List Header) (wait : Option ℕ) :
    retryAfterMs headers = wait ↔ Announces headers wait := by
  rw [retryAfterMs_eq]
  constructor
  · rintro rfl
    cases hfind : headers.find? (·.isNamed "retry-after") with
    | none => exact .absent ((find?_eq_none_iff_noneNamed headers).mp hfind)
    | some h =>
      have hfirst := (find?_eq_some_iff_firstNamed headers h).mp hfind
      rw [Option.bind_some]
      cases htext : h.text? with
      | none =>
        obtain ⟨b, hb, hbyte⟩ := (text?_eq_none_iff h).mp htext
        exact .unreadable hfirst hb hbyte
      | some value =>
        exact .read hfirst ((text?_eq_some_iff h value).mp htext)
          ((parseRetryAfter_eq_iff value _).mp rfl)
  · intro h
    cases h with
    | absent hnone =>
      rw [(find?_eq_none_iff_noneNamed headers).mpr hnone]
      rfl
    | unreadable hfirst hb hbyte =>
      rw [(find?_eq_some_iff_firstNamed headers _).mpr hfirst, Option.bind_some,
        (text?_eq_none_iff _).mpr ⟨_, hb, hbyte⟩]
      rfl
    | read hfirst hvalue hwait =>
      rw [(find?_eq_some_iff_firstNamed headers _).mpr hfirst, Option.bind_some,
        (text?_eq_some_iff _ _).mpr hvalue, Option.bind_some,
        (parseRetryAfter_eq_iff _ _).mpr hwait]

/-- **What a refusal says.**  An answer is a refusal exactly if its status is 429, and then the wait
is what its headers announce.  A value asks for the seconds that it is a number of, for a fixed wait
if it looks like a date, and else for nothing; so do numbers that do not fit into 64 bits. -/
theorem checkRateLimit_eq_iff :
    (∀ (status : ℕ) (headers : List Header) (r : Except CatalogError Unit),
      checkRateLimit status headers = r ↔
        status ≠ 429 ∧ r = .ok () ∨
          status = 429 ∧ ∃ wait, Announces headers wait ∧ r = .error (.rateLimited wait)) ∧
      (∀ (value : List Char) (wait : Option ℕ),
        parseRetryAfter value = wait ↔ AsksFor value wait) ∧
      ∀ (value : List Char) (n : ℕ), IsNumeral (trim value) n → UInt64.size ≤ n →
        parseRetryAfter value = none := by
  refine ⟨fun status headers r ↦ ?_, parseRetryAfter_eq_iff, fun _ _ ↦ parseRetryAfter_of_large⟩
  rw [checkRateLimit]
  split
  · rename_i hstatus
    simp only [hstatus, ← retryAfterMs_eq_iff]
    simp [eq_comm]
  · rename_i hstatus
    simp [hstatus, eq_comm]

/-- A header whose value is no text hides a later one, and the first number that does not fit into
64 bits asks for nothing. -/
theorem checkRateLimit_hidden_header :
    let broken : Header := ⟨"Retry-AFTER", [0x33, 0xFF]⟩
    let usable : Header := ⟨"retry-after", [0x33]⟩
    checkRateLimit 429 [broken, usable] = .error (.rateLimited none) ∧
      checkRateLimit 503 [usable] = .ok () ∧
      IsNumeral (trim " +018446744073709551616".toList) UInt64.size ∧
      parseRetryAfter " +018446744073709551616".toList = none := by
  intro broken usable
  obtain ⟨hcheck, -, hlarge⟩ := checkRateLimit_eq_iff
  have hname : Header.HasName ⟨"Retry-AFTER", [0x33, 0xFF]⟩ "retry-after" :=
    (isNamed_retryAfter_iff _).mp (by decide)
  have hfirst : FirstNamed [broken, usable] "retry-after" broken :=
    ⟨[], [usable], rfl, hname, nofun⟩
  have hbyte : ¬ IsTextByte 0xFF := fun h ↦ absurd h (by simp [IsTextByte])
  have hnumber : IsNumeral (trim " +018446744073709551616".toList) UInt64.size :=
    ⟨"018446744073709551616".toList, .inr rfl, List.cons_ne_nil _ _, List.all_eq_true.mp rfl, rfl⟩
  refine ⟨?_, ?_, hnumber, hlarge _ _ hnumber (Nat.le_refl _)⟩
  · exact (hcheck 429 _ _).mpr (.inr ⟨rfl, none, .unreadable hfirst (by simp [broken]) hbyte, rfl⟩)
  · exact (hcheck 503 _ _).mpr (.inl ⟨by decide, rfl⟩)

end AnimeLookup.Catalog
