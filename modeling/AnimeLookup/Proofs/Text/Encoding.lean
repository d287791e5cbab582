import AnimeLookup.Text.Utf8

/-!
# Encoding a text and reading it back

The reader of bytes and the encoding agree: the bytes of a text are read as that text, whatever
characters it has (`units_encode`).

A character takes between one and four bytes.  For each of the four forms there is a lemma about
what the reader makes of it: it knows the form by the first byte, puts the bits of the others
behind its own, and finds a code point that is not too small for the form.
-/

set_option autoImplicit false

namespace AnimeLookup.Text.Utf8

/-! ## Bytes -/

theorem toNat_ofNat_of_lt {n : Nat} (h : n < 256) : (UInt8.ofNat n).toNat = n := by
  rw [UInt8.toNat_ofNat', Nat.mod_eq_of_lt h]

theorem tailBits_ofNat {n : Nat} (h : n < 64) : tailBits (UInt8.ofNat (n + 128)) = some n := by
  rw [tailBits, toNat_ofNat_of_lt (by omega), if_pos (by omega), Nat.add_sub_cancel]

theorem charFrom_toNat {least n : Nat} {c : Char} (hn : n = c.toNat) (h : least ≤ c.toNat) :
    charFrom least n = some c := by
  rw [hn, charFrom, if_pos ⟨h, c.valid⟩, Char.ofNat_toNat]

/-- The last code point is `0x10FFFF`. -/
theorem codePoint_lt (c : Char) : c.toNat < 0x110000 := by
  rcases c.valid with h | ⟨-, h⟩
  · exact Nat.lt_trans h (by decide)
  · exact h

/-! ## The four forms -/

section Forms

variable {c : Char} {i j k l : Nat} (rest : List UInt8)

theorem charAt_one (h : c.toNat < 0x80) : charAt (UInt8.ofNat c.toNat) rest = some (c, 0) := by
  unfold charAt
  simp only [toNat_ofNat_of_lt (Nat.lt_trans h (by decide)), h, if_true, Char.ofNat_toNat]

theorem charAt_two (hi : i < 32) (hj : j < 64) (hc : i * 64 + j = c.toNat)
    (hleast : 0x80 ≤ c.toNat) :
    charAt (UInt8.ofNat (i + 192)) (UInt8.ofNat (j + 128) :: rest) = some (c, 1) := by
  unfold charAt
  simp only [toNat_ofNat_of_lt (show i + 192 < 256 by omega), tailBits_ofNat hj]
  rw [if_neg (by omega), if_neg (by omega), if_pos (by omega)]
  simp only [Option.bind_eq_bind, Option.bind_some, Nat.add_sub_cancel, charFrom_toNat hc hleast]
  rfl

theorem charAt_three (hi : i < 16) (hj : j < 64) (hk : k < 64)
    (hc : (i * 64 + j) * 64 + k = c.toNat) (hleast : 0x800 ≤ c.toNat) :
    charAt (UInt8.ofNat (i + 224)) (UInt8.ofNat (j + 128) :: UInt8.ofNat (k + 128) :: rest) =
      some (c, 2) := by
  unfold charAt
  simp only [toNat_ofNat_of_lt (show i + 224 < 256 by omega), tailBits_ofNat hj, tailBits_ofNat hk]
  rw [if_neg (by omega), if_neg (by omega), if_neg (by omega), if_pos (by omega)]
  simp only [Option.bind_eq_bind, Option.bind_some, Nat.add_sub_cancel, charFrom_toNat hc hleast]
  rfl

theorem charAt_four (hi : i < 8) (hj : j < 64) (hk : k < 64) (hl : l < 64)
    (hc : ((i * 64 + j) * 64 + k) * 64 + l = c.toNat) (hleast : 0x10000 ≤ c.toNat) :
    charAt (UInt8.ofNat (i + 240)) (UInt8.ofNat (j + 128) :: UInt8.ofNat (k + 128) ::
      UInt8.ofNat (l + 128) :: rest) = some (c, 3) := by
  unfold charAt
  simp only [toNat_ofNat_of_lt (show i + 240 < 256 by omega), tailBits_ofNat hj, tailBits_ofNat hk,
    tailBits_ofNat hl]
  rw [if_neg (by omega), if_neg (by omega), if_neg (by omega), if_neg (by omega), if_pos (by omega)]
  simp only [Option.bind_eq_bind, Option.bind_some, Nat.add_sub_cancel, charFrom_toNat hc hleast]
  rfl

end Forms

/-- **The bytes of a character are read as that character**, whatever follows them. -/
theorem charAt_encode (c : Char) (rest : List UInt8) :
    ∃ b more, String.utf8EncodeChar c = b :: more ∧
      charAt b (more ++ rest) = some (c, more.length) := by
  have hlt := codePoint_lt c
  rw [String.utf8EncodeChar, show c.val.toNat = c.toNat from rfl]
  split
  · exact ⟨_, _, rfl, charAt_one rest (by omega)⟩
  · split
    · exact ⟨_, _, rfl, charAt_two rest (by omega) (by omega) (by omega) (by omega)⟩
    · split
      · exact ⟨_, _, rfl, charAt_three rest (by omega) (by omega) (by omega) (by omega) (by omega)⟩
      · exact ⟨_, _, rfl, charAt_four rest (by omega) (by omega) (by omega) (by omega) (by omega)
          (by omega)⟩

/-! ## Texts -/

theorem encode_cons (c : Char) (s : List Char) :
    encode (c :: s) = String.utf8EncodeChar c ++ encode s :=
  List.flatMap_cons

theorem unitsAfter_append (skipped rest : List UInt8) :
    unitsAfter skipped.length (skipped ++ rest) = units rest := by
  induction skipped with
  | nil => rfl
  | cons b more ih => exact ih

theorem units_encodeChar_append (c : Char) (rest : List UInt8) :
    units (String.utf8EncodeChar c ++ rest) = some c :: units rest := by
  obtain ⟨b, more, hencode, hchar⟩ := charAt_encode c rest
  rw [hencode, List.cons_append, units, unitsAfter, hchar]
  exact congrArg (some c :: ·) (unitsAfter_append more rest)

/-- **The bytes of a text are read as that text.** -/
theorem units_encode (s : List Char) : units (encode s) = s.map some := by
  induction s with
  | nil => rfl
  | cons c rest ih =>
    rw [encode_cons, units_encodeChar_append, ih, List.map_cons]

theorem text_encode (s : List Char) : text (encode s) = some s := by
  rw [text, units_encode]
  induction s with
  | nil => rfl
  | cons c rest ih =>
    rw [List.map_cons, List.mapM_cons, ih]
    rfl

end AnimeLookup.Text.Utf8
