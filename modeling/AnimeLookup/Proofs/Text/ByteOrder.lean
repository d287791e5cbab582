import AnimeLookup.Proofs.Text.Encoding

/-!
# The order of texts is the order of their bytes

Texts are compared character by character, by code point.  Compared byte by byte in their encoding
they come in the same order (`encode_lt_iff`), because the encoding puts a greater code point into
greater bytes: a longer form starts with a greater byte, and within a form the bytes are the digits
of the code point, the most significant ones first.
-/

set_option autoImplicit false

namespace AnimeLookup.Text.Utf8

/-- Bytes are compared by the first one in which they differ. -/
theorem cons_lt_cons {x y : Nat} {s t : List UInt8} (hx : x < 256) (hy : y < 256) (hle : x ≤ y)
    (h : x = y → s < t) : UInt8.ofNat x :: s < UInt8.ofNat y :: t := by
  rw [List.cons_lt_cons_iff, UInt8.lt_iff_toNat_lt, toNat_ofNat_of_lt hx, toNat_ofNat_of_lt hy]
  rcases Nat.lt_or_eq_of_le hle with hlt | heq
  · exact .inl hlt
  · exact .inr ⟨congrArg UInt8.ofNat heq, h heq⟩

theorem cons_lt_cons_of_lt {x y : Nat} (hx : x < 256) (hy : y < 256) (hlt : x < y)
    (s t : List UInt8) : UInt8.ofNat x :: s < UInt8.ofNat y :: t :=
  cons_lt_cons hx hy (Nat.le_of_lt hlt) fun heq ↦ absurd heq (Nat.ne_of_lt hlt)

/-! ## Characters -/

section Forms

variable {c d : Char}

theorem encodeChar_one (h : c.toNat < 0x80) :
    String.utf8EncodeChar c = [UInt8.ofNat c.toNat] := by
  rw [String.utf8EncodeChar, show c.val.toNat = c.toNat from rfl, if_pos (by omega)]

theorem encodeChar_two (h : 0x80 ≤ c.toNat ∧ c.toNat < 0x800) :
    String.utf8EncodeChar c =
      [UInt8.ofNat (c.toNat / 64 % 32 + 192), UInt8.ofNat (c.toNat % 64 + 128)] := by
  rw [String.utf8EncodeChar, show c.val.toNat = c.toNat from rfl, if_neg (by omega),
    if_pos (by omega)]

theorem encodeChar_three (h : 0x800 ≤ c.toNat ∧ c.toNat < 0x10000) :
    String.utf8EncodeChar c =
      [UInt8.ofNat (c.toNat / 4096 % 16 + 224), UInt8.ofNat (c.toNat / 64 % 64 + 128),
        UInt8.ofNat (c.toNat % 64 + 128)] := by
  rw [String.utf8EncodeChar, show c.val.toNat = c.toNat from rfl, if_neg (by omega),
    if_neg (by omega), if_pos (by omega)]

theorem encodeChar_four (h : 0x10000 ≤ c.toNat) :
    String.utf8EncodeChar c =
      [UInt8.ofNat (c.toNat / 262144 % 8 + 240), UInt8.ofNat (c.toNat / 4096 % 64 + 128),
        UInt8.ofNat (c.toNat / 64 % 64 + 128), UInt8.ofNat (c.toNat % 64 + 128)] := by
  rw [String.utf8EncodeChar, show c.val.toNat = c.toNat from rfl, if_neg (by omega),
    if_neg (by omega), if_neg (by omega)]

theorem form_cases (n : Nat) :
    n < 0x80 ∨ (0x80 ≤ n ∧ n < 0x800) ∨ (0x800 ≤ n ∧ n < 0x10000) ∨ 0x10000 ≤ n := by
  omega

/-- **A smaller character has smaller bytes**, whatever follows. -/
theorem encodeChar_append_lt (h : c < d) (s t : List UInt8) :
    String.utf8EncodeChar c ++ s < String.utf8EncodeChar d ++ t := by
  have hlt : c.toNat < d.toNat := h
  have hmax := codePoint_lt d
  -- Different forms differ in the first byte, and characters of one form in some digit.
  rcases form_cases c.toNat with hc | hc | hc | hc
  · rw [encodeChar_one hc]
    rcases form_cases d.toNat with hd | hd | hd | hd
    · rw [encodeChar_one hd]
      exact cons_lt_cons_of_lt (by omega) (by omega) hlt s t
    · rw [encodeChar_two hd]
      exact cons_lt_cons_of_lt (by omega) (by omega) (by omega) _ _
    · rw [encodeChar_three hd]
      exact cons_lt_cons_of_lt (by omega) (by omega) (by omega) _ _
    · rw [encodeChar_four hd]
      exact cons_lt_cons_of_lt (by omega) (by omega) (by omega) _ _
  · rw [encodeChar_two hc]
    rcases form_cases d.toNat with hd | hd | hd | hd
    · omega
    · rw [encodeChar_two hd]
      exact cons_lt_cons (by omega) (by omega) (by omega) fun _ ↦
        cons_lt_cons_of_lt (by omega) (by omega) (by omega) s t
    · rw [encodeChar_three hd]
      exact cons_lt_cons_of_lt (by omega) (by omega) (by omega) _ _
    · rw [encodeChar_four hd]
      exact cons_lt_cons_of_lt (by omega) (by omega) (by omega) _ _
  · rw [encodeChar_three hc]
    rcases form_cases d.toNat with hd | hd | hd | hd
    · omega
    · omega
    · rw [encodeChar_three hd]
      exact cons_lt_cons (by omega) (by omega) (by omega) fun _ ↦
        cons_lt_cons (by omega) (by omega) (by omega) fun _ ↦
          cons_lt_cons_of_lt (by omega) (by omega) (by omega) s t
    · rw [encodeChar_four hd]
      exact cons_lt_cons_of_lt (by omega) (by omega) (by omega) _ _
  · rw [encodeChar_four hc, encodeChar_four (by omega)]
    exact cons_lt_cons (by omega) (by omega) (by omega) fun _ ↦
      cons_lt_cons (by omega) (by omega) (by omega) fun _ ↦
        cons_lt_cons (by omega) (by omega) (by omega) fun _ ↦
          cons_lt_cons_of_lt (by omega) (by omega) (by omega) s t

end Forms

/-! ## Texts -/

theorem encode_lt {s t : List Char} (h : s < t) : encode s < encode t := by
  induction h with
  | @nil c t =>
    obtain ⟨b, more, hencode, -⟩ := charAt_encode c []
    rw [encode_cons, hencode]
    exact List.nil_lt_cons b _
  | rel h =>
    rw [encode_cons, encode_cons]
    exact encodeChar_append_lt h _ _
  | cons _ ih =>
    rw [encode_cons, encode_cons]
    exact List.append_left_lt ih

/-- **Texts come in the order of their bytes.** -/
theorem encode_lt_iff {s t : List Char} : encode s < encode t ↔ s < t := by
  refine ⟨fun h ↦ ?_, encode_lt⟩
  refine Decidable.byContradiction fun hnot ↦ ?_
  rcases List.le_iff_lt_or_eq.mp (List.not_lt.mp hnot) with hlt | rfl
  · exact List.lt_asymm (encode_lt hlt) h
  · exact List.lt_irrefl _ h

end AnimeLookup.Text.Utf8
