/-!
# Reading bytes as UTF-8

Texts from outside arrive as bytes.  `Utf8.units` reads them from the left: a byte sequence that
encodes a character becomes that character, and a byte that belongs to no such sequence becomes
`none` by itself.  Nothing is lost and nothing is guessed, so a reader can refuse a text at the
place where it is broken, or accept it if that place does not matter.  A text is well formed when
every unit is a character (`Utf8.text`).

An encoding that is longer than necessary, or of a surrogate, encodes no character.
-/

set_option autoImplicit false

namespace AnimeLookup.Text.Utf8

/-- The value of a continuation byte, six bits. -/
def tailBits (b : UInt8) : Option Nat :=
  if 0x80 ≤ b.toNat ∧ b.toNat < 0xC0 then some (b.toNat - 0x80) else none

/-- The character with the given code point, if there is one and it is at least `least`. -/
def charFrom (least code : Nat) : Option Char :=
  if least ≤ code ∧ code.isValidChar then some (Char.ofNat code) else none

/-- The character whose encoding starts with the byte `b` and goes on in `rest`, with the number
of bytes it takes from `rest`. -/
def charAt (b : UInt8) (rest : List UInt8) : Option (Char × Nat) :=
  let n := b.toNat
  if n < 0x80 then some (Char.ofNat n, 0)
  else if n < 0xC0 then none
  else if n < 0xE0 then
    match rest with
    | b₁ :: _ => do
      let c ← charFrom 0x80 ((n - 0xC0) * 64 + (← tailBits b₁))
      return (c, 1)
    | _ => none
  else if n < 0xF0 then
    match rest with
    | b₁ :: b₂ :: _ => do
      let c ← charFrom 0x800 (((n - 0xE0) * 64 + (← tailBits b₁)) * 64 + (← tailBits b₂))
      return (c, 2)
    | _ => none
  else if n < 0xF8 then
    match rest with
    | b₁ :: b₂ :: b₃ :: _ => do
      let code := (((n - 0xF0) * 64 + (← tailBits b₁)) * 64 + (← tailBits b₂)) * 64
      let c ← charFrom 0x10000 (code + (← tailBits b₃))
      return (c, 3)
    | _ => none
  else none

/-- `units`, with `skip` bytes of a character still to be passed over. -/
def unitsAfter : Nat → List UInt8 → List (Option Char)
  | _, [] => []
  | skip + 1, _ :: rest => unitsAfter skip rest
  | 0, b :: rest =>
    match charAt b rest with
    | some (c, n) => some c :: unitsAfter n rest
    | none => none :: unitsAfter 0 rest

/-- **The characters that bytes encode**, with `none` for every byte that is part of none. -/
def units (bytes : List UInt8) : List (Option Char) := unitsAfter 0 bytes

/-- The text that bytes encode, if all of them are part of a character. -/
def text (bytes : List UInt8) : Option (List Char) := (units bytes).mapM id

/-- The bytes that encode a text. -/
def encode (s : List Char) : List UInt8 := s.flatMap String.utf8EncodeChar

end AnimeLookup.Text.Utf8
