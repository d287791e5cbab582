/-!
# Numerals

Numbers as text: the decimal numeral of a number, the numeral padded to a width, and the numbers
that a text denotes.  Digits are the ten ASCII ones throughout.

`readUnsigned` is the reader for numbers that a person or a server typed: digits with any number
of leading zeros, perhaps a plus sign, and a value below a limit.  It refuses blanks, underscores,
an empty text and a minus sign.
-/

set_option autoImplicit false

namespace AnimeLookup.Text

/-- The decimal numeral of a number. -/
def decimal (n : Nat) : List Char := Nat.toDigits 10 n

/-- The decimal numeral of an integer, with a minus sign when it is negative. -/
def decimalInt : Int → List Char
  | .ofNat n => decimal n
  | .negSucc n => '-' :: decimal (n + 1)

/-- The text with zeros in front until it has at least `width` characters. -/
def padZeros (width : Nat) (s : List Char) : List Char :=
  List.replicate (width - s.length) '0' ++ s

/-- The numeral of an integer, filled with zeros between the sign and the digits until the whole
has at least `width` characters. -/
def paddedInt (width : Nat) : Int → List Char
  | .ofNat n => padZeros width (decimal n)
  | .negSucc n => '-' :: padZeros (width - 1) (decimal (n + 1))

/-- The value of a hexadecimal digit in either case. -/
def hexValue (c : Char) : Option Nat :=
  if c.isDigit then some (c.toNat - '0'.toNat)
  else if 'a' ≤ c ∧ c ≤ 'f' then some (c.toNat - 'a'.toNat + 10)
  else if 'A' ≤ c ∧ c ≤ 'F' then some (c.toNat - 'A'.toNat + 10)
  else none

/-- The number that hexadecimal digits denote. -/
def readHex (s : List Char) : Option Nat :=
  s.foldlM (fun n c ↦ (hexValue c).map (n * 16 + ·)) 0

/-- The number that a non-empty text of digits denotes. -/
def readDigits (s : List Char) : Option Nat :=
  if !s.isEmpty && s.all Char.isDigit then some (Nat.ofDigitChars 10 s 0) else none

/-- The text without one plus sign in front. -/
def dropPlus : List Char → List Char
  | '+' :: rest => rest
  | s => s

/-- The number below `limit` that a text denotes: digits, with a plus sign allowed in front. -/
def readUnsigned (limit : Nat) (s : List Char) : Option Nat :=
  (readDigits (dropPlus s)).filter (· < limit)

theorem all_isDigit_decimal (n : Nat) : (decimal n).all Char.isDigit = true :=
  List.all_eq_true.mpr fun _ h ↦ Nat.isDigit_of_mem_toDigits (by decide) (by decide) h

theorem decimal_ne_nil (n : Nat) : decimal n ≠ [] := Nat.toDigits_ne_nil

/-- The numeral of a number other than zero does not begin with a zero. -/
theorem head?_decimal_ne_zero {n : Nat} (h : n ≠ 0) : (decimal n).head? ≠ some '0' := by
  induction n using Nat.strongRecOn with
  | ind n ih =>
    by_cases hlt : n < 10
    · have hdigit : ∀ k, k < 10 → k ≠ 0 → Nat.digitChar k ≠ '0' := by decide
      have hone : decimal n = [Nat.digitChar n] := Nat.toDigits_of_lt_base hlt
      rw [hone, List.head?_cons]
      exact fun heq ↦ hdigit n hlt h (Option.some.inj heq)
    · have hstep := ih (n / 10) (by omega) (by omega)
      have hmore : decimal n = decimal (n / 10) ++ [Nat.digitChar (n % 10)] :=
        Nat.toDigits_of_base_le (by decide) (by omega)
      obtain ⟨c, w, hcons⟩ := List.exists_cons_of_ne_nil (decimal_ne_nil (n / 10))
      rw [hcons] at hmore hstep
      rw [hmore]
      exact hstep

end AnimeLookup.Text
