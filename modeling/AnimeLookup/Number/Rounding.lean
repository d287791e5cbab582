import AnimeLookup.Text.Numeral

/-!
# Rounding

Fractions as exact numbers, and the two ways in which the program rounds them: to an integer or to
decimal places for printing, and to a number of binary digits where a quantity is kept as a
floating-point number.  A value half-way between two neighbours goes to the even one in both.

Everything here is arithmetic on natural numbers, so what is printed is the exact value of the
floating-point number, correctly rounded once.
-/

set_option autoImplicit false

namespace AnimeLookup.Number

open Text

/-- A fraction that is not negative. -/
structure Fraction where
  /-- The numerator. -/
  num : Nat
  /-- The denominator, which is not zero for a number. -/
  den : Nat

/-- The natural number as a fraction. -/
def Fraction.ofNat (n : Nat) : Fraction := ⟨n, 1⟩

/-- The sum of two fractions. -/
def Fraction.add (x y : Fraction) : Fraction := ⟨x.num * y.den + y.num * x.den, x.den * y.den⟩

/-- The fraction divided by a natural number. -/
def Fraction.divNat (x : Fraction) (n : Nat) : Fraction := ⟨x.num, x.den * n⟩

/-- The nearest integer, the even one of two that are equally near. -/
def Fraction.round (x : Fraction) : Nat :=
  let q := x.num / x.den
  let r := x.num % x.den
  if 2 * r < x.den then q else if x.den < 2 * r then q + 1 else q + q % 2

/-- The text of a fraction with the given number of decimal places. -/
def Fraction.fixed (places : Nat) (x : Fraction) : List Char :=
  let n := Fraction.round ⟨x.num * Nat.pow 10 places, x.den⟩
  decimal (n / Nat.pow 10 places) ++ '.' :: padZeros places (decimal (n % Nat.pow 10 places))

/-! ## Binary digits -/

/-- A number of the form `mantissa * 2 ^ exponent`. -/
structure Binary where
  /-- The significant digits. -/
  mantissa : Nat
  /-- The power of two that they count. -/
  exponent : Int

/-- The value of a binary number. -/
def Binary.toFraction (b : Binary) : Fraction :=
  ⟨b.mantissa * Nat.pow 2 b.exponent.toNat, Nat.pow 2 (-b.exponent).toNat⟩

/-- The fraction divided by a power of two. -/
def Fraction.shift (x : Fraction) (exponent : Int) : Fraction :=
  ⟨x.num * Nat.pow 2 (-exponent).toNat, x.den * Nat.pow 2 exponent.toNat⟩

/-- The exponent at which the integer part of a positive fraction has the given number of binary
digits. -/
def Fraction.exponentFor (bits : Nat) (x : Fraction) : Int :=
  let low : Int := (x.num.log2 : Int) - x.den.log2 - bits
  let y := x.shift low
  if y.den * Nat.pow 2 bits ≤ y.num then low + 1 else low

/-- **The nearest binary number with the given number of significant digits**, the one with an
even mantissa of two that are equally near. -/
def Fraction.toBinary (bits : Nat) (x : Fraction) : Binary :=
  if x.num = 0 then ⟨0, 0⟩
  else
    let exponent := x.exponentFor bits
    let mantissa := (x.shift exponent).round
    if mantissa = Nat.pow 2 bits then ⟨Nat.pow 2 (bits - 1), exponent + 1⟩ else ⟨mantissa, exponent⟩

/-- The number of significant digits of a floating-point number in single precision. -/
def single : Nat := 24

/-- The number of significant digits of a floating-point number in double precision. -/
def double : Nat := 53

/-- The fraction as it is kept in the given precision. -/
def Fraction.rounded (bits : Nat) (x : Fraction) : Fraction := (x.toBinary bits).toFraction

end AnimeLookup.Number
