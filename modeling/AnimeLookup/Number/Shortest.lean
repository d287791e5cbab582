import AnimeLookup.Number.Rounding

/-!
# The shortest decimal of a floating-point number

A floating-point number is printed with the fewest decimal digits from which it can be read back.
The decimals that read back as a binary number are those nearer to it than to its neighbours, an
interval around it.  `shortest` looks on coarser to finer decimal grids (one significant digit,
two, and so on) for a grid point in the interval.  On each grid only the two points next to the
number have to be tried: if any point of a grid lies in the interval, one of those two does.  Of
two points that both do, the nearer one is taken, and the larger one if they are equally near.

The text is positional, never in exponent notation, and has no fraction if the number is whole.
-/

set_option autoImplicit false

namespace AnimeLookup.Number

open Text

/-- Whether the fraction `x` is at most the fraction `y`. -/
def Fraction.atMost (x y : Fraction) : Bool := x.num * y.den ≤ y.num * x.den

/-- Whether the fraction `x` is below the fraction `y`. -/
def Fraction.below (x y : Fraction) : Bool := x.num * y.den < y.num * x.den

/-- The end of the interval below a number: half-way to the next smaller number with the given
number of digits.  At a power of two that number is only half as far away as the next larger one. -/
def Binary.lowerEnd (bits : Nat) (b : Binary) : Fraction :=
  if b.mantissa = Nat.pow 2 (bits - 1) then Binary.toFraction ⟨4 * b.mantissa - 1, b.exponent - 2⟩
  else Binary.toFraction ⟨2 * b.mantissa - 1, b.exponent - 1⟩

/-- The end of the interval above a number: half-way to the next larger number. -/
def Binary.upperEnd (b : Binary) : Fraction :=
  Binary.toFraction ⟨2 * b.mantissa + 1, b.exponent - 1⟩

/-- Whether a fraction reads back as the binary number: it lies between the ends of the interval,
or on one of them if the mantissa is even. -/
def Binary.readsBack (bits : Nat) (b : Binary) (x : Fraction) : Bool :=
  if b.mantissa % 2 = 0 then (b.lowerEnd bits).atMost x && x.atMost b.upperEnd
  else (b.lowerEnd bits).below x && x.below b.upperEnd

/-- A point of a decimal grid: `digits * 10 ^ exponent`. -/
structure Decimal where
  /-- The significant digits. -/
  digits : Nat
  /-- The power of ten that they count. -/
  exponent : Int

/-- The value of a decimal. -/
def Decimal.toFraction (d : Decimal) : Fraction :=
  ⟨d.digits * Nat.pow 10 d.exponent.toNat, Nat.pow 10 (-d.exponent).toNat⟩

/-- The point of the grid with the given exponent that reads back as the number, if there is one. -/
def Binary.onGrid (bits : Nat) (b : Binary) (exponent : Int) : Option Decimal :=
  let x := b.toFraction
  let scaled : Fraction := ⟨x.num * Nat.pow 10 (-exponent).toNat, x.den * Nat.pow 10 exponent.toNat⟩
  let q := scaled.num / scaled.den
  let lower : Decimal := ⟨q, exponent⟩
  let upper : Decimal := ⟨q + 1, exponent⟩
  let nearer := if 2 * (scaled.num % scaled.den) < scaled.den then lower else upper
  let farther := if 2 * (scaled.num % scaled.den) < scaled.den then upper else lower
  if b.readsBack bits nearer.toFraction then some nearer
  else if b.readsBack bits farther.toFraction then some farther
  else none

/-- The exponent of the leading decimal digit of a positive fraction. -/
def Fraction.leadingExponent (x : Fraction) : Int :=
  if x.den ≤ x.num then ((decimal (x.num / x.den)).length : Int) - 1
  else -((decimal ((x.den - 1) / x.num)).length : Int)

/-- The coarsest grid point that reads back as the number, on grids with `count` to `count + fuel`
digits. -/
def Binary.search (bits : Nat) (b : Binary) (leading : Int) : Nat → Nat → Option Decimal
  | _, 0 => none
  | count, fuel + 1 =>
    match b.onGrid bits (leading + 1 - count) with
    | some d => some d
    | none => b.search bits leading (count + 1) fuel

/-- The text of a decimal in positional notation. -/
def Decimal.toText (d : Decimal) : List Char :=
  if 0 ≤ d.exponent then decimal (d.digits * Nat.pow 10 d.exponent.toNat)
  else
    let places := (-d.exponent).toNat
    let fraction := padZeros places (decimal (d.digits % Nat.pow 10 places))
    let significant := (fraction.reverse.dropWhile (· = '0')).reverse
    decimal (d.digits / Nat.pow 10 places) ++
      (if significant.isEmpty then [] else '.' :: significant)

/-- **The shortest text that reads back as a binary number** of the given number of digits. -/
def Binary.shortest (bits : Nat) (b : Binary) : List Char :=
  if b.mantissa = 0 then ['0']
  else match b.search bits b.toFraction.leadingExponent 1 (bits + 1) with
    | some d => d.toText
    | none => []

end AnimeLookup.Number
