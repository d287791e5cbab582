import AnimeLookup.Text.Numeral
import AnimeLookup.Toml.Basic

/-!
# Numbers, dates and truth values in TOML

What is no string, array or table is one word, of which the value can be told by its shape alone.
`ofWord` does so.

Digits may be separated by single underscores.  An integer fits into 64 bits with a sign.  A
floating-point number may have any size but one: it must not be so large that it would be read as
positive infinity, which has a word of its own.  Dates and times have to exist, leap years and leap
seconds included.
-/

set_option autoImplicit false

namespace AnimeLookup.Toml

open Text

/-! ## Digits -/

/-- The digits of a text of digits with single underscores between them. -/
def ungroup (isDigit : Char → Bool) : List Char → Option (List Char)
  | [] => none
  | [c] => if isDigit c then some [c] else none
  | c :: '_' :: rest => if isDigit c then (ungroup isDigit rest).map (c :: ·) else none
  | c :: rest => if isDigit c then (ungroup isDigit rest).map (c :: ·) else none

/-- The sign that a text starts with, and the rest. -/
def splitSign : List Char → Option Char × List Char
  | '+' :: rest => (some '+', rest)
  | '-' :: rest => (some '-', rest)
  | s => (none, s)

/-- The number with the sign of a text. -/
def signed (sign : Option Char) (n : Nat) : Int := if sign = some '-' then -n else n

/-! ## Integers -/

/-- Whether digits are in order for an integer: a zero in front stands alone. -/
def hasNoLeadingZero (digits : List Char) : Bool := digits = ['0'] || digits.head? != some '0'

/-- The number that digits in a base denote. -/
def ofDigits (base : Nat) (digits : List Char) : Nat :=
  digits.foldl (fun n c ↦ n * base + (hexValue c).getD 0) 0

/-- The integer, if it fits into 64 bits. -/
def fitInteger (n : Int) : Option Toml :=
  if -(largestInteger + 1 : Int) ≤ n ∧ n ≤ largestInteger then some (.integer n) else none

/-- An integer in a base other than ten, behind its mark. -/
def basedInteger (base : Nat) (digits : List Char) : Option Toml :=
  (ungroup (fun c ↦ (hexValue c).any (· < base)) digits).bind fun ds ↦
    fitInteger (ofDigits base ds)

/-- An integer. -/
def readInteger : List Char → Option Toml
  | '0' :: 'x' :: digits => basedInteger 16 digits
  | '0' :: 'o' :: digits => basedInteger 8 digits
  | '0' :: 'b' :: digits => basedInteger 2 digits
  | word =>
    let (sign, digits) := splitSign word
    (ungroup Char.isDigit digits).bind fun ds ↦
      if hasNoLeadingZero ds then fitInteger (signed sign (ofDigits 10 ds)) else none

/-! ## Floating-point numbers -/

/-- Whether a character is one of the digits of a number, or separates them. -/
def isGroupChar (c : Char) : Bool := c.isDigit || c = '_'

/-- The parts of a floating-point number. -/
structure FloatParts where
  /-- Whether it is negative. -/
  negative : Bool
  /-- The digits before the point. -/
  whole : List Char
  /-- The digits behind the point. -/
  fraction : List Char
  /-- The power of ten. -/
  exponent : Int

/-- The power of ten at the end of a number, behind its mark. -/
def exponentPart (s : List Char) : Option Int :=
  let (sign, digits) := splitSign s
  (ungroup Char.isDigit digits).map fun ds ↦ signed sign (ofDigits 10 ds)

/-- The power of ten behind the digits of a number, zero if there is none. -/
def optionalExponent : List Char → Option Int
  | [] => some 0
  | c :: rest => if c = 'e' || c = 'E' then exponentPart rest else none

/-- The parts of a floating-point number: it has a fraction or a power of ten. -/
def floatParts (word : List Char) : Option FloatParts := do
  let (sign, s) := splitSign word
  let whole ← ungroup Char.isDigit (s.takeWhile isGroupChar)
  if !hasNoLeadingZero whole then none
  else match s.dropWhile isGroupChar with
    | '.' :: rest => do
      let fraction ← ungroup Char.isDigit (rest.takeWhile isGroupChar)
      let exponent ← optionalExponent (rest.dropWhile isGroupChar)
      return ⟨sign = some '-', whole, fraction, exponent⟩
    | c :: rest => do
      let exponent ← optionalExponent (c :: rest)
      return ⟨sign = some '-', whole, [], exponent⟩
    | [] => none

/-- The least number that is read as infinity in double precision. -/
def infinityBound : Nat := Nat.pow 2 1024 - Nat.pow 2 970

/-- Whether a number would be read as positive infinity.  Its size in decimal digits settles the
matter unless it is close to the bound. -/
def FloatParts.isTooLarge (p : FloatParts) : Bool :=
  let digits := (p.whole ++ p.fraction).dropWhile (· = '0')
  let scale := p.exponent - p.fraction.length
  if p.negative || digits.isEmpty then false
  else if digits.length + scale < 300 then false
  else if 320 < digits.length + scale then true
  else infinityBound * Nat.pow 10 (-scale).toNat ≤ ofDigits 10 digits * Nat.pow 10 scale.toNat

/-- A floating-point number, infinity, or no number. -/
def readFloat (word : List Char) : Option Toml :=
  let unsigned := (splitSign word).2
  if unsigned = ['i', 'n', 'f'] || unsigned = ['n', 'a', 'n'] then some .float
  else (floatParts word).bind fun p ↦ if p.isTooLarge then none else some .float

/-! ## Dates and times -/

/-- The number in the first `count` characters of a text, which are digits, and the rest. -/
def fixedDigits (count : Nat) (s : List Char) : Option (Nat × List Char) :=
  let digits := s.take count
  if digits.length = count && digits.all Char.isDigit then
    some (ofDigits 10 digits, s.drop count)
  else none

/-- The text behind a character that must be there. -/
def expect (c : Char) : List Char → Option (List Char)
  | d :: rest => if d = c then some rest else none
  | [] => none

/-- How many days a month has. -/
def daysInMonth (year month : Nat) : Nat :=
  if month = 2 then
    if year % 4 = 0 && (year % 100 != 0 || year % 400 = 0) then 29 else 28
  else if [4, 6, 9, 11].contains month then 30
  else 31

/-- The text behind a date. -/
def date (s : List Char) : Option (List Char) := do
  let (year, s) ← fixedDigits 4 s
  let (month, s) ← fixedDigits 2 (← expect '-' s)
  let (day, s) ← fixedDigits 2 (← expect '-' s)
  if 1 ≤ month && month ≤ 12 && 1 ≤ day && day ≤ daysInMonth year month then some s else none

/-- The text behind the fraction of a second, if there is one. -/
def secondFraction : List Char → Option (List Char)
  | '.' :: rest => if rest.head?.any Char.isDigit then some (rest.dropWhile Char.isDigit) else none
  | s => some s

/-- The text behind a time. -/
def time (s : List Char) : Option (List Char) := do
  let (hour, s) ← fixedDigits 2 s
  let (minute, s) ← fixedDigits 2 (← expect ':' s)
  let (second, s) ← fixedDigits 2 (← expect ':' s)
  if hour ≤ 23 && minute ≤ 59 && second ≤ 60 then secondFraction s else none

/-- Whether a text is the distance of a local time from universal time, or nothing. -/
def isOffset (s : List Char) : Bool :=
  match splitSign s with
  | (none, rest) => rest.isEmpty || rest = ['Z'] || rest = ['z']
  | (some _, rest) =>
    ((fixedDigits 2 rest).bind fun (hour, rest) ↦ do
      let (minute, rest) ← fixedDigits 2 (← expect ':' rest)
      return hour ≤ 23 && minute ≤ 59 && rest.isEmpty).getD false

/-- Whether a word is a date, a time, or both. -/
def isDatetime (word : List Char) : Bool :=
  match date word with
  | some [] => true
  | some (c :: rest) =>
    (c = 'T' || c = 't' || c = ' ') && (time rest).any isOffset
  | none => (time word).any List.isEmpty

/-! ## Words -/

/-- **The value of a word.** -/
def ofWord (word : List Char) : Option Toml :=
  if word = ['t', 'r', 'u', 'e'] then some (.bool true)
  else if word = ['f', 'a', 'l', 's', 'e'] then some (.bool false)
  else if isDatetime word then some .datetime
  else (readFloat word).or (readInteger word)

/-- Whether a character can be part of a word. -/
def isWordChar (c : Char) : Bool :=
  c.isAlphanum || c = '_' || c = '-' || c = '+' || c = '.' || c = ':'

/-- Whether a text is a blank with a digit behind it. -/
def startsTime : List Char → Bool
  | ' ' :: d :: _ => d.isDigit
  | _ => false

/-- The word that a text starts with, and the rest.  A date and a time with a blank between them
are one word. -/
def takeWord (s : List Char) : List Char × List Char :=
  let word := s.takeWhile isWordChar
  let rest := s.dropWhile isWordChar
  if date word = some [] && startsTime rest then
    (word ++ ' ' :: (rest.drop 1).takeWhile isWordChar, (rest.drop 1).dropWhile isWordChar)
  else (word, rest)

end AnimeLookup.Toml
