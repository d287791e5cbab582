import AnimeLookup.Text.Numeral
import AnimeLookup.Text.Utf8

/-!
# JSON tokens

The first half of reading JSON: cutting a text into tokens.  `Token.scan` walks the text once,
from left to right, in one of a handful of states; it fails where no token can be.  Two tokens
need not be separated, since the grammar never has two neighbours that could run together; a text
such as `1true` yields two tokens here and is refused by the reader.

The content of a string is collected as `StringUnit`s and only then turned into text, because an
escape names a UTF-16 unit and two of them may have to be taken together.
-/

set_option autoImplicit false

namespace AnimeLookup.Json

open Text

/-! ## The content of a string -/

/-- One unit of the content of a string. -/
inductive StringUnit where
  /-- A character, written as itself or by a short escape. -/
  | char (c : Char)
  /-- A UTF-16 unit, written as `\u` and four hexadecimal digits. -/
  | code (n : Nat)
  /-- A byte that is no part of a character. -/
  | broken
  deriving DecidableEq

/-- Whether a UTF-16 unit is the first half of a pair. -/
def isHighSurrogate (n : Nat) : Bool := 0xD800 ≤ n && n < 0xDC00

/-- Whether a UTF-16 unit is the second half of a pair. -/
def isLowSurrogate (n : Nat) : Bool := 0xDC00 ≤ n && n < 0xE000

/-- The character that a pair of surrogates encodes. -/
def pairChar (high low : Nat) : Char :=
  Char.ofNat (0x10000 + (high - 0xD800) * 0x400 + (low - 0xDC00))

/-- The text that the units of a string stand for, if they stand for one. -/
def unitsText : List StringUnit → Option (List Char)
  | [] => some []
  | .char c :: rest => (unitsText rest).map (c :: ·)
  | .broken :: _ => none
  | .code n :: rest =>
    if isHighSurrogate n then
      match rest with
      | .code m :: rest =>
        if isLowSurrogate m then (unitsText rest).map (pairChar n m :: ·) else none
      | _ => none
    else if isLowSurrogate n then none
    else (unitsText rest).map (Char.ofNat n :: ·)

/-- The character that a short escape stands for. -/
def shortEscape (c : Char) : Option Char :=
  match c with
  | '"' => some '"'
  | '\\' => some '\\'
  | '/' => some '/'
  | 'b' => some '\x08'
  | 'f' => some '\x0c'
  | 'n' => some '\n'
  | 'r' => some '\r'
  | 't' => some '\t'
  | _ => none

/-! ## Tokens -/

/-- A token of a JSON text. -/
inductive Token where
  /-- `[` -/
  | openArray
  /-- `]` -/
  | closeArray
  /-- An opening brace. -/
  | openObject
  /-- A closing brace. -/
  | closeObject
  /-- `,` -/
  | comma
  /-- `:` -/
  | colon
  /-- The word `null`. -/
  | null
  /-- The word `true` or `false`. -/
  | bool (b : Bool)
  /-- A number written as an integer. -/
  | integer (n : Int)
  /-- A number written in any other way. -/
  | inexact
  /-- A string, or `none` if its content is no text. -/
  | string (s : Option String)
  deriving DecidableEq

namespace Token

/-- The token of a punctuation character. -/
def ofPunctuation (c : Char) : Option Token :=
  match c with
  | '[' => some openArray
  | ']' => some closeArray
  | '\x7b' => some openObject
  | '\x7d' => some closeObject
  | ',' => some comma
  | ':' => some colon
  | _ => none

/-- The token of a word. -/
def ofWord (word : List Char) : Option Token :=
  if word = ['n', 'u', 'l', 'l'] then some null
  else if word = ['t', 'r', 'u', 'e'] then some (bool true)
  else if word = ['f', 'a', 'l', 's', 'e'] then some (bool false)
  else none

/-! ### Numbers -/

/-- Whether the digits of an integer are in order: there is one, and a zero in front stands
alone. -/
def isIntegerPart (digits : List Char) : Bool :=
  digits = ['0'] || (!digits.isEmpty && digits.head? ≠ some '0' && digits.all Char.isDigit)

/-- Whether the text may follow the integer part of a number as its exponent. -/
def isExponent : List Char → Bool
  | [] => true
  | e :: rest =>
    (e = 'e' || e = 'E') &&
      let digits := match rest with
        | '+' :: digits => digits
        | '-' :: digits => digits
        | _ => rest
      !digits.isEmpty && digits.all Char.isDigit

/-- Whether the text may follow the integer part of a number: a fraction, an exponent, or both. -/
def isFractionOrExponent : List Char → Bool
  | '.' :: rest =>
    !(rest.takeWhile Char.isDigit).isEmpty && isExponent (rest.dropWhile Char.isDigit)
  | rest => isExponent rest

/-- The token of an unsigned numeral. -/
def ofUnsigned (numeral : List Char) : Option Token :=
  let digits := numeral.takeWhile Char.isDigit
  let rest := numeral.dropWhile Char.isDigit
  if !isIntegerPart digits then none
  else if rest.isEmpty then some (integer (Nat.ofDigitChars 10 digits 0))
  else if isFractionOrExponent rest then some inexact
  else none

/-- The token of a numeral with a minus sign in front.  A negative zero is no integer. -/
def negated : Token → Token
  | integer n => if n = 0 then inexact else integer (-n)
  | t => t

/-- The token of a numeral. -/
def ofNumeral : List Char → Option Token
  | '-' :: numeral => (ofUnsigned numeral).map negated
  | numeral => ofUnsigned numeral

/-- Whether a character can be part of a numeral. -/
def isNumeralChar (c : Char) : Bool :=
  c.isDigit || c = '-' || c = '+' || c = '.' || c = 'e' || c = 'E'

/-! ### Scanning -/

/-- Where a scan stands. -/
inductive State where
  /-- Between two tokens. -/
  | between
  /-- In a number, of which the given text has been read. -/
  | inNumber (numeral : List Char)
  /-- In a word, of which the given text has been read. -/
  | inWord (word : List Char)
  /-- In a string with the given content so far. -/
  | inString (units : List StringUnit)
  /-- Behind a backslash in a string. -/
  | inEscape (units : List StringUnit)
  /-- In the hexadecimal digits of an escape, of which `count` are still to come. -/
  | inHex (units : List StringUnit) (count value : Nat)

/-- A character between two tokens: the token that it is, if it is one, and the state behind it. -/
def start (c : Char) : Option (Option Token × State) :=
  if c = ' ' ∨ c = '\n' ∨ c = '\r' ∨ c = '\t' then some (none, .between)
  else if c = '"' then some (none, .inString [])
  else if c = '-' ∨ c.isDigit then some (none, .inNumber [c])
  else if c.isAlpha then some (none, .inWord [c])
  else (ofPunctuation c).map fun t ↦ (some t, .between)

/-- A character in a string. -/
def inside (units : List StringUnit) (c : Char) : Option (Option Token × State) :=
  if c = '"' then some (some (.string ((unitsText units).map String.ofList)), .between)
  else if c = '\\' then some (none, .inEscape units)
  else if c.toNat < 0x20 then none
  else some (none, .inString (units ++ [.char c]))

/-- A character behind a backslash. -/
def escaped (units : List StringUnit) (c : Char) : Option (Option Token × State) :=
  if c = 'u' then some (none, .inHex units 4 0)
  else (shortEscape c).map fun d ↦ (none, .inString (units ++ [.char d]))

/-- The state behind one more hexadecimal digit, with `count` digits still to come before it. -/
def State.hexDigit (units : List StringUnit) (count value digit : Nat) : State :=
  if count ≤ 1 then .inString (units ++ [.code (value * 16 + digit)])
  else .inHex units (count - 1) (value * 16 + digit)

/-- **The tokens of the rest of a text**, from a state. -/
def scanFrom : State → List (Option Char) → Option (List Token)
  | .between, [] => some []
  | .inNumber numeral, [] => (ofNumeral numeral).map ([·])
  | .inWord word, [] => (ofWord word).map ([·])
  | _, [] => none
  | .inString units, none :: rest => scanFrom (.inString (units ++ [.broken])) rest
  | _, none :: _ => none
  | .between, some c :: rest => do
    let (token, state) ← start c
    return token.toList ++ (← scanFrom state rest)
  | .inNumber numeral, some c :: rest =>
    if isNumeralChar c then scanFrom (.inNumber (numeral ++ [c])) rest
    else do
      let number ← ofNumeral numeral
      let (token, state) ← start c
      return number :: token.toList ++ (← scanFrom state rest)
  | .inWord word, some c :: rest =>
    if c.isAlpha then scanFrom (.inWord (word ++ [c])) rest
    else do
      let name ← ofWord word
      let (token, state) ← start c
      return name :: token.toList ++ (← scanFrom state rest)
  | .inString units, some c :: rest => do
    let (token, state) ← inside units c
    return token.toList ++ (← scanFrom state rest)
  | .inEscape units, some c :: rest => do
    let (token, state) ← escaped units c
    return token.toList ++ (← scanFrom state rest)
  | .inHex units count value, some c :: rest => do
    let digit ← hexValue c
    scanFrom (.hexDigit units count value digit) rest

/-- **The tokens of a text.** -/
def scan (units : List (Option Char)) : Option (List Token) := scanFrom .between units

end Token

end AnimeLookup.Json
