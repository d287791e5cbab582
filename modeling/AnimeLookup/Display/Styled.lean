import AnimeLookup.Text.Numeral

/-!
# Styled text

What is shown to a person is a list of spans.  Each span is a piece of text that is written in two
ways: as it is, and with some words in it set in a style, where colours are wanted.  Styles are
escape sequences for a terminal.

The two ways of a span are written out side by side, and nothing here makes them say the same.
`withoutEscapes` takes the escape sequences out of a text again.
-/

set_option autoImplicit false

namespace AnimeLookup.Display

open Text

/-! ## Styles -/

/-- A way to set a text on a terminal. -/
inductive Style where
  /-- In heavy letters. -/
  | bold
  /-- In faint letters. -/
  | dimmed
  /-- In red. -/
  | red
  /-- In green. -/
  | green
  /-- In yellow. -/
  | yellow
  deriving DecidableEq

/-- The escape sequence with a parameter. -/
def escape (parameter : Nat) : List Char := '\x1b' :: '[' :: decimal parameter ++ ['m']

namespace Style

/-- The parameter that switches a style on. -/
def onParameter : Style → Nat
  | bold => 1
  | dimmed => 2
  | red => 31
  | green => 32
  | yellow => 33

/-- The parameter that switches a style off: for a colour only the colour, for the others
everything. -/
def offParameter : Style → Nat
  | bold => 0
  | dimmed => 0
  | red => 39
  | green => 39
  | yellow => 39

/-- A text set in a style. -/
def apply (style : Style) (s : List Char) : List Char :=
  escape style.onParameter ++ s ++ escape style.offParameter

end Style

/-! ## Spans -/

/-- A piece of text, in both of the ways in which it is written. -/
structure Span where
  /-- Without styles. -/
  plain : List Char
  /-- With styles. -/
  coloured : List Char

/-- A piece of text that has no styles. -/
def Span.unstyled (s : List Char) : Span := ⟨s, s⟩

/-- A span, as it is written. -/
def Span.render (colour : Bool) (span : Span) : List Char :=
  if colour then span.coloured else span.plain

/-- **Spans, as they are written**, with or without escape sequences. -/
def render (colour : Bool) (spans : List Span) : List Char := spans.flatMap (Span.render colour)

/-- A text that takes at least the given width, with blanks in front. -/
def alignRight (width : Nat) (s : List Char) : List Char :=
  List.replicate (width - s.length) ' ' ++ s

/-! ## Escape sequences -/

/-- Behind an escape character: how many characters belong to the same escape sequence, if it is
one. -/
def escapeTailLength : List Char → Option Nat
  | '[' :: rest =>
    if rest.head?.any Char.isDigit && (rest.dropWhile Char.isDigit).head? = some 'm' then
      some ((rest.takeWhile Char.isDigit).length + 2)
    else none
  | _ => none

/-- `withoutEscapes`, with `skip` characters of an escape sequence still to be passed over. -/
def withoutEscapesAfter : Nat → List Char → List Char
  | _, [] => []
  | skip + 1, _ :: rest => withoutEscapesAfter skip rest
  | 0, c :: rest =>
    if c = '\x1b' then
      match escapeTailLength rest with
      | some n => withoutEscapesAfter n rest
      | none => c :: withoutEscapesAfter 0 rest
    else c :: withoutEscapesAfter 0 rest

/-- A text without its escape sequences. -/
def withoutEscapes (s : List Char) : List Char := withoutEscapesAfter 0 s

end AnimeLookup.Display
