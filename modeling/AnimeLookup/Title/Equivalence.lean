import AnimeLookup.Text.Lowercase
import AnimeLookup.Title.Cleaning
import AnimeLookup.Title.SymbolRun

/-!
# When two titles name the same work

Two titles are *equivalent* if one of a fixed chain of rules accepts them, in either order.  A rule
compares two forms of the titles for equality; each one stands for a way in which titles of
the same work were seen to differ.  The rules overlap, and that is deliberate: a new pair of
spellings is served by a new rule at the end, without touching the ones before it.

Every rule but `exact` works on *folded* titles: in small letters, without spaces and dots.

The chain is data (`rules`), so its order, which decides the name that `matchingRule` reports, can
be read off and reasoned about.  The predicates that make a rule up are separate definitions, with
the two sides of the comparison called `a` and `b`.
-/

set_option autoImplicit false

namespace AnimeLookup.Title

open Text

/-! ## Folding -/

/-- **The folded form of a title**: in small letters, without spaces, trimmed of the remaining
white space, without dots. -/
def fold (s : List Char) : List Char :=
  (trim ((lowercase s).filter (· ≠ ' '))).filter (· ≠ '.')

/-- The two titles of one comparison, as they were given and folded. -/
structure Pair where
  /-- The first title as given. -/
  givenA : List Char
  /-- The second title as given. -/
  givenB : List Char
  /-- The first title, folded. -/
  a : List Char
  /-- The second title, folded. -/
  b : List Char

/-- The pair of two titles. -/
def Pair.of (a b : List Char) : Pair := ⟨a, b, fold a, fold b⟩

/-- A rule of the chain. -/
structure Rule where
  /-- The name it is reported under. -/
  name : String
  /-- Whether it takes the two titles for the same work. -/
  accepts : Pair → Bool

/-! ## Forms that rules compare -/

/-- The text without the aside of `source`; nothing if `source` has none. -/
def withoutAsideOf (source s : List Char) : Option (List Char) :=
  (firstAside source).map (remove · s)

/-- Every `2` read as a second season. -/
def twoAsSecondSeason (s : List Char) : List Char := replace ['2'] "secondseason".toList s

/-- Every `2` behind a space read as a second season. -/
def spacedTwoAsSecondSeason (s : List Char) : List Char :=
  replace " 2".toList ":secondseason".toList s

/-- Whether a character is the digit of a season that `seasonDigit` looks for. -/
def isSeasonDigit (c : Char) : Bool := c = '0' || c = ' ' || c = '9'

/-- A line up to its last `s` with a season digit behind it, without that `s`, and the digit. -/
def lastSeasonDigit : List Char → Option (List Char)
  | [] => none
  | c :: rest =>
    match lastSeasonDigit rest with
    | some stem => some (c :: stem)
    | none => if c = 's' then (rest.head?.filter isSeasonDigit).map ([·]) else none

/-- `lastSeasonDigit` of the first line that has such a digit. -/
def seasonDigit (s : List Char) : Option (List Char) :=
  (s.splitOn '\n').findSome? lastSeasonDigit

/-- The two forms exist and are equal. -/
def bothEqual (x y : Option (List Char)) : Bool :=
  match x, y with
  | some u, some v => u == v
  | _, _ => false

/-! ## Spelled-out seasons -/

/-- The ordinal words from `first` to `tenth`. -/
def ordinalWords : List String :=
  ["first", "second", "third", "fourth", "fifth", "sixth", "seventh", "eighth", "ninth", "tenth"]

/-- The suffix of an ordinal numeral in English. -/
def ordinalSuffix (n : Nat) : String :=
  if 11 ≤ n % 100 ∧ n % 100 ≤ 13 then "th"
  else match n % 10 with
    | 1 => "st"
    | 2 => "nd"
    | 3 => "rd"
    | _ => "th"

/-- A folded title that ends in a season in shorthand, an `s` with one or two digits behind it:
the non-empty part before it, which must be on one line, and the number. -/
def seasonShorthand (s : List Char) : Option (List Char × Nat) :=
  let parts := match s.reverse with
    | d :: 's' :: stem => some (stem.reverse, [d])
    | d :: e :: 's' :: stem => some (stem.reverse, [e, d])
    | _ => none
  match parts with
  | some (stem, digits) =>
    if digits.all Char.isDigit && !stem.isEmpty && !stem.contains '\n' then
      some (stem, Nat.ofDigitChars 10 digits 0)
    else none
  | none => none

/-- The folded spellings of the `n`-th season of a title, `n` being at least one: with an ordinal
word, if there is one, and with a numeral. -/
def seasonSpellings (stem : List Char) (n : Nat) : List (List Char) :=
  ((ordinalWords[n - 1]?).map fun word ↦ stem ++ word.toList ++ "season".toList).toList ++
    [stem ++ decimal n ++ (ordinalSuffix n).toList ++ "season".toList]

/-! ## The rules -/

/-- Both titles have the same form. -/
def sameForm (form : List Char → List Char) (p : Pair) : Bool := form p.a == form p.b

/-- Both titles have a form that not every title has, and it is the same. -/
def sameOptionalForm (form : List Char → Option (List Char)) (p : Pair) : Bool :=
  bothEqual (form p.a) (form p.b)

/-- The first title has a form that not every title has, and it is the second title. -/
def formIsOther (form : List Char → Option (List Char)) (p : Pair) : Bool :=
  bothEqual (form p.a) (some p.b)

/-- The first title is in season shorthand, and the second one spells that season out. -/
def shorthandSpelledOut (p : Pair) : Bool :=
  match seasonShorthand p.a with
  | some (stem, n) => n != 0 && (seasonSpellings stem n).contains p.b
  | none => false

/-- The second title, without its aside and with the second season spelled out, is the first
one. -/
def otherSpelledOut (p : Pair) : Bool :=
  bothEqual ((withoutAsideOf p.b p.b).map (replace "  2".toList ": second Season".toList))
    (some p.a)

/-- The first title, with the second season spelled out, set against the second one, is the first
one again. -/
def setAgainst (p : Pair) : Bool :=
  replace " 2ndseason".toList ":secondseason".toList p.a ++ " vs ".toList ++ p.b == p.a

/-- The title without its aside, with a doubly spaced `2` spelled out. -/
def doubleSpacedTwo (s : List Char) : Option (List Char) :=
  (withoutAsideOf s s).map (replace "  2".toList ":secondseason".toList)

/-- **The chain of rules, in the order in which they are tried.** -/
def rules : List Rule :=
  [⟨"exact", fun p ↦ p.givenA == p.givenB⟩,
   ⟨"light_clean", sameForm lightClean⟩,
   ⟨"heavy_clean", sameForm heavyClean⟩,
   ⟨"dash_to_space", sameForm (replace ['-'] [' '])⟩,
   ⟨"spaced_two_as_second_season", sameForm spacedTwoAsSecondSeason⟩,
   ⟨"two_as_second_season", sameForm twoAsSecondSeason⟩,
   ⟨"roman_numeral_run", sameForm (symbolRun 'I')⟩,
   ⟨"emphasis_run", sameForm (symbolRun '!')⟩,
   ⟨"nd_season_pair", sameForm (remove "ndseason".toList)⟩,
   ⟨"nd_season_one_sided", fun p ↦ remove "ndseason".toList p.a == p.b⟩,
   ⟨"season_digit_pair", sameOptionalForm seasonDigit⟩,
   ⟨"season_digit_one_sided", formIsOther seasonDigit⟩,
   ⟨"rd_season_pair", sameForm (remove "rdseason".toList)⟩,
   ⟨"rd_season_one_sided", fun p ↦ remove "rdseason".toList p.a == p.b⟩,
   ⟨"paren_two_as_second_season_pair",
    sameOptionalForm fun s ↦ withoutAsideOf s (twoAsSecondSeason s)⟩,
   ⟨"paren_two_as_second_season_one_sided",
    formIsOther fun s ↦ withoutAsideOf s (twoAsSecondSeason s)⟩,
   ⟨"paren_spaced_two_pair",
    sameOptionalForm fun s ↦ withoutAsideOf s (spacedTwoAsSecondSeason s)⟩,
   ⟨"paren_spaced_two_one_sided",
    formIsOther fun s ↦ withoutAsideOf s (spacedTwoAsSecondSeason s)⟩,
   ⟨"paren_pair", sameOptionalForm fun s ↦ withoutAsideOf s s⟩,
   ⟨"paren_one_sided", formIsOther fun s ↦ withoutAsideOf s s⟩,
   ⟨"other_paren_spelled_second_season", otherSpelledOut⟩,
   ⟨"second_season_versus", setAgainst⟩,
   ⟨"paren_double_spaced_two", formIsOther doubleSpacedTwo⟩,
   ⟨"season_shorthand", shorthandSpelledOut⟩]

/-! ## The comparison -/

/-- The name of the first rule of a chain that accepts the titles in the order given. -/
def firstRule (chain : List Rule) (a b : List Char) : Option String :=
  (chain.find? (·.accepts (Pair.of a b))).map Rule.name

/-- The name of the first rule of a chain that accepts the titles, tried in the order given and
then in the other one.  Nothing is accepted when a title is empty. -/
def matchingRuleOf (chain : List Rule) (a b : List Char) : Option String :=
  if a.isEmpty || b.isEmpty then none
  else (firstRule chain a b).or (firstRule chain b a)

/-- **The rule by which two titles name the same work**, if they do. -/
def matchingRule (a b : List Char) : Option String := matchingRuleOf rules a b

/-- **Whether two titles name the same work.** -/
def equivalent (a b : List Char) : Bool := (matchingRule a b).isSome

/-- A non-empty title names the same work as itself. -/
theorem matchingRule_self {a : List Char} (h : a ≠ []) : matchingRule a a = some "exact" := by
  simp [matchingRule, matchingRuleOf, firstRule, rules, Pair.of, h]

end AnimeLookup.Title
