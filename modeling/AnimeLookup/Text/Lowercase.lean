import AnimeLookup.Text.CaseTables

/-!
# Lower case

`lowercase` takes a text to small letters.  For every character but one this is a matter of the
character alone (`lowerChar`): a capital in one of the blocks of `caseRuns` moves by the offset of
its block, the dotted capital I becomes a small i and a combining dot, and everything else stays.

The exception is the capital sigma, which has two small forms.  It takes the final one, `ς`, where
it ends a word: some cased letter stands before it and none follows, where characters that do not
count for this purpose (`caseIgnorableChars`, for instance an apostrophe) are looked through in
both directions.  Everywhere else it becomes `σ`.

Two characters are the same *up to case* when `lowerChar` takes them to the same text; this
comparison knows no context, so it has one sigma.
-/

set_option autoImplicit false

namespace AnimeLookup.Text

/-- The small form of a character, taken by itself. -/
def lowerChar (c : Char) : List Char :=
  if c = '\u0130' then ['i', '\u0307']
  else match caseRuns.find? (·.covers c.toNat) with
    | some run => [Char.ofNat (c.toNat + run.offset).toNat]
    | none => [c]

/-- Whether two characters have the same small form. -/
def sameUpToCase (c d : Char) : Bool := lowerChar c == lowerChar d

/-- Whether the character is looked through when the end of a word is sought. -/
def isCaseIgnorable (c : Char) : Bool := caseIgnorableChars.contains c

/-- Whether the character is a letter that has a case. -/
def isCased (c : Char) : Bool := casedChars.contains c

/-- Whether the first character that counts is a cased letter. -/
def startsCased : List Char → Bool
  | [] => false
  | c :: rest => if isCaseIgnorable c then startsCased rest else isCased c

/-- The small form of a text that follows a cased letter, or does not, according to `afterCased`. -/
def lowercaseAfter (afterCased : Bool) : List Char → List Char
  | [] => []
  | c :: rest =>
    (if c = 'Σ' then [if afterCased && !startsCased rest then 'ς' else 'σ'] else lowerChar c) ++
      lowercaseAfter (if isCaseIgnorable c then afterCased else isCased c) rest

/-- **The small form of a text.** -/
def lowercase (s : List Char) : List Char := lowercaseAfter false s

@[simp] theorem lowercase_nil : lowercase [] = [] := rfl

/-- The small form of an ASCII letter; every other character stays.  Words of a fixed vocabulary
(the values of an option, say) are compared this way. -/
def lowercaseAscii (s : List Char) : List Char := s.map Char.toLower

end AnimeLookup.Text
