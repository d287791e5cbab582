import AnimeLookup.Json.Basic
import AnimeLookup.Json.Token

/-!
# Reading JSON

The second half of reading: from tokens to a value.  The reader is a machine that takes one token
at a time.  Its state says what may come next, and a stack holds the arrays and objects that are
still open, innermost first.  Being a fold over the tokens it needs no bound on the depth of the
text, and what it does with the tokens of a value does not depend on what stands around them.

`Json.read` reads a whole text, of which blanks at both ends are a part and anything else is not.
-/

set_option autoImplicit false

namespace AnimeLookup.Json

/-- An array or object that is still open. -/
inductive Frame where
  /-- An array with its items so far. -/
  | array (items : List Json)
  /-- An object with its members so far, and the key whose value comes next. -/
  | object (members : List (Option String × Json)) (key : Option String)

/-- What a reader expects next. -/
inductive Expected where
  /-- A value. -/
  | value
  /-- The first item of an array, or its end. -/
  | firstItem
  /-- The first key of an object, or its end. -/
  | firstKey
  /-- A further key of an object with the given members. -/
  | key (members : List (Option String × Json))
  /-- The colon behind a key. -/
  | colon (members : List (Option String × Json)) (key : Option String)
  /-- A comma or the end of an array with the given items. -/
  | itemEnd (items : List Json)
  /-- A comma or the end of an object with the given members. -/
  | memberEnd (members : List (Option String × Json))
  /-- Nothing: the value is complete. -/
  | nothing (v : Json)

/-- The state of a reader. -/
structure Reader where
  /-- What may come next. -/
  expected : Expected
  /-- What is open around it. -/
  stack : List Frame

namespace Reader

/-- The state before any token. -/
def initial : Reader := ⟨.value, []⟩

/-- The state behind a complete value. -/
def complete (v : Json) : List Frame → Reader
  | [] => ⟨.nothing v, []⟩
  | .array items :: stack => ⟨.itemEnd (items ++ [v]), stack⟩
  | .object members key :: stack => ⟨.memberEnd (members ++ [(key, v)]), stack⟩

/-- The state behind the first token of a value. -/
def begin (stack : List Frame) : Token → Option Reader
  | .null => some (complete .null stack)
  | .bool b => some (complete (.bool b) stack)
  | .integer n => some (complete (.integer n) stack)
  | .inexact => some (complete .inexact stack)
  | .string s => some (complete (.string s) stack)
  | .openArray => some ⟨.firstItem, stack⟩
  | .openObject => some ⟨.firstKey, stack⟩
  | _ => none

/-- **One step of a reader.** -/
def step : Reader → Token → Option Reader
  | ⟨.value, stack⟩, t => begin stack t
  | ⟨.firstItem, stack⟩, .closeArray => some (complete (.array []) stack)
  | ⟨.firstItem, stack⟩, t => begin (.array [] :: stack) t
  | ⟨.firstKey, stack⟩, .closeObject => some (complete (.object []) stack)
  | ⟨.firstKey, stack⟩, .string key => some ⟨.colon [] key, stack⟩
  | ⟨.key members, stack⟩, .string key => some ⟨.colon members key, stack⟩
  | ⟨.colon members key, stack⟩, .colon => some ⟨.value, .object members key :: stack⟩
  | ⟨.itemEnd items, stack⟩, .comma => some ⟨.value, .array items :: stack⟩
  | ⟨.itemEnd items, stack⟩, .closeArray => some (complete (.array items) stack)
  | ⟨.memberEnd members, stack⟩, .comma => some ⟨.key members, stack⟩
  | ⟨.memberEnd members, stack⟩, .closeObject => some (complete (.object members) stack)
  | _, _ => none

/-- The state behind a list of tokens. -/
def run : Reader → List Token → Option Reader
  | r, [] => some r
  | r, t :: rest => (r.step t).bind (run · rest)

/-- The value that was read, if it is complete. -/
def value? : Reader → Option Json
  | ⟨.nothing v, []⟩ => some v
  | _ => none

theorem run_append (r : Reader) (ts us : List Token) :
    r.run (ts ++ us) = (r.run ts).bind (run · us) := by
  induction ts generalizing r with
  | nil => rfl
  | cons t rest ih =>
    rw [List.cons_append, run, run, Option.bind_assoc]
    exact congrArg _ (funext fun q ↦ ih q)

end Reader

/-- The value with the given tokens. -/
def ofTokens? (ts : List Token) : Option Json := (Reader.initial.run ts).bind Reader.value?

/-- **The value that a text denotes**, the text being given in units that may be broken. -/
def readUnits (units : List (Option Char)) : Option Json := (Token.scan units).bind ofTokens?

/-- The value that a text denotes. -/
def read (s : List Char) : Option Json := readUnits (s.map some)

/-- The value that the text encoded by some bytes denotes. -/
def readBytes (bytes : List UInt8) : Option Json := readUnits (Text.Utf8.units bytes)

end AnimeLookup.Json
