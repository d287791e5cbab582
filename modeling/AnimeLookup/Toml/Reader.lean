import AnimeLookup.Toml.Document
import AnimeLookup.Toml.Number
import AnimeLookup.Toml.Text

/-!
# Reading TOML

`Toml.read` reads a document: the text is cut into statements, and the statements make a table.

Values may be nested, and a key may have several parts, but neither without limit; the limit is far
beyond any use.  The recursion over a nested value is a recursion on the levels that are left.
Loops over items are bounded by the length of the text, since every item takes some of it.
-/

set_option autoImplicit false

namespace AnimeLookup.Toml

/-- How deep values may be nested, and how many parts a key may have. -/
def maxDepth : Nat := 79

/-! ## Keys -/

/-- Whether a character can be part of a key without marks. -/
def isKeyChar (c : Char) : Bool := c.isAlphanum || c = '_' || c = '-'

/-- One part of a key. -/
def keyPart (s : List Char) : Option (String × List Char) :=
  match s with
  | '"' :: _ => lineString s
  | '\'' :: _ => lineString s
  | _ =>
    let part := s.takeWhile isKeyChar
    if part.isEmpty then none else some (String.ofList part, s.dropWhile isKeyChar)

/-- The parts of a key, with blanks around each of them. -/
def keyParts : Nat → Reader (List String)
  | 0, _ => none
  | fuel + 1, s => do
    let (part, rest) ← keyPart (skipBlanks s)
    match skipBlanks rest with
    | '.' :: rest => do
      let (parts, rest) ← keyParts fuel rest
      return (part :: parts, rest)
    | rest => return ([part], rest)

/-- A key: the path to its last part, that part, and the text behind. -/
def key (s : List Char) : Option (List String × String × List Char) := do
  let (parts, rest) ← keyParts maxDepth s
  return (parts.dropLast, ← parts.getLast?, rest)

/-! ## Values -/

/-- The items of an array behind its opening bracket or behind a comma, and the text behind the
array. -/
def arrayItems (value : Reader Toml) : Nat → Reader (List Toml)
  | 0, _ => none
  | fuel + 1, s =>
    match skipGap false s with
    | ']' :: rest => some ([], rest)
    | s => do
      let (v, rest) ← value s
      match skipGap false rest with
      | ',' :: rest => do
        let (items, rest) ← arrayItems value fuel rest
        return (v :: items, rest)
      | ']' :: rest => return ([v], rest)
      | _ => none

/-- A key, an equals sign and a value, with blanks around them. -/
def keyValue (value : Reader Toml) : Reader (List String × String × Toml) := fun s ↦ do
  let (path, last, rest) ← key s
  match rest with
  | '=' :: rest => do
    let (v, rest) ← value (skipBlanks rest)
    return ((path, last, v), skipBlanks rest)
  | _ => none

/-- The entries of an inline table, of which there is at least one, and the text behind the
table. -/
def inlineEntries (value : Reader Toml) : Nat → Reader (List (List String × String × Toml))
  | 0, _ => none
  | fuel + 1, s => do
    let (entry, rest) ← keyValue value s
    match rest with
    | ',' :: rest => do
      let (entries, rest) ← inlineEntries value fuel rest
      return (entry :: entries, rest)
    | '\x7d' :: rest => return ([entry], rest)
    | _ => none

/-- An inline table behind its opening brace. -/
def inlineTableAt (value : Reader Toml) : Reader Toml := fun s ↦
  match skipBlanks s with
  | '\x7d' :: rest => some (.table [], rest)
  | s => do
    let (entries, rest) ← inlineEntries value s.length s
    return (← inlineTable entries, rest)

/-- A value that is no array and no table. -/
def scalar : Reader Toml := fun s ↦
  match s with
  | '"' :: _ => (anyString s).map fun (t, rest) ↦ (.string t, rest)
  | '\'' :: _ => (anyString s).map fun (t, rest) ↦ (.string t, rest)
  | _ =>
    let (word, rest) := takeWord s
    (ofWord word).map (·, rest)

/-- **A value**, nested at most as deep as given. -/
def value : Nat → Reader Toml
  | 0, s => scalar s
  | depth + 1, s =>
    match s with
    | '[' :: rest => (arrayItems (value depth) rest.length rest).map fun (items, rest) ↦
      (.array items, rest)
    | '\x7b' :: rest => inlineTableAt (value depth) rest
    | _ => scalar s

/-! ## Statements -/

/-- A header, from its first bracket on. -/
def header : Reader Statement
  | '[' :: '[' :: rest => do
    let (path, last, rest) ← key rest
    match rest with
    | ']' :: ']' :: rest => some (.element path last, rest)
    | _ => none
  | '[' :: rest => do
    let (path, last, rest) ← key rest
    match rest with
    | ']' :: rest => some (.header path last, rest)
    | _ => none
  | _ => none

/-- An entry on a line of its own. -/
def entry : Reader Statement := fun s ↦ do
  let ((path, last, v), rest) ← keyValue (value maxDepth) s
  return (.entry path last v, rest)

/-- The statements of a document. -/
def statements : Nat → List Char → Option (List Statement)
  | 0, s => if s.isEmpty then some [] else none
  | fuel + 1, s =>
    match skipBlanks s with
    | [] => some []
    | c :: rest =>
      if c = '#' || c = '\n' || c = '\r' then
        (finishLine (c :: rest)).bind (statements fuel)
      else do
        let (statement, rest) ← if c = '[' then header (c :: rest) else entry (c :: rest)
        let following ← statements fuel (← finishLine rest)
        return statement :: following

/-- The text without the mark by which some editors tell the encoding of a file. -/
def dropByteOrderMark : List Char → List Char
  | '\uFEFF' :: rest => rest
  | s => s

/-- **The table that a document describes.** -/
def read (s : List Char) : Option Toml :=
  let text := dropByteOrderMark s
  (statements text.length text).bind ofStatements

end AnimeLookup.Toml
