import AnimeLookup.CommandLine.Environment
import AnimeLookup.Text.Blank
import AnimeLookup.Text.Utf8
import AnimeLookup.Text.WordChar

/-!
# Files of variables

Variables that are to be set for a program can be written down in a file, as a name, an equals sign
and a value.  The word `export` may stand in front of a name, and lines may be empty or hold a
comment.

The file is read in two passes.  The first cuts it into entries: an entry ends with its line, unless
a quotation is open there, and before a comment, which needs a single blank in front.  The second
reads an entry.  A value ends at a blank, behind which only a comment may follow.  Within
apostrophes nothing has a special meaning; elsewhere a backslash takes the meaning from the next
character, and a dollar sign stands for the value of the variable whose name is behind it, which is
that of the surroundings or else the first one in the file.

Nothing behind an entry that is out of order counts, but what stands before it does.

The file is looked for in the directory in which the program runs, and then in the directories above
it, one after the other.  Nothing in this library rests on how it is read here: this is one of the
loaders that `Toolkit.SearchesUpward` speaks of.
-/

set_option autoImplicit false

namespace AnimeLookup.CommandLine.Variables

/-! ## Values -/

/-- How a part of a value is written. -/
inductive Quote where
  /-- Without marks. -/
  | bare
  /-- Between quotation marks. -/
  | weak
  /-- Between apostrophes. -/
  | strong
  deriving DecidableEq

/-- The way a value is written behind a mark, if the character is one. -/
def Quote.behind : Quote → Char → Option Quote
  | bare, '"' => some weak
  | bare, '\'' => some strong
  | weak, '"' => some bare
  | strong, '\'' => some bare
  | _, _ => none

/-- The character that a backslash and a character stand for. -/
def escaped (c : Char) : Option Char :=
  if c = 'n' then some '\n'
  else if ['\\', '\'', '"', '$', ' '].contains c then some c
  else none

/-- Whether a character can be part of the name behind a dollar sign. -/
def isNameChar (c : Char) : Bool := Text.isWordChar c && c ≠ '_'

/-- Where the reading of a value has got to. -/
inductive Progress where
  /-- In a part that is written in the given way. -/
  | copying (quote : Quote)
  /-- Behind a backslash. -/
  | escaping (quote : Quote)
  /-- In the name of a variable, perhaps in braces. -/
  | naming (quote : Quote) (braced : Bool) (name : List Char)
  /-- Behind the value. -/
  | finished
  deriving DecidableEq

/-- The value of a variable, which is empty if it has none. -/
def valueOf (known : Bindings) (name : List Char) : List Char :=
  ((known.lookup (String.ofList name)).getD "").toList

/-- What a value that ends here has left to add, if it may end here. -/
def Progress.atEnd (known : Bindings) : Progress → Option (List Char)
  | finished => some []
  | copying .bare | escaping .bare => some []
  | naming .bare false name => some (valueOf known name)
  | _ => none

/-- What a character adds to a value, and where the reading is behind it. -/
def Progress.step (known : Bindings) (c : Char) : Progress → Option (List Char × Progress)
  | finished => if c = ' ' || c = '\t' then some ([], finished) else none
  | escaping quote => (escaped c).map fun e ↦ ([e], copying quote)
  | naming quote braced name =>
    if isNameChar c then some ([], naming quote braced (name ++ [c]))
    else if braced then
      if c = '\x7d' then some (valueOf known name, copying quote)
      else some ([], naming quote true (name ++ [c]))
    else if c = '\x7b' && name.isEmpty then some ([], naming quote true [])
    else if c = '$' then some (valueOf known name, naming quote false [])
    else some (valueOf known name ++ [c], copying quote)
  | copying quote =>
    match quote.behind c with
    | some next => some ([], copying next)
    | none =>
      if quote = .strong then some ([c], copying quote)
      else if c = '$' then some ([], naming quote false [])
      else if c = '\\' then some ([], escaping quote)
      else if quote = .bare && (c = ' ' || c = '\t') then some ([], finished)
      else some ([c], copying quote)

/-- What a text adds to a value. -/
def valueAfter (known : Bindings) : Progress → List Char → Option (List Char)
  | p, [] => p.atEnd known
  | p, c :: rest =>
    if p = .finished && c = '#' then some []
    else do
      let (added, next) ← p.step known c
      return added ++ (← valueAfter known next rest)

/-! ## Entries -/

/-- A name, and the text behind it. -/
def name (s : List Char) : Option (List Char × List Char) :=
  if s.head?.any fun c ↦ c.isAlpha || c = '_' then
    some (s.span fun c ↦ c.isAlphanum || c = '_' || c = '.')
  else none

/-- A value behind its equals sign. -/
def rightHandSide (known : Bindings) (s : List Char) : Option (List Char) :=
  match Text.trimStart s with
  | '=' :: rest =>
    let rest := Text.trimStart rest
    if rest.head?.all (· = '#') then some [] else valueAfter known (.copying .bare) rest
  | _ => none

/-- Whether a text goes on with an equals sign. -/
def startsRightHandSide (s : List Char) : Bool := (Text.trimStart s).head? = some '='

/-- A variable with its value. -/
def assignment (known : Bindings) (s : List Char) : Option (String × String) := do
  let (key, rest) ← name s
  let (key, rest) ←
    if key = "export".toList && !startsRightHandSide rest then name (Text.trimStart rest)
    else some (key, rest)
  return (String.ofList key, String.ofList (← rightHandSide known rest))

/-- Where the search for the end of an entry has got to. -/
inductive Reach where
  /-- Outside quotations. -/
  | plain
  /-- Behind a single blank. -/
  | afterBlank
  /-- Inside a quotation, which ends with the given mark. -/
  | within (mark : Char)
  /-- Behind a backslash, inside a quotation if there is a mark. -/
  | escaped (mark : Option Char)
  deriving DecidableEq

/-- Where the search is behind a character. -/
def Reach.step (c : Char) : Reach → Reach
  | escaped none => plain
  | escaped (some mark) => within mark
  | within mark => if c = '\\' then escaped (some mark) else if c = mark then plain else within mark
  | reach =>
    if c = '\\' then escaped none
    else if c = '"' || c = '\'' then within c
    else if reach = plain && Text.isBlank c && c ≠ '\n' && c ≠ '\r' then afterBlank
    else plain

/-- The text behind the current line. -/
def nextLine (s : List Char) : List Char := (s.dropWhile (· ≠ '\n')).drop 1

/-- The rest of an entry, and the text behind it, unless the text ends too early. -/
def entryAfter : Reach → List Char → Option (List Char × List Char)
  | reach, [] => if reach = .plain then some ([], []) else none
  | reach, c :: rest =>
    if reach = .afterBlank && c = '#' then some ([], nextLine rest)
    else if c = '\n' && reach.step c = .plain then some ([], rest)
    else (entryAfter (reach.step c) rest).map fun (entry, rest) ↦ (c :: entry, rest)

/-- Whether nothing but a comment is on the current line. -/
def startsComment (s : List Char) : Bool :=
  (Text.trimStart (s.takeWhile (· ≠ '\n'))).head? = some '#'

/-! ## Files -/

/-- The variables in at most the given number of entries, where some are known already. -/
def readEntries : Nat → Bindings → List Char → Bindings
  | 0, _, _ => []
  | _, _, [] => []
  | fuel + 1, known, s =>
    if startsComment s then readEntries fuel known (nextLine s)
    else
      match entryAfter .plain s with
      | none => []
      | some (entry, rest) =>
        if Text.allBlank entry then readEntries fuel known rest
        else
          match assignment known (Text.trim entry) with
          | some binding => binding :: readEntries fuel (known ++ [binding]) rest
          | none => []

/-- **The variables in a text**, with their values, in surroundings that have some already.  A byte
order mark in front is skipped. -/
def read (known : Bindings) (s : List Char) : Bindings :=
  readEntries (s.length + 1) known (if s.head? = some '\ufeff' then s.drop 1 else s)

/-- The lines of a file. -/
def lines : List UInt8 → List (List UInt8)
  | [] => []
  | b :: rest =>
    if b = 10 then [b] :: lines rest
    else
      match lines rest with
      | [] => [[b]]
      | line :: following => (b :: line) :: following

/-- The text of a file up to the first line that is no text. -/
def readable (bytes : List UInt8) : List Char :=
  (((lines bytes).map Text.Utf8.text).takeWhile Option.isSome).flatMap (·.getD [])

/-- **The variables in a file**, with their values. -/
def ofFile (known : Bindings) (bytes : List UInt8) : Bindings := read known (readable bytes)

/-! ## Loading -/

/-- The paths at which a file of variables is looked for, in this order. -/
def places (directory : Path) : List Path := directory.upward.map (·.child ".env")

/-- The content of the first file of variables that is found. -/
def nearest (directory : Path) (files : Files) : Option (List UInt8) :=
  (places directory).findSome? files.content

/-- **The variables that are set once a file of variables has been loaded.** -/
def load (directory : Path) (files : Files) (assigned : Bindings) : Bindings :=
  assigned ++ (nearest directory files).elim [] (ofFile assigned)

/-- The words in a text that could be the names of variables. -/
def mentioned (s : List Char) : List String :=
  (s.splitBy fun a b ↦ isMentionChar a && isMentionChar b).map String.ofList
where
  /-- Whether a character can be part of such a word. -/
  isMentionChar (c : Char) : Bool := c.isAlphanum || c = '_'

end AnimeLookup.CommandLine.Variables
