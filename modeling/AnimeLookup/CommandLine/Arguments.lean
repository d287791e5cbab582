/-!
# Arguments of a command

The arguments of a command are of three kinds.  A *flag* is a word behind two hyphens, an *option*
is such a word with a value, and everything else is a *positional* argument.  They may come in any
order.  The value of an option is joined to it by an equals sign, or is the next argument; in the
second case it must not look like a flag or an option.  Behind two hyphens that stand alone, all
arguments are positional.

A `Shape` says what a command understands, and `Arguments.read` sorts the arguments accordingly.
It refuses what the command does not understand, what is given twice, and any number of positional
arguments but the right one.
-/

set_option autoImplicit false

namespace AnimeLookup.CommandLine

/-- What a command understands. -/
structure Shape where
  /-- Its flags. -/
  flags : List String
  /-- Its options. -/
  options : List String
  /-- How many positional arguments it takes. -/
  positionals : Nat

/-- The arguments of a command, by kind. -/
structure Arguments where
  /-- The flags. -/
  flags : List String
  /-- The options, with their values. -/
  options : List (String × String)
  /-- The positional arguments, in order. -/
  positionals : List String
  deriving DecidableEq

/-! ## Single arguments -/

/-- What an argument looks like. -/
inductive Look where
  /-- The two hyphens behind which everything is positional. -/
  | terminator
  /-- A flag or an option, with a value that is joined to it. -/
  | long (name : String) (value : Option String)
  /-- Something behind a single hyphen. -/
  | short
  /-- Anything else. -/
  | word
  deriving DecidableEq

/-- A flag or an option behind its hyphens, with the value behind the first equals sign. -/
def splitValue (s : List Char) : Look :=
  .long (String.ofList (s.takeWhile (· ≠ '=')))
    (match s.dropWhile (· ≠ '=') with
      | _ :: value => some (String.ofList value)
      | [] => none)

/-- What an argument looks like. -/
def Look.of (argument : String) : Look :=
  match argument.toList with
  | ['-', '-'] => .terminator
  | '-' :: '-' :: rest => splitValue rest
  | '-' :: _ :: _ => .short
  | _ => .word

namespace Arguments

/-! ## Sorting -/

/-- No arguments. -/
def empty : Arguments := ⟨[], [], []⟩

/-- The arguments with a flag in front. -/
def addFlag (name : String) (a : Arguments) : Arguments := { a with flags := name :: a.flags }

/-- The arguments with an option in front. -/
def addOption (name value : String) (a : Arguments) : Arguments :=
  { a with options := (name, value) :: a.options }

/-- The arguments with a positional one in front. -/
def addPositional (s : String) (a : Arguments) : Arguments :=
  { a with positionals := s :: a.positionals }

/-- The arguments by kind, if each of them is understood. -/
def sort (shape : Shape) : List String → Option Arguments
  | [] => some empty
  | argument :: rest =>
    match Look.of argument with
    | .terminator => some ⟨[], [], rest⟩
    | .word => (sort shape rest).map (addPositional argument)
    | .short => none
    | .long name (some value) =>
      if shape.options.contains name then (sort shape rest).map (addOption name value) else none
    | .long name none =>
      if shape.flags.contains name then (sort shape rest).map (addFlag name)
      else if shape.options.contains name then
        match rest with
        | value :: rest =>
          if Look.of value = .word then (sort shape rest).map (addOption name value) else none
        | [] => none
      else none

/-- Whether a list has no element twice. -/
def hasNoRepeats (names : List String) : Bool := names.all fun name ↦ names.count name ≤ 1

/-- Whether nothing is given twice, and the number of positional arguments is right. -/
def fits (shape : Shape) (a : Arguments) : Bool :=
  hasNoRepeats a.flags && hasNoRepeats (a.options.map Prod.fst) &&
    a.positionals.length == shape.positionals

/-- **The arguments of a command**, if they are in order. -/
def read (shape : Shape) (arguments : List String) : Option Arguments :=
  (sort shape arguments).filter (fits shape)

/-- Whether a flag is given. -/
def hasFlag (a : Arguments) (name : String) : Bool := a.flags.contains name

/-- The value of an option, if it is given. -/
def option (a : Arguments) (name : String) : Option String := a.options.lookup name

/-- The value of an option, if it is given, by a reader that may refuse it. -/
def optionBy {α : Type} (a : Arguments) (name : String) (read : String → Option α) :
    Option (Option α) :=
  match a.option name with
  | some s => (read s).map some
  | none => some none

end Arguments

end AnimeLookup.CommandLine
