/-!
# JSON values

The catalog speaks JSON, and the program prints records in it.  `Json` keeps exactly what the rest
of the library can tell apart.

* An object is the list of its members in the order they were written, repeated keys included.
  Whether a repetition is an error depends on the key, so it cannot be settled here.
* A number is an integer if it is written as one.  Every other number (with a fraction or an
  exponent, or a negative zero) is `inexact`: no field takes it, so its value is not kept.
* A string, and the key of a member, may be `none`: its quotation marks are in order, but what is
  between them stands for no text, because of a surrogate without its partner or a byte that is
  not UTF-8.  Such a string is an error only where somebody wants to read it.
-/

set_option autoImplicit false

namespace AnimeLookup

/-- A JSON value. -/
inductive Json where
  /-- The null value. -/
  | null
  /-- A truth value. -/
  | bool (b : Bool)
  /-- A number written as an integer. -/
  | integer (n : Int)
  /-- A number written in any other way. -/
  | inexact
  /-- A string, or `none` if its content is no text. -/
  | string (s : Option String)
  /-- A list of values. -/
  | array (items : List Json)
  /-- Members in the order they are written. -/
  | object (members : List (Option String × Json))
  deriving Inhabited

namespace Json

/-- A string value. -/
def text (s : String) : Json := .string (some s)

/-- A natural number as a value. -/
def nat (n : Nat) : Json := .integer n

/-- A value that may be missing, with `null` in its place. -/
def orNull {α : Type} (f : α → Json) : Option α → Json
  | some a => f a
  | none => .null

/-- An object with the given members. -/
def record (members : List (String × Json)) : Json :=
  .object (members.map fun (key, value) ↦ (some key, value))

/-- The value of the first member with the given key. -/
def member? (key : String) : Json → Option Json
  | .object members => members.lookup (some key)
  | _ => none

end Json

end AnimeLookup
