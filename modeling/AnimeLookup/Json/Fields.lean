import AnimeLookup.Json.Basic

/-!
# The fields of a record in JSON

A record is written as an object with one member for each field, or as an array of its fields in
their order.  `Fields.of names v` finds the fields of a record whose fields have the given names;
the functions on `Fields` then read one field each.

* In an object, members with other keys are ignored, however often they occur and whatever they
  hold, but a field may be written only once, and every key must be a text.
* In an array, fields at the end may be missing; there is no room for anything else.

Three kinds of fields differ in what may be missing.  A *required* field must be there.  An
*optional* one may be left out of an object, and may be null; in an array its place must be taken.
A *defaulted* one may be missing in either form, but when it is written it must hold a value, and
null is none.
-/

set_option autoImplicit false

namespace AnimeLookup.Json

/-- What is written for a field. -/
inductive Field where
  /-- A value. -/
  | given (v : Json)
  /-- Nothing, in an object. -/
  | omitted
  /-- Nothing, in an array that ends before the field. -/
  | cutOff

/-- The fields of a record, by name. -/
structure Fields where
  /-- What is written for the field with a name. -/
  field : String → Field

namespace Fields

/-- The fields in the members of an object. -/
def ofMembers (names : List String) (members : List (Option String × Json)) : Option Fields :=
  let keys := members.map Prod.fst
  if keys.contains none then none
  else if names.all fun name ↦ keys.count (some name) ≤ 1 then
    some ⟨fun name ↦ match members.lookup (some name) with
      | some v => .given v
      | none => .omitted⟩
  else none

/-- The fields in the items of an array. -/
def ofItems (names : List String) (items : List Json) : Option Fields :=
  if items.length ≤ names.length then
    some ⟨fun name ↦ match (names.zip items).lookup name with
      | some v => .given v
      | none => .cutOff⟩
  else none

/-- **The fields of a record** with the given field names. -/
def of (names : List String) : Json → Option Fields
  | .object members => ofMembers names members
  | .array items => ofItems names items
  | _ => none

variable {α : Type}

/-- A field that must be there. -/
def required (f : Fields) (name : String) (read : Json → Option α) : Option α :=
  match f.field name with
  | .given v => read v
  | _ => none

/-- A value that may be null. -/
def nullable (read : Json → Option α) : Json → Option (Option α)
  | .null => some none
  | v => (read v).map some

/-- A field that may be left out of an object or be null. -/
def optional (f : Fields) (name : String) (read : Json → Option α) : Option (Option α) :=
  match f.field name with
  | .given v => nullable read v
  | .omitted => some none
  | .cutOff => none

/-- A field that may be left out, in favour of a default. -/
def defaulted (f : Fields) (name : String) (default : α) (read : Json → Option α) : Option α :=
  match f.field name with
  | .given v => read v
  | _ => some default

end Fields

/-! ## Values of fields -/

/-- The text of a string. -/
def toText : Json → Option String
  | .string s => s
  | _ => none

/-- A truth value. -/
def toBool : Json → Option Bool
  | .bool b => some b
  | _ => none

/-- An integer of at least `low` and at most `high`. -/
def toInteger (low high : Int) : Json → Option Int
  | .integer n => if low ≤ n ∧ n ≤ high then some n else none
  | _ => none

/-- An integer of 64 bits without a sign. -/
def toUInt64 (v : Json) : Option UInt64 :=
  (toInteger 0 (UInt64.size - 1) v).map fun n ↦ UInt64.ofNat n.toNat

/-- An integer of 32 bits without a sign. -/
def toUInt32 (v : Json) : Option UInt32 :=
  (toInteger 0 (UInt32.size - 1) v).map fun n ↦ UInt32.ofNat n.toNat

/-- An integer of 16 bits without a sign. -/
def toUInt16 (v : Json) : Option UInt16 :=
  (toInteger 0 (UInt16.size - 1) v).map fun n ↦ UInt16.ofNat n.toNat

/-- An integer of 32 bits. -/
def toInt32 (v : Json) : Option Int32 :=
  (toInteger Int32.minValue.toInt Int32.maxValue.toInt v).map Int32.ofInt

/-- A list of values. -/
def toList {α : Type} (read : Json → Option α) : Json → Option (List α)
  | .array items => items.mapM read
  | _ => none

theorem toInteger_of_mem {low high n : Int} (hlow : low ≤ n) (hhigh : n ≤ high) :
    toInteger low high (.integer n) = some n := if_pos ⟨hlow, hhigh⟩

theorem toUInt64_nat (n : UInt64) : toUInt64 (.nat n.toNat) = some n := by
  have h : n.toNat < UInt64.size := n.toNat_lt
  rw [toUInt64, nat, toInteger_of_mem (by omega) (by omega)]
  simp

theorem toUInt32_nat (n : UInt32) : toUInt32 (.nat n.toNat) = some n := by
  have h : n.toNat < UInt32.size := n.toNat_lt
  rw [toUInt32, nat, toInteger_of_mem (by omega) (by omega)]
  simp

theorem toInt32_integer (n : Int32) : toInt32 (.integer n.toInt) = some n := by
  rw [toInt32, toInteger_of_mem n.minValue_le_toInt n.toInt_le, Option.map_some, Int32.ofInt_toInt]

end AnimeLookup.Json
