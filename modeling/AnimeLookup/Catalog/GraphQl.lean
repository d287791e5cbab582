import AnimeLookup.Catalog.Error
import AnimeLookup.Json.Fields
import AnimeLookup.Json.Reader

/-!
# GraphQL questions and answers

A GraphQL question names the fields it wants.  `Selection` is such a tree of fields, and `document`
writes one down as text, so that a question is kept in the shape of the record it asks for.

An answer is an envelope around the data.  It may report errors instead of data or besides them,
and then the errors count: one with status 404 says that there is no such thing, and the messages
of all others are passed on together.
-/

set_option autoImplicit false

namespace AnimeLookup.Catalog.GraphQl

/-! ## Questions -/

/-- A field that a question asks for, with the fields of it that are wanted. -/
inductive Selection where
  /-- A field, perhaps with arguments, and the fields wanted of it. -/
  | field (head : String) (children : List Selection)

/-- A field without fields of its own. -/
def leaf (head : String) : Selection := .field head []

/-- A field of which only plain fields are wanted. -/
def branch (head : String) (leaves : List String) : Selection := .field head (leaves.map leaf)

mutual

/-- The text of a field. -/
def Selection.render : Selection → String
  | .field head [] => head
  | .field head (child :: rest) =>
    head ++ " \x7b " ++ child.render ++ renderRest rest ++ " \x7d"

/-- The text of the fields behind the first one. -/
def renderRest : List Selection → String
  | [] => ""
  | s :: rest => " " ++ s.render ++ renderRest rest

end

/-- A question: its text, and the values of the variables in it. -/
structure Question where
  /-- The text. -/
  document : String
  /-- The values of its variables. -/
  values : Json

/-! ## Answers -/

/-- An error that an answer reports. -/
structure ReportedError where
  /-- What went wrong. -/
  message : String
  /-- The status that goes with it. -/
  status : Option UInt16

/-- A reported error, from JSON. -/
def ReportedError.ofJson (v : Json) : Option ReportedError := do
  let f ← Json.Fields.of ["message", "status"] v
  return ⟨← f.required "message" Json.toText, ← f.optional "status" Json.toUInt16⟩

/-- An answer: its data and the errors it reports. -/
structure Envelope (α : Type) where
  /-- The data. -/
  data : Option α
  /-- The errors. -/
  errors : Option (List ReportedError)

/-- An answer, from JSON, with a reader for the data. -/
def Envelope.ofJson {α : Type} (read : Json → Option α) (v : Json) : Option (Envelope α) := do
  let f ← Json.Fields.of ["data", "errors"] v
  return ⟨← f.optional "data" read, ← f.optional "errors" (Json.toList ReportedError.ofJson)⟩

/-- The error that stands for the errors an answer reports. -/
def reported (errors : List ReportedError) : CatalogError :=
  if errors.any (·.status == some 404) then .status 404
  else .graphQl ("; ".intercalate (errors.map ReportedError.message))

/-- What an answer comes to: the errors it reports, or else its data. -/
def Envelope.outcome {α : Type} (e : Envelope α) : Except CatalogError α :=
  match e.errors with
  | some (error :: rest) => .error (reported (error :: rest))
  | _ =>
    match e.data with
    | some a => .ok a
    | none => .error (.graphQl "response has no data")

/-- **What the text of an answer comes to**, with a reader for the data. -/
def decode {α : Type} (read : Json → Option α) (body : List UInt8) : Except CatalogError α :=
  match (Json.readBytes body).bind (Envelope.ofJson read) with
  | some e => e.outcome
  | none => .error .decode

end AnimeLookup.Catalog.GraphQl
