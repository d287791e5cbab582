import AnimeLookup.Number.Rounding
import AnimeLookup.Text.Quoted

/-!
# What can go wrong with a catalog

A `CatalogError` says why a request to a catalog has no usable answer.  Finding nothing is not one
of the reasons: an empty list of candidates and a missing record are answers.

The waiting time that a catalog asks for is kept in milliseconds.  In a message it is shown in
seconds with one decimal place, as the floating-point number nearest to it.
-/

set_option autoImplicit false

namespace AnimeLookup.Catalog

open Number Text

/-- Why a request to a catalog has no usable answer. -/
inductive CatalogError where
  /-- The request or its answer did not get through. -/
  | http
  /-- The catalog refuses requests for now, and may say for how many milliseconds. -/
  | rateLimited (retryAfterMs : Option Nat)
  /-- The answer has a status that means failure. -/
  | status (code : Nat)
  /-- The answer reports errors of its own. -/
  | graphQl (message : String)
  /-- The answer is not what was asked for. -/
  | decode
  /-- The catalog has no such identifiers. -/
  | invalidId (id : String)
  /-- Anything else. -/
  | other (message : String)
  deriving DecidableEq

/-- A time in milliseconds as seconds in double precision.  Whole seconds and the rest are rounded
each by itself before they are added. -/
def secondsOf (ms : Nat) : Fraction :=
  let whole := (Fraction.ofNat (ms / 1000)).rounded double
  let nanoseconds := (Fraction.ofNat (ms % 1000 * 1000000)).rounded double
  (whole.add ((nanoseconds.divNat 1000000000).rounded double)).rounded double

/-- A time in milliseconds as a message shows it. -/
def secondsText (ms : Nat) : String := String.ofList ((secondsOf ms).fixed 1) ++ "s"

/-- **The text of an error.** -/
def CatalogError.message : CatalogError → String
  | .http => "HTTP request error"
  | .rateLimited none => "rate limited (429)"
  | .rateLimited (some ms) => "rate limited (429), retry after " ++ secondsText ms
  | .status code => "HTTP " ++ String.ofList (decimal code)
  | .graphQl message => "GraphQL error: " ++ message
  | .decode => "malformed response"
  | .invalidId id => "invalid catalog id: " ++ quoted id
  | .other message => message

end AnimeLookup.Catalog
