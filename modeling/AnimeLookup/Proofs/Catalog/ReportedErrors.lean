import AnimeLookup.Catalog.AniList
import AnimeLookup.Proofs.Json.RecordFields
import AnimeLookup.Proofs.Json.RoundTrip

/-!
# Errors that an answer reports

An answer may report errors besides its data, and then the errors are what it comes to, unless the
data is not what was asked for.  The envelope is read as a whole, so data that cannot be read makes
all of the answer unreadable, its errors included (`decode_of_reportsErrors`).

That is not a matter of answers that nobody gives.  A server that fails to find a page answers with
the errors and null for the page, and null is no page (`misfit_data_hides_errors`).
-/

set_option autoImplicit false

namespace AnimeLookup.Catalog.GraphQl

open Json (Fields)

/-- **An answer that reports errors**: the members of an object in good order, which list errors
that can all be read. -/
structure ReportsErrors (members : List (Option String × Json)) (errors : List ReportedError) :
    Prop where
  /-- Every key is a text. -/
  keyed : none ∉ members.map Prod.fst
  /-- The data and the errors are written once at most. -/
  once : ∀ name ∈ ["data", "errors"], (members.map Prod.fst).count (some name) ≤ 1
  /-- The errors are listed. -/
  listed : ∃ entries, members.lookup (some "errors") = some (.array entries) ∧
    entries.mapM ReportedError.ofJson = some errors
  /-- There is one at least. -/
  ne_nil : errors ≠ []

/-- The data of an answer can be read, is null, or is not there. -/
def DataFits {α : Type} (read : Json → Option α) (members : List (Option String × Json)) : Prop :=
  ∀ v, members.lookup (some "data") = some v → v = .null ∨ (read v).isSome = true

theorem nullable_isSome_iff {α : Type} (read : Json → Option α) (v : Json) :
    (Fields.nullable read v).isSome = true ↔ v = .null ∨ (read v).isSome = true := by
  unfold Fields.nullable
  split
  · simp
  · rename_i hnull
    rw [Option.isSome_map, or_iff_right hnull]

theorem reported_of_absent {errors : List ReportedError} (h : ∃ e ∈ errors, e.status = some 404) :
    reported errors = .status 404 := by
  have hany : errors.any (·.status == some 404) = true := by simpa using h
  rw [reported, if_pos hany]

theorem reported_of_present {errors : List ReportedError} (h : ∀ e ∈ errors, e.status ≠ some 404) :
    reported errors = .graphQl ("; ".intercalate (errors.map ReportedError.message)) := by
  have hany : ¬ errors.any (·.status == some 404) = true := by simpa using h
  rw [reported, if_neg hany]

section Decoding

variable {α : Type} (read : Json → Option α) {body : List UInt8}
  {members : List (Option String × Json)} {errors : List ReportedError}

/-- The envelope of an answer that reports errors is read if its data is. -/
theorem envelope_of_reportsErrors (h : ReportsErrors members errors) :
    ∃ data : Option (Option α), (data.isSome = true ↔ DataFits read members) ∧
      Envelope.ofJson read (.object members) = data.map fun d ↦ ⟨d, some errors⟩ := by
  obtain ⟨entries, hlookup, hentries⟩ := h.listed
  have hfields := Fields.of_object h.keyed h.once
  have hlist : Fields.nullable (Json.toList ReportedError.ofJson) (.array entries) =
      some (some errors) := by
    show (entries.mapM ReportedError.ofJson).map some = _
    rw [hentries, Option.map_some]
  cases hdata : members.lookup (some "data") with
  | none =>
    refine ⟨some none, iff_of_true rfl fun v hv ↦ absurd (hdata.symm.trans hv) (by simp), ?_⟩
    simp [Envelope.ofJson, hfields, Fields.optional, Fields.ofObject, hdata, hlookup, hlist]
  | some v =>
    refine ⟨Fields.nullable read v, ?_, ?_⟩
    · rw [nullable_isSome_iff]
      refine ⟨fun hfits w hw ↦ ?_, fun hfits ↦ hfits v hdata⟩
      rwa [← Option.some.inj (hdata.symm.trans hw)]
    · simp only [Envelope.ofJson, hfields, Option.bind_eq_bind, Option.bind_some, Fields.optional,
        Fields.ofObject, hdata, hlookup, hlist, Option.map_eq_bind]
      rfl

/-- **What an answer that reports errors comes to.**  If its data can be read or is missing, it is a
status 404 as soon as one of the errors has that status, and otherwise all of their messages in
their order.  Any other data makes the answer one that cannot be read. -/
theorem decode_of_reportsErrors (hbody : Json.readBytes body = some (.object members))
    (h : ReportsErrors members errors) :
    (DataFits read members →
      ((∃ e ∈ errors, e.status = some 404) → decode read body = .error (.status 404)) ∧
        ((∀ e ∈ errors, e.status ≠ some 404) → decode read body =
          .error (.graphQl ("; ".intercalate (errors.map ReportedError.message))))) ∧
      (¬ DataFits read members → decode read body = .error .decode) := by
  obtain ⟨data, hfits, henvelope⟩ := envelope_of_reportsErrors read h
  obtain ⟨e, rest, herrors⟩ := List.exists_cons_of_ne_nil h.ne_nil
  rw [← hfits, decode, hbody, Option.bind_some, henvelope]
  cases data with
  | none => exact ⟨fun hsome ↦ absurd hsome (by simp), fun _ ↦ rfl⟩
  | some d =>
    have houtcome : Envelope.outcome ⟨d, some errors⟩ = .error (reported errors) := by
      rw [herrors]
      rfl
    refine ⟨fun _ ↦ ⟨fun habsent ↦ ?_, fun hpresent ↦ ?_⟩, fun hnone ↦ absurd rfl hnone⟩
    · exact houtcome.trans (congrArg Except.error (reported_of_absent habsent))
    · exact houtcome.trans (congrArg Except.error (reported_of_present hpresent))

end Decoding

/-! ## A page that is not found -/

/-- The members of an answer that reports an error of the server, with the given data. -/
def failureMembers (data : Json) : List (String × Json) :=
  [("errors", .array [Json.record [("message", Json.text "Internal error"),
    ("status", Json.nat 500)]]), ("data", data)]

theorem reportsErrors_failureMembers (data : Json) :
    ReportsErrors ((failureMembers data).map fun (key, v) ↦ (some key, v))
      [⟨"Internal error", some 500⟩] where
  keyed := by simp [failureMembers]
  once := by simp [failureMembers]
  listed := ⟨_, rfl, rfl⟩
  ne_nil := List.cons_ne_nil _ _

/-- A record that is not found comes with null, and the error is what the answer comes to. -/
theorem decode_missing_record :
    GraphQl.decode AniList.mediaData
        (Text.Utf8.encode ((Json.record (failureMembers .null)).write .compact)) =
      .error (.graphQl "Internal error") :=
  have hfits : DataFits AniList.mediaData
      ((failureMembers .null).map fun (key, v) ↦ (some key, v)) :=
    fun _ hv ↦ .inl (Option.some.inj hv).symm
  have houtcome := decode_of_reportsErrors AniList.mediaData (Json.readBytes_encode_write _ _)
    (reportsErrors_failureMembers .null)
  (houtcome.1 hfits).2 (by decide)

/-- **Data of the wrong form hides the errors of an answer**: null for the page of a search, or an
empty record. -/
theorem misfit_data_hides_errors :
    ReportsErrors
        ((failureMembers (Json.record [("Page", .null)])).map fun (key, v) ↦ (some key, v))
        [⟨"Internal error", some 500⟩] ∧
      GraphQl.decode AniList.searchData (Text.Utf8.encode
        ((Json.record (failureMembers (Json.record [("Page", .null)]))).write .compact)) =
          .error .decode ∧
      GraphQl.decode AniList.mediaData (Text.Utf8.encode
        ((Json.record (failureMembers (Json.record [("Media", Json.record [])]))).write .compact)) =
          .error .decode := by
  refine ⟨reportsErrors_failureMembers _, ?_, ?_⟩
  · rw [decode, Json.readBytes_encode_write]
    rfl
  · rw [decode, Json.readBytes_encode_write]
    rfl

end AnimeLookup.Catalog.GraphQl
