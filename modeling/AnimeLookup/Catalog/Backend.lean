import AnimeLookup.Catalog.Error
import AnimeLookup.Catalog.Media

/-!
# Catalogs

A catalog can be searched by title and asked for a record by identifier.  What it answers may depend
on what it has been asked before, so a `Backend` is a pair of functions on its state.

An answer without candidates, or without a record, is an answer.  Errors are for requests that
could not be answered.
-/

set_option autoImplicit false

namespace AnimeLookup.Catalog

/-- A catalog whose state is a `σ`. -/
structure Backend (σ : Type) where
  /-- The candidates for a title, the most relevant one first. -/
  search : String → σ → Except CatalogError (List Candidate) × σ
  /-- The record with an identifier. -/
  fetch : String → σ → Except CatalogError (Option Media) × σ

end AnimeLookup.Catalog
