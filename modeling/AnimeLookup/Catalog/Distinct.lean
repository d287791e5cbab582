/-!
# Keeping the first of each kind

Lists that come from a catalog repeat themselves: a genre may be listed twice, an actor may be
credited twice for one character.  `firstOfEach key` keeps, for every key, the first element that
has it, in the order in which they stand.
-/

set_option autoImplicit false

namespace AnimeLookup.Catalog

variable {α κ : Type} [DecidableEq κ]

/-- **The elements whose key no earlier element has.** -/
def firstOfEach (key : α → κ) : List α → List α
  | [] => []
  | a :: rest => a :: (firstOfEach key rest).filter fun b ↦ key b ≠ key a

theorem mem_of_mem_firstOfEach {key : α → κ} {l : List α} {a : α} (h : a ∈ firstOfEach key l) :
    a ∈ l := by
  induction l with
  | nil => simp [firstOfEach] at h
  | cons b rest ih =>
    rw [firstOfEach, List.mem_cons, List.mem_filter] at h
    rcases h with rfl | ⟨hmem, _⟩
    · exact List.mem_cons_self
    · exact List.mem_cons_of_mem _ (ih hmem)

/-- No two of the kept elements have the same key. -/
theorem pairwise_firstOfEach (key : α → κ) (l : List α) :
    (firstOfEach key l).Pairwise fun a b ↦ key a ≠ key b := by
  induction l with
  | nil => exact List.Pairwise.nil
  | cons a rest ih =>
    refine List.pairwise_cons.mpr ⟨fun b hb ↦ ?_, ih.filter _⟩
    rw [List.mem_filter, decide_eq_true_eq] at hb
    exact hb.2.symm

/-- No key is lost. -/
theorem exists_mem_firstOfEach {key : α → κ} {l : List α} {a : α} (h : a ∈ l) :
    ∃ b ∈ firstOfEach key l, key b = key a := by
  induction l with
  | nil => simp at h
  | cons c rest ih =>
    rcases List.mem_cons.mp h with rfl | hrest
    · exact ⟨a, List.mem_cons_self, rfl⟩
    · obtain ⟨b, hb, hkey⟩ := ih hrest
      by_cases hc : key b = key c
      · exact ⟨c, List.mem_cons_self, hc.symm.trans hkey⟩
      · exact ⟨b, List.mem_cons_of_mem _ (List.mem_filter.mpr ⟨hb, by simpa using hc⟩), hkey⟩

end AnimeLookup.Catalog
