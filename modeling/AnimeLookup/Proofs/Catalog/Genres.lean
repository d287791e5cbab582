import AnimeLookup.Catalog.Media
import AnimeLookup.Proofs.Text.ByteOrder

/-!
# The genres that are listed

A listing of genres is made in four steps: the generic genres and repetitions are dropped, the
default genre is put in front, the list is cut, and what is left is put in order.  This file says
what comes of them together.

* `ArrangedByBytes` is the order of a listing, said without an algorithm: the same texts, and none
  behind one with greater bytes.  There is one such arrangement of given texts and no other
  (`ArrangedByBytes.unique`).
* `specificGenres` are the genres that say something about a work, each once, in the order in which
  they first appear.
* `ListedBeside` is a listing with a default genre: what it is made of, and what can be said of it
  because the default genre is put in front before the list is cut.

`genreNames_listed` puts them together.  A listing that is taken for the genres of the record stays
as it is: it has no repetition and no generic genre but the default one, and it is short enough.
-/

set_option autoImplicit false

namespace AnimeLookup.Catalog

open Text

/-! ## Arranged texts -/

/-- **Some texts in the order of their bytes.** -/
structure ArrangedByBytes (texts arranged : List String) : Prop where
  /-- They are the same texts, each as often as before. -/
  perm : arranged.Perm texts
  /-- No text stands behind one with greater bytes. -/
  ordered : arranged.Pairwise fun s t ↦ ¬ Utf8.encode t.toList < Utf8.encode s.toList

theorem not_encode_lt_iff {s t : String} :
    ¬ Utf8.encode t.toList < Utf8.encode s.toList ↔ s ≤ t := by
  rw [Utf8.encode_lt_iff]
  exact String.not_lt

namespace ArrangedByBytes

variable {texts texts' arranged arranged' : List String}

theorem mergeSort (texts : List String) : ArrangedByBytes texts (texts.mergeSort (· ≤ ·)) where
  perm := texts.mergeSort_perm _
  ordered := by
    have hordered : (texts.mergeSort (· ≤ ·)).Pairwise fun s t ↦ decide (s ≤ t) = true := by
      refine List.pairwise_mergeSort (fun s t u hst htu ↦ ?_) (fun s t ↦ ?_) texts
      · exact decide_eq_true (String.le_trans (of_decide_eq_true hst) (of_decide_eq_true htu))
      · simpa using String.le_total s t
    exact hordered.imp fun h ↦ not_encode_lt_iff.mpr (of_decide_eq_true h)

/-- **There is one arrangement of given texts.** -/
theorem unique (h : ArrangedByBytes texts arranged) (h' : ArrangedByBytes texts arranged') :
    arranged = arranged' :=
  List.Perm.eq_of_pairwise
    (fun _ _ _ _ hle hge ↦
      String.le_antisymm (not_encode_lt_iff.mp hle) (not_encode_lt_iff.mp hge))
    h.ordered h'.ordered (h.perm.trans h'.perm.symm)

/-- What is arranged stays as it is. -/
theorem again (h : ArrangedByBytes texts arranged) (hperm : texts'.Perm arranged) :
    ArrangedByBytes texts' arranged :=
  ⟨hperm.symm, h.ordered⟩

end ArrangedByBytes

/-! ## Distinct texts -/

section Distinct

variable {α : Type} [DecidableEq α]

theorem eraseDups_filter (p : α → Bool) :
    ∀ l : List α, (l.filter p).eraseDups = l.eraseDups.filter p
  | [] => rfl
  | a :: rest => by
    have hrest := eraseDups_filter p (rest.filter (!· == a))
    rw [List.eraseDups_cons]
    by_cases ha : p a = true
    · rw [List.filter_cons_of_pos ha, List.eraseDups_cons, List.filter_cons_of_pos ha, ← hrest,
        List.filter_filter, List.filter_filter]
      simp only [Bool.and_comm]
    · -- The repetitions of `a` are dropped with it.
      rw [List.filter_cons_of_neg ha, List.filter_cons_of_neg ha, ← hrest, List.filter_filter]
      refine congrArg List.eraseDups (List.filter_congr fun b _ ↦ ?_)
      by_cases hb : b = a
      · simp [hb, ha]
      · simp [hb]
termination_by l => l.length
decreasing_by exact Nat.lt_succ_of_le (List.length_filter_le _ rest)

/-- To keep the first of each is to drop the repetitions. -/
theorem firstOfEach_eq_eraseDups (l : List α) : firstOfEach (fun a ↦ a) l = l.eraseDups := by
  induction l with
  | nil => rfl
  | cons a rest ih =>
    rw [firstOfEach, ih, List.eraseDups_cons, eraseDups_filter]
    refine congrArg (a :: ·) (List.filter_congr fun b _ ↦ ?_)
    by_cases hb : b = a <;> simp [hb]

theorem nodup_eraseDups (l : List α) : l.eraseDups.Nodup := by
  rw [← firstOfEach_eq_eraseDups]
  exact pairwise_firstOfEach (fun a ↦ a) l

theorem eraseDups_of_nodup {l : List α} (h : l.Nodup) : l.eraseDups = l := by
  induction l with
  | nil => rfl
  | cons a rest ih =>
    obtain ⟨ha, hrest⟩ := List.nodup_cons.mp h
    have hother : ∀ b ∈ rest, (!b == a) = true := fun b hb ↦ by
      simpa using fun heq : b = a ↦ ha (heq ▸ hb)
    rw [List.eraseDups_cons, List.filter_eq_self.mpr hother, ih hrest]

end Distinct

/-! ## The genres beside the default one -/

/-- Whether a genre says more of a work than that it is animated. -/
def isSpecific (g : String) : Bool := g ≠ "Anime" && g ≠ "Animation"

/-- **The specific genres of a work**, each once, in the order in which they first appear. -/
def specificGenres (genres : List String) : List String := genres.eraseDups.filter isSpecific

/-- The specific genres for which there is room beside the default one. -/
def roomedGenres (cap : Nat) (genres : List String) : List String :=
  if cap = 0 then specificGenres genres else (specificGenres genres).take (cap - 1)

/-- **A listing with a default genre.** -/
structure ListedBeside (label : String) (cap : Nat) (genres listed : List String) : Prop where
  /-- It is the default genre and the first specific ones, in the order of their bytes. -/
  arranged : ArrangedByBytes (label :: roomedGenres cap genres) listed
  /-- The default genre is listed exactly once. -/
  label_once : listed.count label = 1
  /-- Nothing is listed twice. -/
  nodup : listed.Nodup
  /-- No generic genre is listed but the default one. -/
  specific : ∀ g ∈ listed, g ≠ label → isSpecific g = true
  /-- The listing is not too long. -/
  length_le : 0 < cap → listed.length ≤ cap

variable {label : String} {cap : Nat} {genres listed : List String}

theorem roomedGenres_sublist (cap : Nat) (genres : List String) :
    (roomedGenres cap genres).Sublist (specificGenres genres) := by
  rw [roomedGenres]
  split
  · exact List.Sublist.refl _
  · exact List.take_sublist _ _

theorem nodup_specificGenres (genres : List String) : (specificGenres genres).Nodup :=
  (nodup_eraseDups genres).filter _

theorem isSpecific_of_mem_roomedGenres {g : String} (h : g ∈ roomedGenres cap genres) :
    isSpecific g = true :=
  (List.mem_filter.mp ((roomedGenres_sublist cap genres).subset h)).2

theorem length_roomedGenres_lt (h : 0 < cap) : (roomedGenres cap genres).length < cap := by
  rw [roomedGenres, if_neg (Nat.ne_of_gt h), List.length_take]
  omega

/-- A default genre is put in front before the list is cut, so it never meets itself there. -/
theorem ListedBeside.of_arranged (hlabel : isSpecific label = false)
    (h : ArrangedByBytes (label :: roomedGenres cap genres) listed) :
    ListedBeside label cap genres listed := by
  have hnot : label ∉ roomedGenres cap genres := fun hmem ↦
    Bool.false_ne_true (hlabel.symm.trans (isSpecific_of_mem_roomedGenres hmem))
  have hnodup : (label :: roomedGenres cap genres).Nodup := List.nodup_cons.mpr
    ⟨hnot, (nodup_specificGenres genres).sublist (roomedGenres_sublist cap genres)⟩
  refine ⟨h, ?_, h.perm.nodup_iff.mpr hnodup, fun g hg hne ↦ ?_, fun hcap ↦ ?_⟩
  · rw [h.perm.count_eq, List.count_cons_self, List.count_eq_zero.mpr hnot]
  · exact isSpecific_of_mem_roomedGenres
      ((List.mem_cons.mp (h.perm.subset hg)).resolve_left hne)
  · rw [h.perm.length_eq]
    exact length_roomedGenres_lt hcap

/-- The specific genres of a listing are those beside the default one. -/
theorem ListedBeside.specificGenres_perm (hlabel : isSpecific label = false)
    (h : ListedBeside label cap genres listed) :
    (specificGenres listed).Perm (roomedGenres cap genres) := by
  rw [specificGenres, eraseDups_of_nodup h.nodup]
  have hperm := h.arranged.perm.filter isSpecific
  rwa [List.filter_cons_of_neg (by simp [hlabel]),
    List.filter_eq_self.mpr fun g hg ↦ isSpecific_of_mem_roomedGenres hg] at hperm

/-- **A listing has room for itself.** -/
theorem ListedBeside.roomedGenres_perm (hlabel : isSpecific label = false)
    (h : ListedBeside label cap genres listed) :
    (label :: roomedGenres cap listed).Perm listed := by
  have hspecific := h.specificGenres_perm hlabel
  have hroom : roomedGenres cap listed = specificGenres listed := by
    rw [roomedGenres]
    split
    · rfl
    · rename_i hcap
      have hlt : (roomedGenres cap genres).length < cap :=
        length_roomedGenres_lt (Nat.pos_of_ne_zero hcap)
      exact List.take_of_length_le (by rw [hspecific.length_eq]; omega)
  rw [hroom]
  exact (hspecific.cons label).trans h.arranged.perm.symm

/-! ## The listing -/

namespace Media

theorem length_capped_le {α : Type} {cap : Nat} (h : 0 < cap) (l : List α) :
    (capped cap l).length ≤ cap := by
  rw [capped, if_neg (Nat.ne_of_gt h)]
  exact List.length_take_le cap l

theorem capped_eq_self {α : Type} {cap : Nat} {l : List α} (h : 0 < cap → l.length ≤ cap) :
    capped cap l = l := by
  rw [capped]
  split
  · rfl
  · rename_i hcap
    exact List.take_of_length_le (h (Nat.pos_of_ne_zero hcap))

theorem selectedGenres_some (label : String) (genres : List String) :
    selectedGenres (some label) genres = label :: specificGenres genres := by
  have hspecific : (fun g ↦ !genericGenres.contains g) = isSpecific := by
    funext g
    simp [genericGenres, isSpecific, Bool.and_comm]
  rw [selectedGenres, firstOfEach_eq_eraseDups, eraseDups_filter, hspecific, specificGenres]

theorem capped_selectedGenres (label : String) (cap : Nat) (genres : List String) :
    capped cap (selectedGenres (some label) genres) = label :: roomedGenres cap genres := by
  rw [selectedGenres_some, capped, roomedGenres]
  cases cap with
  | zero => rfl
  | succ k => rfl

end Media

theorem isSpecific_label {g : DefaultGenre} (h : g.label = some label) :
    isSpecific label = false := by
  cases g with
  | none => exact absurd h (by simp [DefaultGenre.label])
  | anime => exact Option.some.inj h ▸ by decide
  | animation => exact Option.some.inj h ▸ by decide

/-- **The genres of a record as they are listed.**  With a default genre they are that one and the
first specific ones, without one the first that the record has; in both cases in the order of their
bytes.  To list the genres of a listing changes nothing. -/
theorem genreNames_listed (m : Media) (settings : Settings) :
    let cap := settings.maxGenres.toNat
    let genres := m.genres.getD []
    let listed := m.genreNames settings
    (∀ label, settings.defaultGenre.label = some label → ListedBeside label cap genres listed) ∧
      (settings.defaultGenre.label = none →
        ArrangedByBytes (if cap = 0 then genres else genres.take cap) listed) ∧
      { m with genres := some listed }.genreNames settings = listed := by
  intro cap genres listed
  have harranged : ArrangedByBytes
      (Media.capped cap (Media.selectedGenres settings.defaultGenre.label genres)) listed :=
    .mergeSort _
  have hagain : ArrangedByBytes
      (Media.capped cap (Media.selectedGenres settings.defaultGenre.label listed))
      ({ m with genres := some listed }.genreNames settings) :=
    .mergeSort _
  cases hlabel : settings.defaultGenre.label with
  | none =>
    rw [hlabel] at harranged hagain
    have hlength : 0 < cap → listed.length ≤ cap := fun hcap ↦ by
      rw [harranged.perm.length_eq]
      exact Media.length_capped_le hcap genres
    refine ⟨fun _ h ↦ absurd h (by simp), fun _ ↦ harranged, ?_⟩
    exact hagain.unique (harranged.again (.of_eq (Media.capped_eq_self hlength)))
  | some label =>
    rw [hlabel, Media.capped_selectedGenres] at harranged hagain
    have hbeside := ListedBeside.of_arranged (isSpecific_label hlabel) harranged
    refine ⟨fun _ h ↦ Option.some.inj h ▸ hbeside, fun h ↦ absurd h (by simp), ?_⟩
    exact hagain.unique (harranged.again (hbeside.roomedGenres_perm (isSpecific_label hlabel)))

end AnimeLookup.Catalog
