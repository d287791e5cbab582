import AnimeLookup.Json.Fields

/-!
# The fields of a written record

A record is written as an object with all its fields (`Json.record`).  Reading the fields back
finds each of them, under its own name (`Fields.of_record`): no name is written twice, and every
one of them is a text.

What is found is then read in the way that goes with the kind of field.  A value that may be missing
is null when it is (`orNull`), which an optional field takes for a missing value.  So a field is
read back if its value is, provided that no value is written as null.
-/

set_option autoImplicit false

namespace AnimeLookup.Json

/-! ## Finding the fields -/

/-- The fields of an object with the given members. -/
def Fields.ofObject (members : List (Option String × Json)) : Fields where
  field name := match members.lookup (some name) with
    | some v => .given v
    | none => .omitted

/-- **When the fields of an object are found**: its keys are texts, and no field is given twice. -/
theorem Fields.of_object_iff {names : List String} {members : List (Option String × Json)}
    {f : Fields} :
    Fields.of names (.object members) = some f ↔
      (none ∉ members.map Prod.fst ∧
        ∀ name ∈ names, (members.map Prod.fst).count (some name) ≤ 1) ∧
          Fields.ofObject members = f := by
  have hof : Fields.of names (.object members) =
      if (members.map Prod.fst).contains none then none
      else if names.all fun name ↦ (members.map Prod.fst).count (some name) ≤ 1 then
        some (Fields.ofObject members)
      else none := rfl
  rw [hof]
  by_cases hkeyed : none ∈ members.map Prod.fst
  · rw [if_pos (List.contains_iff_mem.mpr hkeyed)]
    exact iff_of_false (by simp) fun h ↦ h.1.1 hkeyed
  · rw [if_neg fun h ↦ hkeyed (List.contains_iff_mem.mp h)]
    by_cases honce : ∀ name ∈ names, (members.map Prod.fst).count (some name) ≤ 1
    · rw [if_pos (List.all_eq_true.mpr fun name hname ↦ decide_eq_true (honce name hname)),
        Option.some_inj]
      exact ⟨fun h ↦ ⟨⟨hkeyed, honce⟩, h⟩, And.right⟩
    · rw [if_neg fun h ↦ honce fun name hname ↦
        of_decide_eq_true (List.all_eq_true.mp h name hname)]
      exact iff_of_false (by simp) fun h ↦ honce h.1.2

theorem Fields.of_object {names : List String} {members : List (Option String × Json)}
    (hkeyed : none ∉ members.map Prod.fst)
    (honce : ∀ name ∈ names, (members.map Prod.fst).count (some name) ≤ 1) :
    Fields.of names (.object members) = some (Fields.ofObject members) :=
  Fields.of_object_iff.mpr ⟨⟨hkeyed, honce⟩, rfl⟩

/-- **A record with fewer fields is found in the same object**, and its fields are the same: the
other members are none of its business. -/
theorem Fields.of_object_mono {names more : List String} {members : List (Option String × Json)}
    {f : Fields} (hsub : names ⊆ more) (h : Fields.of more (.object members) = some f) :
    Fields.of names (.object members) = some f := by
  obtain ⟨⟨hkeyed, honce⟩, hf⟩ := Fields.of_object_iff.mp h
  exact Fields.of_object_iff.mpr ⟨⟨hkeyed, fun name hname ↦ honce name (hsub hname)⟩, hf⟩

/-- The fields of a record that is written with the given members. -/
def Fields.ofRecord (members : List (String × Json)) : Fields where
  field name := match members.lookup name with
    | some v => .given v
    | none => .omitted

theorem lookup_map_some (members : List (String × Json)) (name : String) :
    (members.map fun (key, value) ↦ (some key, value)).lookup (some name) =
      members.lookup name := by
  induction members with
  | nil => rfl
  | cons member rest ih =>
    obtain ⟨key, v⟩ := member
    rw [List.map_cons, List.lookup_cons, List.lookup_cons, ih]
    rfl

/-- The fields of a written object are found if it has no key twice, whether they are all of its
members or not. -/
theorem Fields.of_record_of_keys (names : List String) {keys : List String}
    {members : List (String × Json)} (hkeys : members.map Prod.fst = keys) (hnodup : keys.Nodup) :
    Fields.of names (record members) = some (Fields.ofRecord members) := by
  have hwritten : (members.map fun (key, value) ↦ (some key, value)).map Prod.fst =
      keys.map some := by
    rw [← hkeys, List.map_map, List.map_map]
    rfl
  have hsome : (keys.map some).Nodup :=
    List.Pairwise.map some (fun _ _ hne heq ↦ hne (Option.some.inj heq)) hnodup
  have hobject : Fields.of names (record members) = some (Fields.ofObject _) :=
    Fields.of_object (by rw [hwritten]; simp) fun name _ ↦ by
      rw [hwritten]
      exact List.nodup_iff_count.mp hsome (some name)
  have hsame : Fields.ofObject (members.map fun (key, value) ↦ (some key, value)) =
      Fields.ofRecord members :=
    congrArg Fields.mk (funext fun name ↦ by rw [lookup_map_some])
  rw [hobject, hsame]

/-- **The fields of a written record are found**, if it has each of them once. -/
theorem Fields.of_record {names : List String} {members : List (String × Json)}
    (hnames : members.map Prod.fst = names) (hnodup : names.Nodup) :
    Fields.of names (record members) = some (Fields.ofRecord members) :=
  Fields.of_record_of_keys names hnames hnodup

/-! ## Values that may be missing, and lists -/

section Values

variable {α : Type} {read : Json → Option α} {write : α → Json}

/-- A value that may be missing. -/
theorem Fields.nullable_orNull (hread : ∀ a, read (write a) = some a) (hnull : ∀ a, write a ≠ .null)
    (o : Option α) : Fields.nullable read (orNull write o) = some o := by
  cases o with
  | none => rfl
  | some a =>
    have hvalue : Fields.nullable read (write a) = (read (write a)).map some := by
      unfold Fields.nullable
      split
      · exact absurd ‹write a = _› (hnull a)
      · rfl
    rw [orNull, hvalue, hread, Option.map_some]

/-- A list of values. -/
theorem toList_array_map (hread : ∀ a, read (write a) = some a) (values : List α) :
    toList read (.array (values.map write)) = some values := by
  show (values.map write).mapM read = some values
  induction values with
  | nil => rfl
  | cons a rest ih => rw [List.map_cons, List.mapM_cons, hread, ih]; rfl

theorem toText_text (s : String) : toText (text s) = some s := rfl

end Values

/-! ## Reading the fields -/

section Fields

variable {α β : Type} {read : Json → Option α} {members : List (String × Json)} {name : String}

/-- Reading a part and going on. -/
theorem bind_of_eq_some {x : Option α} {a : α} {next : α → Option β} {b : β} (h : x = some a)
    (hnext : next a = some b) : x >>= next = some b := by
  rw [h, Option.bind_eq_bind, Option.bind_some, hnext]

theorem Fields.required_ofRecord {v : Json} {a : α} (h : members.lookup name = some v)
    (hv : read v = some a) : (Fields.ofRecord members).required name read = some a := by
  simp only [Fields.required, Fields.ofRecord, h, hv]

theorem Fields.defaulted_ofRecord {v : Json} {a default : α} (h : members.lookup name = some v)
    (hv : read v = some a) : (Fields.ofRecord members).defaulted name default read = some a := by
  simp only [Fields.defaulted, Fields.ofRecord, h, hv]

theorem Fields.optional_ofRecord_given {v : Json} {o : Option α}
    (h : members.lookup name = some v) (hv : Fields.nullable read v = some o) :
    (Fields.ofRecord members).optional name read = some o := by
  simp only [Fields.optional, Fields.ofRecord, h, hv]

theorem Fields.optional_ofRecord {write : α → Json} {o : Option α}
    (h : members.lookup name = some (orNull write o)) (hread : ∀ a, read (write a) = some a)
    (hnull : ∀ a, write a ≠ .null) : (Fields.ofRecord members).optional name read = some o :=
  Fields.optional_ofRecord_given h (Fields.nullable_orNull hread hnull o)

theorem Fields.optional_ofRecord_omitted (h : members.lookup name = none) :
    (Fields.ofRecord members).optional name read = some none := by
  simp only [Fields.optional, Fields.ofRecord, h]

theorem Fields.optional_text {s : Option String}
    (h : members.lookup name = some (orNull text s)) :
    (Fields.ofRecord members).optional name toText = some s :=
  Fields.optional_ofRecord h (fun _ ↦ rfl) fun _ ↦ by simp [text]

end Fields

end AnimeLookup.Json
