import AnimeLookup.Catalog.PartialDate
import AnimeLookup.Proofs.Text.Numerals

/-!
# What can be told from the text of a date

The text of a date with a year is the year and then a hyphen and a number for each further part that
is shown (`toText_eq`).  A hyphen is also the sign of a year before the first one, and the parts are
only filled up to a least width: a year may have ten digits, and so may a day.  Still the text tells
where each part ends, since no part but a negative year has a hyphen in it, and that one in front.

So two dates have the same text exactly if the same parts of them are shown and agree
(`toText_eq_iff_shown`).  No known part is lost from a date of which all parts above it are known.
-/

set_option autoImplicit false

namespace AnimeLookup.Catalog.PartialDate

open Text

/-! ## The text in parts -/

/-- The parts behind the year that are shown. -/
def laterParts (d : PartialDate) : List UInt32 :=
  match d.month, d.day with
  | none, _ => []
  | some m, none => [m]
  | some m, some n => [m, n]

/-- The text of these parts. -/
def partsText (parts : List UInt32) : List Char := parts.flatMap fun n ↦ '-' :: partText n

theorem partsText_cons (n : UInt32) (parts : List UInt32) :
    partsText (n :: parts) = '-' :: (partText n ++ partsText parts) := rfl

/-- **The text of a date with a year** is that of the year and that of the parts behind it. -/
theorem toText_eq {d : PartialDate} {y : Int32} (h : d.year = some y) :
    d.toText = yearText y ++ partsText d.laterParts := by
  obtain ⟨year, _ | m, _ | n⟩ := d <;> obtain rfl := h <;>
    simp [toText, laterParts, partsText]

theorem toText_of_none {d : PartialDate} (h : d.year = none) : d.toText = "unknown".toList := by
  obtain ⟨year, month, day⟩ := d
  obtain rfl := h
  rfl

/-- Of dates with a year the year and the parts behind it are shown. -/
theorem shown_eq_iff {d e : PartialDate} {y z : Int32} (hd : d.year = some y)
    (he : e.year = some z) : d.shown = e.shown ↔ y = z ∧ d.laterParts = e.laterParts := by
  obtain ⟨year, _ | m, _ | n⟩ := d <;> obtain ⟨year', _ | m', _ | n'⟩ := e <;>
    obtain rfl := hd <;> obtain rfl := he <;> simp [shown, laterParts]

theorem shown_of_none {d : PartialDate} (h : d.year = none) : d.shown = unknown := by
  obtain ⟨year, month, day⟩ := d
  obtain rfl := h
  rfl

/-- Leaving out what is not shown makes no date complete or incomplete. -/
theorem isSome_complete?_shown (d : PartialDate) :
    d.shown.complete?.isSome = d.complete?.isSome := by
  obtain ⟨_ | y, _ | m, _ | n⟩ := d <;> rfl

theorem shown_eq_self {d : PartialDate} (h : d.complete?.isSome = true) : d.shown = d := by
  obtain ⟨_ | y, _ | m, _ | n⟩ := d <;> first | rfl | exact absurd h Bool.false_ne_true

/-! ## Reading the text -/

theorem isDigit_head_partsText (parts : List UInt32) :
    ∀ c ∈ (partsText parts).head?, c.isDigit = false := by
  intro c hc
  cases parts with
  | nil => exact absurd hc (by simp [partsText])
  | cons n rest =>
    rw [partsText_cons, List.head?_cons, Option.mem_some_iff] at hc
    exact hc ▸ rfl

/-- **The parts behind the year are known from their text.** -/
theorem partsText_inj {u v : List UInt32} (h : partsText u = partsText v) : u = v := by
  induction u generalizing v with
  | nil =>
    cases v with
    | nil => rfl
    | cons n rest => exact absurd h.symm (List.cons_ne_nil _ _)
  | cons m rest ih =>
    cases v with
    | nil => exact absurd h (List.cons_ne_nil _ _)
    | cons n more =>
      rw [partsText_cons, partsText_cons, List.cons.injEq] at h
      obtain ⟨hvalue, hrest⟩ := padZeros_append_inj (isDigit_head_partsText rest)
        (isDigit_head_partsText more) h.2
      rw [UInt32.toNat_inj.mp hvalue, ih hrest]

/-- No year begins like the word for none. -/
theorem toText_ne_unknown {d : PartialDate} {y : Int32} (h : d.year = some y) :
    d.toText ≠ "unknown".toList := by
  obtain ⟨c, more, hcons, hc⟩ := exists_paddedInt_eq_cons 4 y.toInt
  rw [toText_eq h, yearText, hcons]
  intro heq
  obtain rfl : c = 'u' := (List.cons.inj heq).1
  exact absurd hc (by decide)

/-- The text of a date with a year shows its year and the parts behind it. -/
theorem toText_inj {d e : PartialDate} {y z : Int32} (hd : d.year = some y) (he : e.year = some z)
    (h : d.toText = e.toText) : y = z ∧ d.laterParts = e.laterParts := by
  rw [toText_eq hd, toText_eq he] at h
  obtain ⟨hyear, hparts⟩ := paddedInt_append_inj (isDigit_head_partsText _)
    (isDigit_head_partsText _) h
  exact ⟨Int32.toInt_inj.mp hyear, partsText_inj hparts⟩

theorem shown_eq_of_toText_eq {d e : PartialDate} (h : d.toText = e.toText) :
    d.shown = e.shown := by
  cases hd : d.year with
  | none =>
    cases he : e.year with
    | none => rw [shown_of_none hd, shown_of_none he]
    | some z => exact absurd (h.symm.trans (toText_of_none hd)) (toText_ne_unknown he)
  | some y =>
    cases he : e.year with
    | none => exact absurd (h.trans (toText_of_none he)) (toText_ne_unknown hd)
    | some z => exact (shown_eq_iff hd he).mpr (toText_inj hd he h)

/-- **What the text of a date tells.**  Two dates have the same text exactly if the same parts of
them are shown, which are those in front of the first unknown one, and agree.  In particular
complete dates with the same text are the same, and no complete date has the text of one that is
not. -/
theorem toText_eq_iff_shown :
    (∀ d e : PartialDate, d.toText = e.toText ↔ d.shown = e.shown) ∧
      (∀ d e : PartialDate, d.complete?.isSome = true → e.complete?.isSome = true → d ≠ e →
        d.toText ≠ e.toText) ∧
      ∀ d e : PartialDate, d.complete?.isSome = true → e.complete? = none →
        d.toText ≠ e.toText := by
  refine ⟨fun d e ↦ ⟨shown_eq_of_toText_eq, fun h ↦ ?_⟩, fun d e hd he hne h ↦ hne ?_,
    fun d e hd he h ↦ ?_⟩
  · rw [← toText_shown d, h, toText_shown]
  · have hshown := shown_eq_of_toText_eq h
    rwa [shown_eq_self hd, shown_eq_self he] at hshown
  · have hsome : e.complete?.isSome = true := by
      rw [← isSome_complete?_shown, ← shown_eq_of_toText_eq h, isSome_complete?_shown, hd]
    rw [he] at hsome
    exact absurd hsome Bool.false_ne_true

/-- A negative year of which the sign takes the place of a zero, beside the same year without a
day, and a date whose text begins with the same digits. -/
theorem toText_negative_year :
    let complete : PartialDate := ⟨some (-5), some 12, some 1⟩
    let other : PartialDate := ⟨some (-5), some 1, some 21⟩
    let dayless : PartialDate := ⟨some (-5), some 12, none⟩
    complete.toText = "-005-12-01".toList ∧ complete.toText ≠ other.toText ∧
      complete.toText ≠ dayless.toText := by
  intro complete other dayless
  obtain ⟨-, hcomplete, hpartial⟩ := toText_eq_iff_shown
  exact ⟨rfl, hcomplete complete other rfl rfl (by decide), hpartial complete dayless rfl rfl⟩

end AnimeLookup.Catalog.PartialDate
