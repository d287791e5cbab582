import AnimeLookup.Display.Styled
import AnimeLookup.Proofs.Text.Trimming

/-!
# What styled texts read as

A span is written in two ways, with and without styles, and nothing in its definition makes them say
the same.  They do if the coloured way *reads as* the plain one (`Span.Agrees`), and then a whole
output reads as the plain output (`AllAgree.withoutEscapes_render`).

A text reads as another if taking out the escape sequences turns it into the other one, whatever
stands behind it (`ReadsAs`).  Without the last clause this would say nothing about longer texts,
since a text may end within a sequence.  With it, texts that read as others can be put one behind
the other and set in styles, and everything without an escape character reads as itself.
-/

set_option autoImplicit false

namespace AnimeLookup.Display

open Text

/-! ## Taking escape sequences out -/

/-- **A text without the escape character.** -/
def EscapeFree (s : List Char) : Prop := '\x1b' ∉ s

instance (s : List Char) : Decidable (EscapeFree s) := inferInstanceAs (Decidable ('\x1b' ∉ s))

/-- **A text that reads as another**: without its escape sequences it is the other one, and what
stands behind it makes no difference. -/
def ReadsAs (s t : List Char) : Prop :=
  ∀ rest, withoutEscapes (s ++ rest) = t ++ withoutEscapes rest

theorem withoutEscapesAfter_eq_drop (skip : Nat) (s : List Char) :
    withoutEscapesAfter skip s = withoutEscapes (s.drop skip) := by
  induction skip generalizing s with
  | zero => rfl
  | succ n ih =>
    cases s with
    | nil => rfl
    | cons c rest => rw [withoutEscapesAfter, ih, List.drop_succ_cons]

theorem withoutEscapes_cons_of_ne {c : Char} (h : c ≠ '\x1b') (s : List Char) :
    withoutEscapes (c :: s) = c :: withoutEscapes s := by
  rw [withoutEscapes, withoutEscapesAfter, if_neg h, withoutEscapes]

/-- Behind the escape character a sequence goes on up to its `m`. -/
theorem escapeTailLength_escape (n : Nat) (rest : List Char) :
    escapeTailLength ('[' :: decimal n ++ 'm' :: rest) = some ((decimal n).length + 2) := by
  have hstop : ∀ c ∈ ('m' :: rest).head?, Char.isDigit c = false :=
    fun c hc ↦ Option.some.inj hc ▸ rfl
  have hfirst : (decimal n ++ 'm' :: rest).head?.any Char.isDigit = true := by
    obtain ⟨d, more, hd⟩ := List.exists_cons_of_ne_nil (decimal_ne_nil n)
    have hall := all_isDigit_decimal n
    rw [hd, List.all_cons, Bool.and_eq_true] at hall
    rw [hd, List.cons_append, List.head?_cons, Option.any_some, hall.1]
  rw [List.cons_append, escapeTailLength, hfirst,
    dropWhile_append_of_stop (all_isDigit_decimal n) hstop,
    takeWhile_append_of_stop (all_isDigit_decimal n) hstop]
  rfl

namespace ReadsAs

variable {s t u v : List Char}

theorem withoutEscapes_eq (h : ReadsAs s t) : withoutEscapes s = t := by
  have hnil := h []
  rwa [List.append_nil, show withoutEscapes [] = [] from rfl, List.append_nil] at hnil

/-- A text without the escape character reads as itself. -/
theorem of_escapeFree (h : EscapeFree s) : ReadsAs s s := by
  intro rest
  induction s with
  | nil => rfl
  | cons c more ih =>
    rw [EscapeFree, List.mem_cons, not_or] at h
    rw [List.cons_append, withoutEscapes_cons_of_ne (Ne.symm h.1), ih h.2, List.cons_append]

theorem append (h : ReadsAs s t) (h' : ReadsAs u v) : ReadsAs (s ++ u) (t ++ v) := by
  intro rest
  rw [List.append_assoc, h, h', List.append_assoc]

/-- An escape sequence reads as nothing. -/
theorem escape (n : Nat) : ReadsAs (escape n) [] := by
  intro rest
  have htext : Display.escape n ++ rest = '\x1b' :: ('[' :: decimal n ++ 'm' :: rest) := by
    rw [Display.escape, List.append_assoc]
    rfl
  have hdrop : ('[' :: decimal n ++ 'm' :: rest).drop ((decimal n).length + 2) = rest := by
    rw [List.cons_append, List.drop_succ_cons, ← List.drop_drop, List.drop_left]
    rfl
  simp only [htext, withoutEscapes, withoutEscapesAfter, escapeTailLength_escape, if_true]
  rw [withoutEscapesAfter_eq_drop, hdrop]
  rfl

/-- **A text in a style reads as the text.** -/
theorem apply (style : Style) (h : ReadsAs s t) : ReadsAs (style.apply s) t := by
  have hstyled := ((escape style.onParameter).append h).append (escape style.offParameter)
  rwa [List.nil_append, List.append_nil] at hstyled

theorem styled (style : Style) (h : EscapeFree s) : ReadsAs (style.apply s) s :=
  (of_escapeFree h).apply style

theorem followed (h : ReadsAs s t) (hu : EscapeFree u) : ReadsAs (s ++ u) (t ++ u) :=
  h.append (of_escapeFree hu)

end ReadsAs

/-! ## Spans -/

/-- **The two ways of a span agree**: the coloured one reads as the plain one. -/
def Span.Agrees (span : Span) : Prop := ReadsAs span.coloured span.plain

/-- The two ways of each span agree. -/
def AllAgree (spans : List Span) : Prop := ∀ span ∈ spans, span.Agrees

theorem allAgree_nil : AllAgree [] := List.forall_mem_nil _

theorem allAgree_singleton {span : Span} (h : span.Agrees) : AllAgree [span] :=
  List.forall_mem_singleton.mpr h

theorem AllAgree.append {s t : List Span} (hs : AllAgree s) (ht : AllAgree t) :
    AllAgree (s ++ t) :=
  List.forall_mem_append.mpr ⟨hs, ht⟩

/-- **If the two ways of each span agree, so do the two outputs.** -/
theorem AllAgree.withoutEscapes_render {spans : List Span} (h : AllAgree spans) :
    withoutEscapes (render true spans) = render false spans := by
  refine ReadsAs.withoutEscapes_eq ?_
  induction spans with
  | nil => exact .of_escapeFree List.not_mem_nil
  | cons span rest ih =>
    obtain ⟨hspan, hrest⟩ := List.forall_mem_cons.mp h
    exact hspan.append (ih hrest)

/-! ## Texts without the escape character -/

theorem EscapeFree.append {s t : List Char} (hs : EscapeFree s) (ht : EscapeFree t) :
    EscapeFree (s ++ t) :=
  fun h ↦ (List.mem_append.mp h).elim hs ht

theorem EscapeFree.cons {c : Char} {s : List Char} (hc : c ≠ '\x1b') (hs : EscapeFree s) :
    EscapeFree (c :: s) :=
  fun h ↦ (List.mem_cons.mp h).elim (fun heq ↦ hc heq.symm) hs

theorem escapeFree_replicate {c : Char} (hc : c ≠ '\x1b') (n : Nat) :
    EscapeFree (List.replicate n c) :=
  fun h ↦ hc (List.eq_of_mem_replicate h).symm

theorem escapeFree_decimal (n : Nat) : EscapeFree (decimal n) :=
  fun h ↦ absurd (List.all_eq_true.mp (all_isDigit_decimal n) _ h) (by decide)

theorem EscapeFree.padZeros {s : List Char} (h : EscapeFree s) (width : Nat) :
    EscapeFree (padZeros width s) :=
  (escapeFree_replicate (by decide) _).append h

theorem EscapeFree.alignRight {s : List Char} (h : EscapeFree s) (width : Nat) :
    EscapeFree (alignRight width s) :=
  (escapeFree_replicate (by decide) _).append h

theorem escapeFree_decimalInt (n : Int) : EscapeFree (decimalInt n) := by
  cases n with
  | ofNat n => exact escapeFree_decimal n
  | negSucc n => exact (escapeFree_decimal (n + 1)).cons (by decide)

theorem escapeFree_paddedInt (width : Nat) (n : Int) : EscapeFree (paddedInt width n) := by
  cases n with
  | ofNat n => exact (escapeFree_decimal n).padZeros width
  | negSucc n => exact ((escapeFree_decimal (n + 1)).padZeros (width - 1)).cons (by decide)

end AnimeLookup.Display
