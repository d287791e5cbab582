import AnimeLookup.Json.Reader
import AnimeLookup.Proofs.Json.WrittenTokens
import AnimeLookup.Proofs.Text.Encoding

/-!
# Reading what was written

A value that is written and read again is the same value, in either layout and with blanks behind
it (`read_write_append`), also by way of bytes (`readBytes_encode_write`).

The reader is a machine with a stack, so what it does with the tokens of a value has to be said for
every stack: it completes the value on top of it (`run_tokens`).  The further items of an array,
and the further members of an object, are added to those which the machine has already.
-/

set_option autoImplicit false

namespace AnimeLookup.Json

namespace Reader

/-- The tokens of a value begin with one that is no end of an array. -/
theorem exists_tokens_eq_cons (v : Json) : ∃ t more, tokens v = t :: more ∧ t ≠ .closeArray := by
  match v with
  | .null => exact ⟨_, _, rfl, by simp⟩
  | .bool _ => exact ⟨_, _, rfl, by simp⟩
  | .integer _ => exact ⟨_, _, rfl, by simp⟩
  | .inexact => exact ⟨_, _, rfl, by simp⟩
  | .string _ => exact ⟨_, _, rfl, by simp⟩
  | .array [] => exact ⟨_, _, rfl, by simp⟩
  | .array (_ :: _) => exact ⟨_, _, rfl, by simp⟩
  | .object [] => exact ⟨_, _, rfl, by simp⟩
  | .object (_ :: _) => exact ⟨_, _, rfl, by simp⟩

/-- Where the first item of an array may stand, a value is read as where a value must stand. -/
theorem run_firstItem (v : Json) (rest : List Token) (stack : List Frame) :
    run ⟨.firstItem, stack⟩ (tokens v ++ rest) =
      run ⟨.value, .array [] :: stack⟩ (tokens v ++ rest) := by
  obtain ⟨t, more, htokens, hclose⟩ := exists_tokens_eq_cons v
  rw [htokens, List.cons_append, run, run]
  have hstep : step ⟨.firstItem, stack⟩ t = step ⟨.value, .array [] :: stack⟩ t := by
    cases t <;> first | rfl | exact absurd rfl hclose
  rw [hstep]

mutual

/-- **The tokens of a value complete that value**, whatever is open around it. -/
theorem run_tokens : ∀ (v : Json) (stack : List Frame),
    run ⟨.value, stack⟩ (tokens v) = some (complete v stack)
  | .null, _ => rfl
  | .bool _, _ => rfl
  | .integer _, _ => rfl
  | .inexact, _ => rfl
  | .string _, _ => rfl
  | .array [], _ => rfl
  | .array (v :: rest), stack => by
    have hopen : run ⟨.value, stack⟩ (tokens (.array (v :: rest))) =
        run ⟨.firstItem, stack⟩ (tokens v ++ itemTokens rest) := rfl
    rw [hopen, run_firstItem, run_append, run_tokens v, Option.bind_some]
    exact run_itemTokens rest [v] stack
  | .object [], _ => rfl
  | .object ((key, v) :: rest), stack => by
    have hopen : run ⟨.value, stack⟩ (tokens (.object ((key, v) :: rest))) =
        run ⟨.value, .object [] key :: stack⟩ (tokens v ++ memberTokens rest) := rfl
    rw [hopen, run_append, run_tokens v, Option.bind_some]
    exact run_memberTokens rest [(key, v)] stack

/-- Further items are added to those that have been read. -/
theorem run_itemTokens : ∀ (rest items : List Json) (stack : List Frame),
    run ⟨.itemEnd items, stack⟩ (itemTokens rest) = some (complete (.array (items ++ rest)) stack)
  | [], items, stack => by
    rw [List.append_nil]
    rfl
  | v :: rest, items, stack => by
    have hcomma : run ⟨.itemEnd items, stack⟩ (itemTokens (v :: rest)) =
        run ⟨.value, .array items :: stack⟩ (tokens v ++ itemTokens rest) := rfl
    rw [hcomma, run_append, run_tokens v, Option.bind_some, List.append_cons]
    exact run_itemTokens rest (items ++ [v]) stack

/-- Further members are added to those that have been read. -/
theorem run_memberTokens : ∀ (rest members : List (Option String × Json)) (stack : List Frame),
    run ⟨.memberEnd members, stack⟩ (memberTokens rest) =
      some (complete (.object (members ++ rest)) stack)
  | [], members, stack => by
    rw [List.append_nil]
    rfl
  | (key, v) :: rest, members, stack => by
    have hcomma : run ⟨.memberEnd members, stack⟩ (memberTokens ((key, v) :: rest)) =
        run ⟨.value, .object members key :: stack⟩ (tokens v ++ memberTokens rest) := rfl
    rw [hcomma, run_append, run_tokens v, Option.bind_some, List.append_cons]
    exact run_memberTokens rest (members ++ [(key, v)]) stack

end

end Reader

theorem ofTokens?_tokens (v : Json) : ofTokens? (tokens v) = some v := by
  rw [ofTokens?, Reader.initial, Reader.run_tokens]
  rfl

section RoundTrip

variable (layout : Layout) (v : Json)

/-- **A value that is written can be read again**, also with blanks behind it. -/
theorem read_write_append {blanks : List Char}
    (h : ∀ c ∈ blanks, c = ' ' ∨ c = '\n' ∨ c = '\r' ∨ c = '\t') :
    read (v.write layout ++ blanks) = some v := by
  rw [read, readUnits, scan_write_append layout v h, Option.bind_some, ofTokens?_tokens]

theorem read_write : read (v.write layout) = some v := by
  have h := read_write_append layout v (List.forall_mem_nil _)
  rwa [List.append_nil] at h

/-- **A value that is written in bytes can be read again.** -/
theorem readBytes_encode_write : readBytes (Text.Utf8.encode (v.write layout)) = some v := by
  rw [readBytes, Text.Utf8.units_encode]
  exact read_write layout v

end RoundTrip

end AnimeLookup.Json
