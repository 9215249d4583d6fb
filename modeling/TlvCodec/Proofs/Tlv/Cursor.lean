import TlvCodec.Proofs.Tlv.Field

namespace TlvCodec
set_option autoImplicit true

/-- Data read in place, so that failures show what they leave of it. -/
abbrev Cursor := ExceptT ShortRead (StateM Bytes)

namespace Cursor

/-- A reader that moves past what it reads, unless it fails. -/
def ofReader (r : Reader α) : Cursor α := do
  match r (← get) with
  | .ok (a, rest) => do
    set rest
    return a
  | .error e => throw e

def take (n : Nat) : Cursor Bytes := do
  let left ← get
  if left.length < n then throw ⟨n, left.length⟩
  else do
    set (left.drop n)
    return left.take n

def field (form : Field.Form) : Cursor Field := do
  return form.value (← take form.size)

def fields (forms : List Field.Form) : Cursor (List Field) := forms.mapM field

variable {form : Field.Form} {bs rest : Bytes}

theorem bind_of_ok {x : Cursor α} (h : x.run.run bs = (.ok a, rest)) (f : α → Cursor β) :
    (x >>= f).run.run bs = (f a).run.run rest := by
  rw [ExceptT.run_bind, StateT.run_bind, h]
  rfl

theorem bind_of_error {x : Cursor α} (h : x.run.run bs = (.error e, rest)) (f : α → Cursor β) :
    (x >>= f).run.run bs = (.error e, rest) := by
  rw [ExceptT.run_bind, StateT.run_bind, h]
  rfl

theorem get_bind (f : Bytes → Cursor α) (bs : Bytes) :
    (get >>= f).run.run bs = (f bs).run.run bs :=
  bind_of_ok rfl f

theorem take_of_lt (h : bs.length < n) : (take n).run.run bs = (.error ⟨n, bs.length⟩, bs) := by
  rw [take, get_bind, if_pos h]
  rfl

theorem take_of_le (h : n ≤ bs.length) : (take n).run.run bs = (.ok (bs.take n), bs.drop n) := by
  rw [take, get_bind, if_neg (Nat.not_lt.mpr h)]
  rfl

theorem field_of_lt (h : bs.length < form.size) :
    (field form).run.run bs = (.error ⟨form.size, bs.length⟩, bs) :=
  bind_of_error (take_of_lt h) _

theorem field_of_le (h : form.size ≤ bs.length) :
    (field form).run.run bs = (.ok (form.value (bs.take form.size)), bs.drop form.size) :=
  bind_of_ok (take_of_le h) _

theorem field_octets (f : Field) (rest : Bytes) :
    (field f.form).run.run (f.octets ++ rest) = (.ok f.reduced, rest) := by
  have hle : f.form.size ≤ (f.octets ++ rest).length := by
    rw [List.length_append, f.length_octets]
    exact Nat.le_add_right _ _
  rw [field_of_le hle, ← f.length_octets, List.take_left, List.drop_left, f.value_octets]

theorem ofReader_of_ok {r : Reader α} (h : r bs = .ok (a, rest)) :
    (ofReader r).run.run bs = (.ok a, rest) := by
  rw [ofReader, get_bind, h]
  rfl

theorem ofReader_of_error {r : Reader α} (h : r bs = .error e) :
    (ofReader r).run.run bs = (.error e, bs) := by
  rw [ofReader, get_bind, h]
  rfl

/-- Each reader takes all of the octets of its value in one step. -/
theorem field_eq (form : Field.Form) : field form = ofReader (Field.read form) := by
  apply ExceptT.ext
  apply StateT.ext
  intro bs
  by_cases h : bs.length < form.size
  · exact (field_of_lt h).trans (ofReader_of_error (Field.read_of_lt h)).symm
  · have hle := Nat.not_lt.mp h
    exact (field_of_le hle).trans (ofReader_of_ok (Field.read_of_le hle)).symm

theorem fields_octets (fs : List Field) (rest : Bytes) :
    (fields (fs.map Field.form)).run.run (fs.flatMap Field.octets ++ rest) =
      (.ok (fs.map Field.reduced), rest) := by
  induction fs with
  | nil => rfl
  | cons f fs ih =>
    rw [List.map_cons, List.flatMap_cons, List.append_assoc, fields, List.mapM_cons,
      bind_of_ok (field_octets f _)]
    exact bind_of_ok ih _

theorem fields_part (front : List Field) {f : Field} {part : Bytes}
    (h : part.length < f.form.size) (forms : List Field.Form) :
    (fields (front.map Field.form ++ f.form :: forms)).run.run
        (front.flatMap Field.octets ++ part) =
      (.error ⟨f.form.size, part.length⟩, part) := by
  have hfault : (fields (f.form :: forms)).run.run part =
      (.error ⟨f.form.size, part.length⟩, part) := by
    rw [fields, List.mapM_cons]
    exact bind_of_error (field_of_lt h) _
  rw [fields, List.mapM_append]
  exact (bind_of_ok (fields_octets front part) _).trans (bind_of_error hfault _)

/-- Reading in place undoes writing, up to the first value that is cut short. -/
theorem fields_written (fs : List Field) :
    (∀ form, field form = ofReader (Field.read form)) ∧
    (∀ b : Buffer, (Field.writeAll fs b).toList = b.toList ++ Field.written fs) ∧
    (∀ rest, (fields (fs.map Field.form)).run.run (Field.written fs ++ rest) =
      (.ok (fs.map Field.reduced), rest)) ∧
    ∀ k < (Field.written fs).length, ∃ front f back part,
      fs = front ++ f :: back ∧ (Field.written fs).take k = Field.written front ++ part ∧
      (fields (front.map Field.form)).run.run ((Field.written fs).take k) =
        (.ok (front.map Field.reduced), part) ∧
      part.length < f.form.size ∧
      (field f.form).run.run part = (.error ⟨f.form.size, part.length⟩, part) ∧
      (fields (fs.map Field.form)).run.run ((Field.written fs).take k) =
        (.error ⟨f.form.size, part.length⟩, part) := by
  refine ⟨field_eq, ?_, ?_, ?_⟩
  · intro b
    rw [Field.toList_writeAll, Field.written_eq]
  · intro rest
    rw [Field.written_eq]
    exact fields_octets fs rest
  · intro k hk
    simp only [Field.written_eq] at hk ⊢
    obtain ⟨front, f, back, part, rfl, hpart, htake⟩ := Field.exists_part hk
    refine ⟨front, f, back, part, rfl, htake, ?_, hpart, field_of_lt hpart, ?_⟩
    · rw [htake]
      exact fields_octets front part
    · rw [htake, List.map_append, List.map_cons]
      exact fields_part front hpart _

/-- A word of more than 24 bits, no octets, and a number that is none. -/
def mixedFields : List Field :=
  [.octet 1, .word24 0xFF000203, .bytes [], .single ⟨0x7FC00001⟩, .word16 9]

theorem fields_written_mixedFields :
    (fields (mixedFields.map Field.form)).run.run [1, 0, 2, 3, 1, 0, 0xC0, 0x7F, 0, 9, 5] =
        (.ok [.octet 1, .word24 0x000203, .bytes [], .single ⟨0x7FC00001⟩, .word16 9], [5]) ∧
      6 < (Field.written mixedFields).length ∧
      ∃ front f back, mixedFields = front ++ f :: back ∧
        (fields (front.map Field.form)).run.run [1, 0, 2, 3, 1, 0] =
          (.ok (front.map Field.reduced), [1, 0]) ∧
        (field f.form).run.run [1, 0] = (.error ⟨4, 2⟩, [1, 0]) := by
  obtain ⟨-, -, hwhole, hcut⟩ := fields_written mixedFields
  have hk : 6 < (Field.written mixedFields).length := by decide
  obtain ⟨front, f, back, part, hfs, -, hfront, -, hread, hend⟩ := hcut 6 hk
  have hshort : (fields (mixedFields.map Field.form)).run.run [1, 0, 2, 3, 1, 0] =
      (.error ⟨4, 2⟩, [1, 0]) := rfl
  obtain ⟨herror, rfl⟩ := Prod.mk.inj (hend.symm.trans hshort)
  rw [Except.error.inj herror] at hread
  exact ⟨hwhole [5], hk, front, f, back, hfs, hfront, hread⟩

end Cursor

end TlvCodec
