import TlvCodec.Proofs.Tlv.Decoder
import TlvCodec.Proofs.Tlv.Wire
import TlvCodec.Tlv.Registry

namespace TlvCodec.Registry
set_option autoImplicit true

/-- The registry reads `tlv x` as `x`, for those `x` that fit and no others. -/
structure Inverts {ε τ : Type} (r : Registry ε τ) (fits : τ → Prop) (tlv : τ → Tlv) : Prop where
  sound : ∀ {t x}, Tlv.Fits t → (r.element t.frame).1 = .ok x → fits x ∧ tlv x = t
  complete : ∀ {x}, fits x → (tlv x).Fits ∧ (r.element (tlv x).frame).1 = .ok x

variable {ε τ : Type} {r : Registry ε τ} {t : Tlv} {bs rest : Bytes} {n : UInt16}

theorem one_cut (h : Cut bs n rest) (bound : Bound) :
    r.one bound bs = ⟨.error (bound.overrun n), rest, []⟩ := by
  simp only [one, Frame.split_cut h]

theorem one_wire (h : t.Fits) (bound : Bound) (rest : Bytes) :
    r.one bound (t.wire ++ rest) = ⟨(r.element t.frame).1, rest, (r.element t.frame).2⟩ := by
  simp only [one, Frame.split_wire h]

theorem sequenceAfter_cut (h : Cut bs n rest) (hne : bs ≠ []) :
    r.sequenceAfter bound done noted bs =
      ⟨.error (bound.overrun n), rest, noted.reverse⟩ := by
  have hone := one_cut (r := r) h bound
  rw [sequenceAfter, if_neg (by simpa using hne)]
  split
  · rename_i he
    rw [hone] at he
    cases he
    rfl
  · rename_i he
    rw [hone] at he
    cases he

theorem sequenceAfter_wire (h : t.Fits) :
    r.sequenceAfter bound done noted (t.wire ++ rest) =
      match r.element t.frame with
      | (.error e, events) => ⟨.error e, rest, (events.reverseAux noted).reverse⟩
      | (.ok x, events) => r.sequenceAfter bound (x :: done) (events.reverseAux noted) rest := by
  have hone := one_wire (r := r) h bound rest
  rw [sequenceAfter, if_neg (by simp [t.wire_ne_nil])]
  generalize r.element t.frame = o at hone ⊢
  obtain ⟨result, events⟩ := o
  split
  · rename_i he
    rw [hone] at he
    cases he
    rfl
  · rename_i he
    rw [hone] at he
    cases he
    rfl

/-- What came before stands in front of what the run yields. -/
theorem sequenceAfter_eq (r : Registry ε τ) (bound : Bound) (done : List τ) (noted : List ε)
    (bs : Bytes) :
    r.sequenceAfter bound done noted bs =
      ⟨(r.sequence bound bs).result.map (done.reverse ++ ·), (r.sequence bound bs).rest,
        noted.reverse ++ (r.sequence bound bs).events⟩ := by
  induction bs using framing generalizing done noted with
  | nil => simp [sequence, sequenceAfter, Except.map]
  | cut bs n rest hne h => simp [sequence, sequenceAfter_cut h hne, Except.map]
  | wire t rest h ih =>
    rw [sequence, sequenceAfter_wire h, sequenceAfter_wire h]
    rcases r.element t.frame with ⟨e | x, events⟩
    · simp [Except.map]
    · simp only [ih (x :: done), ih [x]]
      cases (r.sequence bound rest).result <;> simp [Except.map]

@[simp] theorem sequence_nil (r : Registry ε τ) (bound : Bound) :
    r.sequence bound [] = ⟨.ok [], [], []⟩ := by
  simp [sequence, sequenceAfter]

theorem sequence_cut (h : Cut bs n rest) (hne : bs ≠ []) (bound : Bound) :
    r.sequence bound bs = ⟨.error (bound.overrun n), rest, []⟩ :=
  sequenceAfter_cut h hne

theorem sequence_wire (h : t.Fits) (bound : Bound) (rest : Bytes) :
    r.sequence bound (t.wire ++ rest) =
      match r.element t.frame with
      | (.error e, events) => ⟨.error e, rest, events⟩
      | (.ok x, events) =>
        ⟨(r.sequence bound rest).result.map (x :: ·), (r.sequence bound rest).rest,
          events ++ (r.sequence bound rest).events⟩ := by
  change r.sequenceAfter bound [] [] (t.wire ++ rest) = _
  rw [sequenceAfter_wire h]
  rcases r.element t.frame with ⟨e | x, events⟩
  · simp
  · simp [sequenceAfter_eq r bound [x]]

theorem sequence_wire_result (h : t.Fits) (bound : Bound) (rest : Bytes) :
    (r.sequence bound (t.wire ++ rest)).result =
      (r.element t.frame).1.bind fun x => (r.sequence bound rest).result.map (x :: ·) := by
  rw [sequence_wire h]
  rcases r.element t.frame with ⟨e | x, events⟩
  · rfl
  · rfl

theorem sequence_wire_ok (h : t.Fits) (he : (r.element t.frame).1 = .ok x) (bound : Bound)
    (rest : Bytes) :
    (r.sequence bound (t.wire ++ rest)).result = (r.sequence bound rest).result.map (x :: ·) := by
  rw [sequence_wire_result h, he]
  rfl

theorem sequence_wire_error (h : t.Fits) (he : (r.element t.frame).1 = .error e) (bound : Bound)
    (rest : Bytes) : (r.sequence bound (t.wire ++ rest)).result = .error e := by
  rw [sequence_wire_result h, he]
  rfl

theorem sequence_rest (h : (r.sequence bound bs).result = .ok xs) :
    (r.sequence bound bs).rest = [] := by
  induction bs using framing generalizing xs with
  | nil => rw [sequence_nil]
  | cut bs n rest hne hcut =>
    rw [sequence_cut hcut hne] at h
    cases h
  | wire t rest ht ih =>
    rw [sequence_wire ht] at h ⊢
    generalize r.element t.frame = o at h ⊢
    obtain ⟨e | x, events⟩ := o
    · cases h
    · obtain ⟨ys, hs, -⟩ := map_eq_ok_iff.mp h
      exact ih hs

theorem bounded_of_le {budget : UInt16} (h : budget.toNat ≤ bs.length) :
    r.bounded budget bs =
      ⟨(r.sequence .parent (bs.take budget.toNat)).result, bs.drop budget.toNat,
        (r.sequence .parent (bs.take budget.toNat)).events⟩ := by
  simp only [bounded, Reader.split_of_le h]

theorem bounded_of_lt {budget : UInt16} (h : bs.length < budget.toNat) :
    r.bounded budget bs = ⟨.error .truncatedInput, bs, []⟩ := by
  simp only [bounded, Reader.split_of_lt h]

theorem lookup_eq_none_iff : r.lookup code = none ↔ code ∉ r.decoders.map Prod.fst := by
  rw [lookup, List.lookup_eq_none_iff, List.mem_map]
  constructor
  · rintro h ⟨p, hp, rfl⟩
    exact absurd (h p hp) (by simp)
  · intro h p hp
    exact bne_iff_ne.mpr fun he => h ⟨p, hp, he.symm⟩

theorem mem_of_lookup (h : r.lookup code = some decode) : (code, decode) ∈ r.decoders := by
  obtain ⟨before, after, he, -⟩ := List.lookup_eq_some_iff.mp h
  rw [he]
  exact List.mem_append_right before List.mem_cons_self

theorem element_eq_ok_iff :
    (r.element t.frame).1 = .ok x ↔
      r.lookup t.code = none ∧ x = r.unknown t ∨
        ∃ decode, r.lookup t.code = some decode ∧
          (decode t.lengthField).Yields t.value x [] := by
  change (r.element ⟨t.code, t.lengthField, t.value⟩).1 = .ok x ↔ _
  unfold element
  cases r.lookup t.code with
  | none => simp [eq_comm]
  | some decode =>
    unfold Decoder.Yields
    rcases hd : decode t.lengthField t.value with ⟨e | y, _ | ⟨a, rest⟩, events⟩ <;> simp [hd]

theorem element_of_some {frame : Frame} (hd : r.lookup frame.code = some decode) :
    (r.element frame).1 = (decode frame.length frame.value).result.bind fun x =>
      if (decode frame.length frame.value).rest = [] then .ok x
      else .error (.malformedLength frame.length) := by
  unfold element
  rw [hd]
  rcases ho : decode frame.length frame.value with ⟨e | x, _ | ⟨a, rest⟩, events⟩
  · simp [ho, Except.bind]
  · simp [ho, Except.bind]
  · simp [ho, Except.bind]
  · simp [ho, Except.bind]

theorem element_of_lookup {frame : Frame} (hd : r.lookup frame.code = some decode)
    (hrest : ∀ x, (decode frame.length frame.value).result = .ok x →
      (decode frame.length frame.value).rest = []) :
    (r.element frame).1 = (decode frame.length frame.value).result := by
  rw [element_of_some hd]
  cases ho : (decode frame.length frame.value).result with
  | error e => rfl
  | ok x => exact if_pos (hrest x ho)

/-- What follows a run that succeeds decodes as it does alone. -/
theorem sequence_append_eq {front : Bytes} (h : (r.sequence bound front).result = .ok xs)
    (tail : Bytes) : r.sequence bound (front ++ tail) =
      ⟨(r.sequence bound tail).result.map (xs ++ ·), (r.sequence bound tail).rest,
        (r.sequence bound front).events ++ (r.sequence bound tail).events⟩ := by
  induction front using framing generalizing xs with
  | nil =>
    rw [sequence_nil] at h
    cases h
    cases he : (r.sequence bound tail).result <;> simp [Except.map, ← he]
  | cut bs n rest hne hcut =>
    rw [sequence_cut hcut hne] at h
    cases h
  | wire t rest ht ih =>
    rw [List.append_assoc, sequence_wire ht, sequence_wire ht]
    rw [sequence_wire ht] at h
    generalize r.element t.frame = o at h ⊢
    obtain ⟨e | x, events⟩ := o
    · cases h
    · obtain ⟨ys, hs, rfl⟩ := map_eq_ok_iff.mp h
      rw [ih hs]
      cases (r.sequence bound tail).result <;> simp [Except.map]

theorem sequence_append {front : Bytes} (h : (r.sequence bound front).result = .ok xs)
    (tail : Bytes) : (r.sequence bound (front ++ tail)).result =
      (r.sequence bound tail).result.map (xs ++ ·) := by
  rw [sequence_append_eq h]

/-- More data can only complete an element that is cut short. -/
theorem sequence_append_malformed
    (h : (r.sequence .buffer bs).result = .error (.malformedLength n)) (more : Bytes) :
    (r.sequence .buffer (bs ++ more)).result = .error (.malformedLength n) := by
  induction bs using framing with
  | nil =>
    rw [sequence_nil] at h
    cases h
  | cut bs n rest hne hcut =>
    -- the data limits the run, so that a cut element is no wrong length
    rw [sequence_cut hcut hne] at h
    cases h
  | wire t rest ht ih =>
    rw [List.append_assoc]
    cases he : (r.element t.frame).1 with
    | error e =>
      rw [sequence_wire_error ht he] at h ⊢
      exact h
    | ok x =>
      rw [sequence_wire_ok ht he, map_eq_error_iff] at h ⊢
      exact ih h

variable {fits : τ → Prop} {tlv : τ → Tlv} {xs : List τ} {x : τ}

namespace Inverts

theorem sequence_wire (hr : r.Inverts fits tlv) (hx : fits x) (bound : Bound) (rest : Bytes) :
    (r.sequence bound ((tlv x).wire ++ rest)).result =
      (r.sequence bound rest).result.map (x :: ·) :=
  sequence_wire_ok (hr.complete hx).1 (hr.complete hx).2 bound rest

theorem sequence_sound (hr : r.Inverts fits tlv)
    (h : (r.sequence bound bs).result = .ok xs) :
    (∀ x ∈ xs, fits x) ∧ bs = xs.flatMap fun x => (tlv x).wire := by
  induction bs using framing generalizing xs with
  | nil =>
    rw [sequence_nil] at h
    cases h
    simp
  | cut bs n rest hne hcut =>
    rw [sequence_cut hcut hne] at h
    cases h
  | wire t rest ht ih =>
    cases he : (r.element t.frame).1 with
    | error e =>
      rw [sequence_wire_error ht he] at h
      cases h
    | ok x =>
      rw [sequence_wire_ok ht he, map_eq_ok_iff] at h
      obtain ⟨ys, hs, rfl⟩ := h
      obtain ⟨hx, rfl⟩ := hr.sound ht he
      obtain ⟨hys, rfl⟩ := ih hs
      exact ⟨List.forall_mem_cons.mpr ⟨hx, hys⟩, rfl⟩

theorem sequence_complete (hr : r.Inverts fits tlv) (hxs : ∀ x ∈ xs, fits x) (bound : Bound) :
    (r.sequence bound (xs.flatMap fun x => (tlv x).wire)).result = .ok xs := by
  induction xs with
  | nil => rw [List.flatMap_nil, sequence_nil]
  | cons x xs ih =>
    rw [List.forall_mem_cons] at hxs
    rw [List.flatMap_cons, hr.sequence_wire hxs.1, ih hxs.2]
    rfl

theorem sequence_eq_ok_iff (hr : r.Inverts fits tlv) :
    (r.sequence bound bs).result = .ok xs ↔
      (∀ x ∈ xs, fits x) ∧ bs = xs.flatMap fun x => (tlv x).wire := by
  constructor
  · exact hr.sequence_sound
  · rintro ⟨hxs, rfl⟩
    exact hr.sequence_complete hxs bound

theorem yields_sequence (hr : r.Inverts fits tlv) :
    (r.sequence bound).Yields bs xs rest ↔
      (∀ x ∈ xs, fits x) ∧ bs = (xs.flatMap fun x => (tlv x).wire) ∧ rest = [] := by
  rw [Decoder.Yields, hr.sequence_eq_ok_iff]
  constructor
  · rintro ⟨⟨hxs, hb⟩, hrest⟩
    refine ⟨hxs, hb, ?_⟩
    rw [← hrest, sequence_rest (hr.sequence_eq_ok_iff.mpr ⟨hxs, hb⟩)]
  · rintro ⟨hxs, hb, rfl⟩
    exact ⟨⟨hxs, hb⟩, sequence_rest (hr.sequence_eq_ok_iff.mpr ⟨hxs, hb⟩)⟩

theorem sequence_take_truncated (hr : r.Inverts fits tlv) (hxs : ∀ x ∈ xs, fits x)
    (hk : k < (xs.flatMap fun x => (tlv x).wire).length)
    (hcut : ∀ i, k ≠ ((xs.take i).flatMap fun x => (tlv x).wire).length) :
    (r.sequence .buffer ((xs.flatMap fun x => (tlv x).wire).take k)).result =
      .error .truncatedInput := by
  induction xs generalizing k with
  | nil => simp at hk
  | cons x xs ih =>
    rw [List.forall_mem_cons] at hxs
    rw [List.flatMap_cons, List.length_append] at hk
    rw [List.flatMap_cons, List.take_append]
    rcases Nat.lt_or_ge k (tlv x).wire.length with hlt | hle
    · have hne : (tlv x).wire.take k ≠ [] := by
        rw [Ne, List.take_eq_nil_iff, not_or]
        exact ⟨hcut 0, (tlv x).wire_ne_nil⟩
      obtain ⟨n, rest, h⟩ := (hr.complete hxs.1).1.cut_take hlt
      rw [Nat.sub_eq_zero_of_le (Nat.le_of_lt hlt), List.take_zero, List.append_nil,
        sequence_cut h hne]
      rfl
    · -- the first element is whole, and what is left is cut between no two elements either
      obtain ⟨j, rfl⟩ := Nat.exists_eq_add_of_le hle
      have hj : ∀ i, j ≠ ((xs.take i).flatMap fun x => (tlv x).wire).length := by
        intro i he
        apply hcut (i + 1)
        rw [List.take_succ_cons, List.flatMap_cons, List.length_append, he]
      rw [List.take_of_length_le hle, Nat.add_sub_cancel_left, hr.sequence_wire hxs.1,
        ih hxs.2 (by omega) hj]
      rfl

end Inverts

end TlvCodec.Registry
