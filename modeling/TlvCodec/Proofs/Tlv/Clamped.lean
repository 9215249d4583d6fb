import TlvCodec.Proofs.Tlv.Wire

namespace TlvCodec.Tlv
set_option autoImplicit true

variable {t : Tlv} {bs rest : Bytes}

/-- The element with as much of its value as the length field counts. -/
def clamped (t : Tlv) : Tlv := ⟨t.code, t.value.take (min t.value.length 65535)⟩

/-- What the length field does not count of the value. -/
def surplus (t : Tlv) : Bytes := t.value.drop (min t.value.length 65535)

theorem length_clamped (t : Tlv) : t.clamped.value.length = min t.value.length 65535 :=
  List.length_take_of_le (Nat.min_le_left _ _)

theorem fits_clamped (t : Tlv) : t.clamped.Fits := by
  rw [Fits, length_clamped]
  exact Nat.min_le_right _ _

theorem lengthField_clamped (t : Tlv) : t.clamped.lengthField = t.lengthField := by
  apply UInt16.toNat_inj.mp
  rw [t.fits_clamped.toNat_lengthField, length_clamped, lengthField_toNat]

theorem wire_eq_clamped (t : Tlv) : t.wire = t.clamped.wire ++ t.surplus := by
  have hvalue : t.clamped.value ++ t.surplus = t.value := List.take_append_drop _ t.value
  rw [wire, wire, lengthField_clamped, List.append_assoc, List.append_assoc, hvalue]
  rfl

theorem encode_eq (t : Tlv) : t.encode = t.wire := t.toList_write #[]

theorem decode_cut (h : Cut bs n rest) : decode bs = (.error .truncatedInput, rest) := by
  rw [decode, Frame.split_cut h]
  rfl

theorem decode_wire (h : t.Fits) (rest : Bytes) : decode (t.wire ++ rest) = (.ok t, rest) := by
  rw [decode, Frame.split_wire h]
  rfl

theorem decode_wire_clamped (t : Tlv) (rest : Bytes) :
    decode (t.wire ++ rest) = (.ok t.clamped, t.surplus ++ rest) := by
  rw [wire_eq_clamped, List.append_assoc]
  exact decode_wire t.fits_clamped _

theorem decode_wire_iff : decode (t.wire ++ rest) = (.ok t, rest) ↔ t.Fits := by
  constructor
  · intro h
    rw [decode_wire_clamped] at h
    have hclamped : t.clamped = t := Except.ok.inj (Prod.mk.inj h).1
    exact hclamped ▸ t.fits_clamped
  · intro h
    exact decode_wire h rest

theorem eq_wire_of_decode (h : decode bs = (.ok t, rest)) : bs = t.wire ++ rest := by
  rcases cut_or_wire bs with ⟨n, tail, hcut⟩ | ⟨t', tail, ht, rfl⟩
  · rw [decode_cut hcut] at h
    cases h
  · rw [decode_wire ht] at h
    cases h
    rfl

/-- An element is read back as far as its length field counts, with the surplus left. -/
theorem decode_encode_clamped :
    (∀ (t : Tlv) (b : Buffer), (t.write b).toList = b.toList ++ t.encode) ∧
    (∀ (t : Tlv) (s : Bytes),
      decode (t.encode ++ s) =
        (.ok ⟨t.code, t.value.take (min t.value.length 65535)⟩,
          t.value.drop (min t.value.length 65535) ++ s) ∧
      (decode (t.encode ++ s) = (.ok t, s) ↔ t.value.length ≤ 65535)) ∧
    (∀ t : Tlv, t.value.length ≤ 65535 → ∀ k < t.encode.length,
      (decode (t.encode.take k)).1 = .error .truncatedInput) ∧
    ∀ (b : Bytes) (t : Tlv) (r : Bytes), decode b = (.ok t, r) → t.encode ++ r = b := by
  refine ⟨?_, ?_, ?_, ?_⟩
  · intro t b
    rw [encode_eq, toList_write]
  · intro t s
    rw [encode_eq]
    exact ⟨decode_wire_clamped t s, decode_wire_iff⟩
  · intro t ht k hk
    rw [encode_eq] at hk ⊢
    obtain ⟨n, rest, hcut⟩ := Fits.cut_take ht hk
    rw [decode_cut hcut]
  · intro b t r h
    rw [encode_eq]
    exact (eq_wire_of_decode h).symm

/-- The shortest value that is too long, and an element cut inside its value. -/
theorem decode_encode_clamped_tooLong :
    decode ((Tlv.mk 99 (List.replicate 65536 7)).encode ++ [5]) =
        (.ok ⟨99, List.replicate 65535 7⟩, [7, 5]) ∧
      (Tlv.mk 0x1234 [1, 2, 3]).value.length ≤ 65535 ∧
      5 < (Tlv.mk 0x1234 [1, 2, 3]).encode.length ∧
      (decode ((Tlv.mk 0x1234 [1, 2, 3]).encode.take 5)).1 = .error .truncatedInput ∧
      decode [0x12, 0x34, 0, 1, 8, 9] = (.ok ⟨0x1234, [8]⟩, [9]) ∧
      (Tlv.mk 0x1234 [8]).encode ++ [9] = [0x12, 0x34, 0, 1, 8, 9] := by
  obtain ⟨-, hlong, hcut, hback⟩ := decode_encode_clamped
  have hsize : (Tlv.mk 0x1234 [1, 2, 3]).value.length ≤ 65535 := by decide
  have hk : 5 < (Tlv.mk 0x1234 [1, 2, 3]).encode.length := by decide
  have hdecode : decode [0x12, 0x34, 0, 1, 8, 9] = (.ok ⟨0x1234, [8]⟩, [9]) := rfl
  refine ⟨?_, hsize, hk, hcut _ hsize 5 hk, hdecode, hback _ _ _ hdecode⟩
  rw [(hlong _ [5]).1]
  simp only [List.length_replicate, List.take_replicate, List.drop_replicate]
  rfl

end TlvCodec.Tlv
