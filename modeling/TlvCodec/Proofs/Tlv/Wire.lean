import TlvCodec.Proofs.Bytes.Reader
import TlvCodec.Tlv.Basic

namespace TlvCodec
open BigEndian
set_option autoImplicit true

/-- The data ends inside its first element, and `rest` is left after the header. -/
inductive Cut : Bytes → UInt16 → Bytes → Prop where
  | header {bs : Bytes} (h : bs.length < headerSize) : Cut bs (UInt16.ofNat bs.length) bs
  | value {rest : Bytes} {code n : UInt16} (h : rest.length < n.toNat) :
    Cut (octets16 code ++ (octets16 n ++ rest)) n rest

variable {t : Tlv} {bs before rest value : Bytes} {code n : UInt16} {k : Nat}

namespace Tlv

/-- The size of the value, or the largest length if it is more. -/
def lengthField (t : Tlv) : UInt16 := UInt16.ofNat (min t.value.length 65535)

def wire (t : Tlv) : Bytes := octets16 t.code ++ (octets16 t.lengthField ++ t.value)

/-- The length field has room for the size of the value. -/
def Fits (t : Tlv) : Prop := t.value.length ≤ 65535

def frame (t : Tlv) : Frame := ⟨t.code, t.lengthField, t.value⟩

theorem lengthField_toNat (t : Tlv) : t.lengthField.toNat = min t.value.length 65535 := by
  simp only [lengthField, UInt16.toNat_ofNat']
  omega

theorem Fits.toNat_lengthField (h : t.Fits) : t.lengthField.toNat = t.value.length := by
  rw [lengthField_toNat]
  exact Nat.min_eq_left h

theorem Fits.eq_lengthField (h : n.toNat = t.value.length) : t.Fits ∧ n = t.lengthField := by
  have hn := n.toNat_lt
  have ht : t.Fits := by
    unfold Fits
    omega
  exact ⟨ht, UInt16.toNat_inj.mp (h.trans ht.toNat_lengthField.symm)⟩

@[simp] theorem wire_length (t : Tlv) : t.wire.length = headerSize + t.value.length := by
  simp only [wire, List.length_append, octets16_length, headerSize]
  omega

theorem wire_ne_nil (t : Tlv) : t.wire ≠ [] := by
  intro h
  have hl := t.wire_length
  rw [h, headerSize, List.length_nil] at hl
  omega

end Tlv

namespace Buffer

theorem size_of_element {b : Buffer}
    (h : b.toList = before ++ (octets16 code ++ (octets16 n ++ value))) :
    b.size = before.length + headerSize + value.length := by
  rw [← Array.length_toList, h]
  simp only [List.length_append, octets16_length, headerSize]
  omega

/-- Closing an element touches nothing but its length field. -/
theorem toList_closeTlv {b : Buffer}
    (h : b.toList = before ++ (octets16 code ++ (octets16 n ++ value))) :
    (b.closeTlv before.length).toList = before ++ (Tlv.mk code value).wire := by
  have hsize : b.size - before.length - headerSize = value.length := by
    rw [size_of_element h]
    omega
  have hlength : min value.length 65535 = (Tlv.mk code value).lengthField.toNat :=
    (Tlv.mk code value).lengthField_toNat.symm
  simp only [closeTlv, hsize, hlength, Array.toList_setIfInBounds, h]
  simp [octets16, Tlv.wire]

theorem toList_openTlv (code : UInt16) (b : Buffer) :
    (b.openTlv code).toList = b.toList ++ (octets16 code ++ octets16 0) := by
  simp only [openTlv, toList_word16, List.append_assoc]

theorem toList_tlv {body : Buffer → Buffer} {b : Buffer}
    (h : ∀ b : Buffer, (body b).toList = b.toList ++ value) :
    (b.tlv code body).toList = b.toList ++ (Tlv.mk code value).wire := by
  apply toList_closeTlv (n := 0)
  rw [h, toList_openTlv]
  simp only [List.append_assoc]

end Buffer

theorem Tlv.toList_write (t : Tlv) (b : Buffer) : (t.write b).toList = b.toList ++ t.wire :=
  Buffer.toList_tlv (Buffer.toList_bytes t.value)

theorem Frame.split_cut (h : Cut bs n rest) (bound : Bound) :
    Frame.split bound bs = (.error (bound.overrun n), rest) := by
  cases h with
  | header h =>
    match bs, h with
    | [], _ | [_], _ | [_, _], _ | [_, _, _], _ => rfl
  | value h =>
    simp only [octets16, List.cons_append, List.nil_append, split, word16_octets16,
      Reader.split_of_lt h]

theorem Frame.split_wire (h : t.Fits) (bound : Bound) (rest : Bytes) :
    Frame.split bound (t.wire ++ rest) = (.ok t.frame, rest) := by
  have hs : Reader.split t.lengthField.toNat (t.value ++ rest) = .ok (t.value, rest) :=
    Reader.split_eq_ok_iff.mpr ⟨h.toNat_lengthField.symm, rfl⟩
  simp only [Tlv.wire, octets16, List.cons_append, List.nil_append, split, word16_octets16, hs]
  rfl

/-- Data either ends inside its first element or starts with one. -/
theorem cut_or_wire (bs : Bytes) :
    (∃ n rest, Cut bs n rest) ∨ ∃ t rest, Tlv.Fits t ∧ bs = t.wire ++ rest := by
  match bs with
  | [] | [_] | [_, _] | [_, _, _] => exact .inl ⟨_, _, .header (by simp [headerSize])⟩
  | a :: b :: c :: d :: tail =>
    have hcode := octets16_word16 a b
    have hlen := octets16_word16 c d
    rcases Nat.lt_or_ge tail.length (word16 c d).toNat with hlt | hle
    · have hcut : Cut (octets16 (word16 a b) ++ (octets16 (word16 c d) ++ tail)) _ tail :=
        .value hlt
      rw [hcode, hlen] at hcut
      exact .inl ⟨_, _, hcut⟩
    · obtain ⟨hfits, he⟩ := Tlv.Fits.eq_lengthField (n := word16 c d)
        (t := ⟨word16 a b, tail.take (word16 c d).toNat⟩) (List.length_take_of_le hle).symm
      refine .inr ⟨_, tail.drop (word16 c d).toNat, hfits, ?_⟩
      simp only [Tlv.wire, ← he, hcode, hlen, List.append_assoc, List.take_append_drop]
      rfl

theorem exists_wire_of_split {frame : Frame} (h : Frame.split bound bs = (.ok frame, rest)) :
    ∃ t, Tlv.Fits t ∧ frame = t.frame ∧ bs = t.wire ++ rest := by
  rcases cut_or_wire bs with ⟨n, tail, hcut⟩ | ⟨t, tail, ht, rfl⟩
  · rw [Frame.split_cut hcut] at h
    cases h
  · rw [Frame.split_wire ht] at h
    cases h
    exact ⟨t, ht, rfl, rfl⟩

def declaredLength (bs : Bytes) : UInt16 := word16 (bs.getD 2 0) (bs.getD 3 0)

theorem declaredLength_header (code n : UInt16) (rest : Bytes) :
    declaredLength (octets16 code ++ (octets16 n ++ rest)) = n :=
  word16_octets16 n

theorem declaredLength_append (t : Tlv) (rest : Bytes) :
    declaredLength (t.wire ++ rest) = t.lengthField := by
  rw [Tlv.wire, List.append_assoc, List.append_assoc, declaredLength_header]

theorem exists_cut_iff : (∃ n rest, Cut bs n rest) ↔
    bs.length < headerSize ∨ bs.length - headerSize < (declaredLength bs).toNat := by
  constructor
  · rintro ⟨n, rest, h | h⟩
    · exact .inl h
    · refine .inr ?_
      rw [declaredLength_header]
      simp only [List.length_append, octets16_length, headerSize]
      omega
  · intro h
    rcases cut_or_wire bs with hcut | ⟨t, rest, ht, rfl⟩
    · exact hcut
    · rw [declaredLength_append, ht.toNat_lengthField, List.length_append, Tlv.wire_length] at h
      omega

/-- Any data is a run of elements, up to where it ends inside one. -/
theorem framing {motive : Bytes → Prop} (nil : motive [])
    (cut : ∀ bs n rest, bs ≠ [] → Cut bs n rest → motive bs)
    (wire : ∀ t rest, Tlv.Fits t → motive rest → motive (t.wire ++ rest)) (bs : Bytes) :
    motive bs := by
  induction hl : bs.length using Nat.strongRecOn generalizing bs with
  | _ l ih =>
    rcases cut_or_wire bs with ⟨n, rest, hcut⟩ | ⟨t, rest, ht, rfl⟩
    · by_cases hne : bs = []
      · exact hne ▸ nil
      · exact cut bs n rest hne hcut
    · have hlt : rest.length < l := by
        rw [← hl, List.length_append, Tlv.wire_length, headerSize]
        omega
      exact wire t rest ht (ih _ hlt rest rfl)

/-- No proper part of an element passes for one. -/
theorem Tlv.Fits.cut_take (h : t.Fits) (hk : k < t.wire.length) :
    ∃ n rest, Cut (t.wire.take k) n rest := by
  rcases Nat.lt_or_ge k headerSize with hlt | hle
  · refine ⟨_, _, .header ?_⟩
    rw [List.length_take]
    omega
  · have he : t.wire.take k =
        octets16 t.code ++ (octets16 t.lengthField ++ t.value.take (k - headerSize)) := by
      obtain ⟨j, rfl⟩ := Nat.exists_eq_add_of_le hle
      simp only [Tlv.wire, octets16, headerSize, List.cons_append, List.nil_append,
        Nat.add_comm 4 j, List.take_succ_cons, Nat.add_sub_cancel]
    rw [he]
    refine ⟨_, _, .value ?_⟩
    rw [h.toNat_lengthField, List.length_take]
    rw [wire_length] at hk
    omega

end TlvCodec
