import TlvCodec.Dhcp6.Duid
import TlvCodec.Proofs.Tlv.Decoder

namespace TlvCodec.Dhcp6
open BigEndian Decoder
set_option autoImplicit true

variable {bs rest : Bytes} {len : UInt16}

theorem not_lt_of_toNat_le {n : UInt16} (h : n.toNat ≤ len.toNat) : ¬len < n :=
  UInt16.not_lt.mpr (UInt16.le_iff_toNat_le.mpr h)

theorem toNat_le_of_not_lt {n : UInt16} (h : ¬len < n) : n.toNat ≤ len.toNat :=
  UInt16.le_iff_toNat_le.mp (UInt16.not_lt.mp h)

namespace Duid

def contents : Duid → Bytes
  | llt hardware time address => octets16 hardware ++ (octets32 time ++ address)
  | en enterprise identifier => octets32 enterprise ++ identifier
  | ll hardware address => octets16 hardware ++ address
  | uuid octets => octets.val
  | unknown _ data => data

def wire (d : Duid) : Bytes := octets16 d.type ++ d.contents

theorem toList_write (d : Duid) (b : Buffer) : (d.write b).toList = b.toList ++ d.wire := by
  cases d <;> simp [write, writeContents, wire, contents]

theorem wire_length (d : Duid) : d.wire.length = d.length := by
  cases d with
  | uuid octets => simp [wire, contents, length, octets.property]
  | unknown type data => simp [wire, contents, length]
  | llt | en | ll =>
    simp only [wire, contents, length, List.length_append, octets16_length, octets32_length]
    omega

def Regular : Duid → Prop
  | unknown type _ => type ∉ DuidType.all.map DuidType.number
  | _ => True

instance : (d : Duid) → Decidable d.Regular
  | .unknown _ _ => inferInstanceAs (Decidable (_ ∉ _))
  | .llt .. | .en .. | .ll .. | .uuid _ => inferInstanceAs (Decidable True)

theorem decodeContents_sound {d : Duid} {type : UInt16}
    (h : (decodeContents len type : Decoder ε Duid).Yields bs d rest) :
    d.Regular ∧ d.type = type ∧ bs = d.contents ++ rest := by
  unfold decodeContents at h
  split at h
  · rename_i ht
    split at h
    · simp at h
    · simp only [yields_bind, yields_read, yields_remainder, yields_pure,
        Reader.word16_eq_ok_iff, Reader.word32_eq_ok_iff] at h
      obtain ⟨hardware, _, rfl, time, _, rfl, address, _, ⟨rfl, rfl⟩, rfl, rfl⟩ := h
      exact ⟨trivial, ht.symm, by simp [contents]⟩
  split at h
  · rename_i ht
    split at h
    · simp at h
    · simp only [yields_bind, yields_read, yields_remainder, yields_pure,
        Reader.word32_eq_ok_iff] at h
      obtain ⟨enterprise, _, rfl, identifier, _, ⟨rfl, rfl⟩, rfl, rfl⟩ := h
      exact ⟨trivial, ht.symm, by simp [contents]⟩
  split at h
  · rename_i ht
    split at h
    · simp at h
    · simp only [yields_bind, yields_read, yields_remainder, yields_pure,
        Reader.word16_eq_ok_iff] at h
      obtain ⟨hardware, _, rfl, address, _, ⟨rfl, rfl⟩, rfl, rfl⟩ := h
      exact ⟨trivial, ht.symm, by simp [contents]⟩
  split at h
  · rename_i ht
    split at h
    · simp at h
    · simp only [yields_bind, yields_read, yields_pure, Reader.octets_eq_ok_iff] at h
      obtain ⟨octets, _, rfl, rfl, rfl⟩ := h
      exact ⟨trivial, ht.symm, rfl⟩
  · rename_i hllt hen hll huuid
    simp only [yields_bind, yields_remainder, yields_pure] at h
    obtain ⟨data, _, ⟨rfl, rfl⟩, rfl, rfl⟩ := h
    exact ⟨by simp [Regular, DuidType.all, hllt, hen, hll, huuid], rfl, by simp [contents]⟩

theorem decode_sound {d : Duid}
    (h : (decode len : Decoder ε Duid).Yields bs d rest) :
    d.Regular ∧ bs = d.wire ++ rest := by
  unfold decode at h
  split at h
  · simp at h
  · simp only [yields_bind, yields_read, Reader.word16_eq_ok_iff] at h
    obtain ⟨type, mid, rfl, h⟩ := h
    obtain ⟨hd, rfl, rfl⟩ := decodeContents_sound h
    exact ⟨hd, by rw [wire, List.append_assoc]⟩

theorem decodeContents_complete {d : Duid} (hd : d.Regular) (hl : len.toNat = d.length) :
    (decodeContents len d.type : Decoder ε Duid).Yields d.contents d [] := by
  cases d with
  | llt hardware time address =>
    have h : ¬len < 8 := not_lt_of_toNat_le (hl ▸ Nat.le_add_right 8 _)
    simp only [decodeContents, type, contents, h, if_true, if_false, yields_bind, yields_read,
      yields_remainder, yields_pure, Reader.word16_eq_ok_iff, Reader.word32_eq_ok_iff]
    exact ⟨hardware, _, rfl, time, _, rfl, address, _, ⟨rfl, rfl⟩, rfl, rfl⟩
  | en enterprise identifier =>
    have h : ¬len < 6 := not_lt_of_toNat_le (hl ▸ Nat.le_add_right 6 _)
    simp [decodeContents, type, contents, h, DuidType.number, Reader.word32_eq_ok_iff]
  | ll hardware address =>
    have h : ¬len < 4 := not_lt_of_toNat_le (hl ▸ Nat.le_add_right 4 _)
    simp [decodeContents, type, contents, h, DuidType.number, Reader.word16_eq_ok_iff]
  | uuid octets =>
    have h : len = 18 := UInt16.toNat_inj.mp hl
    simp [decodeContents, type, contents, h, DuidType.number, Reader.octets_eq_ok_iff]
  | unknown type data =>
    simp only [Regular, DuidType.all, List.map_cons, List.map_nil, List.mem_cons,
      List.not_mem_nil, or_false, not_or] at hd
    simp [decodeContents, Duid.type, contents, hd]

theorem decode_complete {d : Duid} (hd : d.Regular) (hl : len.toNat = d.length) :
    (decode len : Decoder ε Duid).Yields d.wire d [] := by
  have h : ¬len < 2 := by
    apply not_lt_of_toNat_le
    rw [hl, ← d.wire_length, wire, List.length_append]
    exact Nat.le_add_right 2 _
  simp only [decode, h, if_false, yields_bind, yields_read, Reader.word16_eq_ok_iff]
  exact ⟨d.type, d.contents, rfl, decodeContents_complete hd hl⟩

end Duid

end TlvCodec.Dhcp6
