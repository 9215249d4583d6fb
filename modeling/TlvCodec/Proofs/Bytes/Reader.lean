import Mathlib.Algebra.Group.Nat.Defs
import TlvCodec.Ieee.Basic
import TlvCodec.Ipv6

namespace TlvCodec
open BigEndian
set_option autoImplicit true

theorem BigEndian.word24_of_lt (h : n.toNat < 2 ^ 24) :
    word24 (UInt8.ofNat (n.toNat / 65536)) (UInt8.ofNat (n.toNat / 256))
      (UInt8.ofNat n.toNat) = n := by
  apply UInt32.toNat_inj.mp
  rw [word24_octets24]
  exact Nat.mod_eq_of_lt h

theorem BigEndian.word24_lt (a b c : UInt8) : (word24 a b c).toNat < 2 ^ 24 := by
  have ha := a.toNat_lt
  have hb := b.toNat_lt
  have hc := c.toNat_lt
  rw [word24_toNat]
  omega

theorem BigEndian.toNat_mod_lt (n : UInt32) : (n % 16777216).toNat < 2 ^ 24 := by
  rw [UInt32.toNat_mod]
  exact Nat.mod_lt _ (by decide)

theorem BigEndian.octets24_mod (n : UInt32) : octets24 (n % 16777216) = octets24 n := by
  have hn := n.toNat_lt
  have hm : (n % 16777216).toNat = n.toNat % 16777216 := UInt32.toNat_mod n 16777216
  simp only [octets24, hm, List.cons.injEq, and_true, ← UInt8.toNat_inj, UInt8.toNat_ofNat']
  omega

theorem BigEndian.flatMap_octets16_length (ns : List UInt16) :
    (ns.flatMap octets16).length = ns.length * 2 := by
  induction ns with
  | nil => rfl
  | cons n ns ih =>
    rw [List.flatMap_cons, List.length_append, ih, octets16_length, List.length_cons]
    omega

namespace Reader

theorem word16_eq_ok_iff : word16 bs = .ok (n, rest) ↔ bs = octets16 n ++ rest := by
  constructor
  · intro h
    unfold word16 at h
    split at h
    · simp only [Except.ok.injEq, Prod.mk.injEq] at h
      obtain ⟨rfl, rfl⟩ := h
      rw [octets16_word16]
      rfl
    · cases h
  · rintro rfl
    simp only [octets16, List.cons_append, List.nil_append, word16, word16_octets16]

theorem word24_eq_ok_iff :
    word24 bs = .ok (n, rest) ↔ n.toNat < 2 ^ 24 ∧ bs = octets24 n ++ rest := by
  constructor
  · intro h
    unfold word24 at h
    split at h
    · simp only [Except.ok.injEq, Prod.mk.injEq] at h
      obtain ⟨rfl, rfl⟩ := h
      refine ⟨word24_lt _ _ _, ?_⟩
      rw [octets24_word24]
      rfl
    · cases h
  · rintro ⟨hn, rfl⟩
    simp only [octets24, List.cons_append, List.nil_append, word24, word24_of_lt hn]

theorem word32_eq_ok_iff : word32 bs = .ok (n, rest) ↔ bs = octets32 n ++ rest := by
  constructor
  · intro h
    unfold word32 at h
    split at h
    · simp only [Except.ok.injEq, Prod.mk.injEq] at h
      obtain ⟨rfl, rfl⟩ := h
      rw [octets32_word32]
      rfl
    · cases h
  · rintro rfl
    simp only [octets32, List.cons_append, List.nil_append, word32, word32_octets32]

theorem octets_eq_ok_iff {v : Octets n} :
    octets n bs = .ok (v, rest) ↔ bs = v.val ++ rest := by
  have hv := v.property
  constructor
  · intro h
    rcases Nat.lt_or_ge bs.length n with hlt | hle
    · simp [octets_of_lt hlt] at h
    · simp only [octets_of_le hle, Except.ok.injEq, Prod.mk.injEq] at h
      obtain ⟨rfl, rfl⟩ := h
      exact (List.take_append_drop n bs).symm
  · rintro rfl
    have hle : n ≤ (v.val ++ rest).length := by simp [hv]
    simp only [octets_of_le hle, List.take_left' hv, List.drop_left' hv]

theorem split_eq_ok_iff :
    split n bs = .ok (v, rest) ↔ v.length = n ∧ bs = v ++ rest := by
  constructor
  · intro h
    rcases Nat.lt_or_ge bs.length n with hlt | hle
    · simp [split_of_lt hlt] at h
    · simp only [split_of_le hle, Except.ok.injEq, Prod.mk.injEq] at h
      obtain ⟨rfl, rfl⟩ := h
      exact ⟨List.length_take_of_le hle, (List.take_append_drop n bs).symm⟩
  · rintro ⟨rfl, rfl⟩
    rw [split_of_le (by simp)]
    simp

end Reader

theorem Ipv6.read_eq_ok_iff {a : Ipv6} :
    Ipv6.read bs = .ok (a, rest) ↔ bs = a.octets.val ++ rest := by
  rw [← Reader.octets_eq_ok_iff]
  cases h : Reader.octets 16 bs with
  | error e => simp [Ipv6.read, h, Except.map]
  | ok p =>
    cases a
    simp [Ipv6.read, h, Except.map, Prod.ext_iff]

/-- A number is read from every word, and only from its own octets. -/
theorem Single.read_eq_ok_iff {x : Single} :
    Single.read bs = .ok (x, rest) ↔ bs = octets32 x.toWire ++ rest := by
  rw [← Reader.word32_eq_ok_iff]
  cases h : Reader.word32 bs with
  | error e => simp [Single.read, h, Except.map]
  | ok p =>
    have hx : ofWire p.1 = x ↔ p.1 = x.toWire := by
      constructor
      · rintro rfl
        exact (toWire_ofWire p.1).symm
      · intro hp
        rw [hp, ofWire_toWire]
    simp [Single.read, h, Except.map, Prod.ext_iff, hx]

end TlvCodec
