import Mathlib.Data.List.Induction
import Mathlib.Data.Nat.Bitwise
import TlvCodec.Ieee.Basic
import TlvCodec.Ipv6

namespace TlvCodec
open BigEndian
set_option autoImplicit true

namespace BigEndian

/-- The number that octets stand for, the first one counting most. -/
def number (bs : Bytes) : Nat := bs.foldl (fun n b => n * 256 + b.toNat) 0

def octetsOf : Nat → Nat → Bytes
  | 0, _ => []
  | k + 1, n => octetsOf k (n / 256) ++ [UInt8.ofNat n]

variable {bs : Bytes}

theorem length_octetsOf (k n : Nat) : (octetsOf k n).length = k := by
  induction k generalizing n with
  | zero => rfl
  | succ k ih => rw [octetsOf, List.length_append, ih, List.length_singleton]

theorem number_concat (bs : Bytes) (b : UInt8) :
    number (bs ++ [b]) = number bs * 256 + b.toNat := by
  simp only [number, List.foldl_append, List.foldl_cons, List.foldl_nil]

theorem number_octetsOf (k n : Nat) : number (octetsOf k n) = n % 256 ^ k := by
  induction k generalizing n with
  | zero => exact (Nat.mod_one n).symm
  | succ k ih =>
    have hpow : 256 ^ (k + 1) = 256 * 256 ^ k := Nat.pow_succ'
    rw [octetsOf, number_concat, ih, UInt8.toNat_ofNat', hpow, Nat.mod_mul]
    omega

theorem octetsOf_number (h : bs.length = k) : octetsOf k (number bs) = bs := by
  subst h
  induction bs using List.reverseRecOn with
  | nil => rfl
  | append_singleton bs b ih =>
    have hb := b.toNat_lt
    have hfront : number (bs ++ [b]) / 256 = number bs := by
      rw [number_concat]
      omega
    have hlast : UInt8.ofNat (number (bs ++ [b])) = b := by
      apply UInt8.toNat_inj.mp
      rw [UInt8.toNat_ofNat', number_concat]
      omega
    rw [List.length_append, List.length_singleton, octetsOf, hfront, hlast, ih]

theorem number_lt (h : bs.length = k) : number bs < 256 ^ k := by
  rw [← octetsOf_number h, number_octetsOf]
  exact Nat.mod_lt _ (Nat.pow_pos (by decide))

theorem octets16_eq (n : UInt16) : octets16 n = octetsOf 2 n.toNat := rfl

theorem octets24_eq (n : UInt32) : octets24 n = octetsOf 3 n.toNat := by
  simp only [octets24, octetsOf, Nat.div_div_eq_div_mul, List.nil_append, List.cons_append]

theorem octets32_eq (n : UInt32) : octets32 n = octetsOf 4 n.toNat := by
  simp only [octets32, octetsOf, Nat.div_div_eq_div_mul, List.nil_append, List.cons_append]

theorem number_octets16 (n : UInt16) : number (octets16 n) = n.toNat := by
  rw [octets16_eq, number_octetsOf]
  exact Nat.mod_eq_of_lt n.toNat_lt

theorem number_octets24 (n : UInt32) : number (octets24 n) = n.toNat % 16777216 := by
  rw [octets24_eq, number_octetsOf]
  rfl

theorem number_octets32 (n : UInt32) : number (octets32 n) = n.toNat := by
  rw [octets32_eq, number_octetsOf]
  exact Nat.mod_eq_of_lt n.toNat_lt

theorem octets16_number (h : bs.length = 2) : octets16 (.ofNat (number bs)) = bs := by
  rw [octets16_eq, UInt16.toNat_ofNat_of_lt' (number_lt h), octetsOf_number h]

theorem octets24_number (h : bs.length = 3) : octets24 (.ofNat (number bs)) = bs := by
  have hlt : number bs < UInt32.size := Nat.lt_trans (number_lt h) (by decide)
  rw [octets24_eq, UInt32.toNat_ofNat_of_lt' hlt, octetsOf_number h]

theorem octets32_number (h : bs.length = 4) : octets32 (.ofNat (number bs)) = bs := by
  rw [octets32_eq, UInt32.toNat_ofNat_of_lt' (number_lt h), octetsOf_number h]

end BigEndian

def Ipv6.ofNumber (n : Nat) : Ipv6 := ⟨⟨octetsOf 16 n, length_octetsOf 16 n⟩⟩

theorem Ipv6.ofNumber_number (octets : Octets 16) : ofNumber (number octets.val) = ⟨octets⟩ := by
  simp only [ofNumber, octetsOf_number octets.property]

/-- The octets of a word, masked out and shifted to the opposite places. -/
def mirrorOctets (v : UInt32) : UInt32 :=
  ((v &&& 0xFF) <<< 24) ||| ((v &&& 0xFF00) <<< 8) ||| ((v &&& 0xFF0000) >>> 8) |||
    ((v >>> 24) &&& 0xFF)

theorem toNat_mirrorOctets (v : UInt32) : (mirrorOctets v).toNat =
    (v.toNat &&& (2 ^ 8 - 1)) <<< 24 % 2 ^ 32 |||
      (v.toNat &&& ((2 ^ 8 - 1) <<< 8)) <<< 8 % 2 ^ 32 |||
      (v.toNat &&& ((2 ^ 8 - 1) <<< 16)) >>> 8 ||| (v.toNat >>> 24 &&& (2 ^ 8 - 1)) := by
  simp [mirrorOctets]

theorem toNat_reverseOctets (v : UInt32) : (reverseOctets v).toNat =
    2 ^ 8 * (2 ^ 8 * (2 ^ 8 * (v.toNat % 2 ^ 8) + v.toNat / 2 ^ 8 % 2 ^ 8) +
      v.toNat / 2 ^ 16 % 2 ^ 8) + v.toNat / 2 ^ 24 % 2 ^ 8 := by
  simp only [reverseOctets, word32_toNat, UInt8.toNat_ofNat', Nat.reducePow]
  omega

theorem mirrorOctets_eq (v : UInt32) : mirrorOctets v = reverseOctets v := by
  apply UInt32.toNat_inj.mp
  rw [toNat_mirrorOctets, toNat_reverseOctets]
  apply Nat.eq_of_testBit_eq
  intro i
  have hoctet (n : Nat) : n % 2 ^ 8 < 2 ^ 8 := Nat.mod_lt n (Nat.two_pow_pos 8)
  simp only [Nat.testBit_or, Nat.testBit_and, Nat.testBit_shiftLeft, Nat.testBit_shiftRight,
    Nat.testBit_two_pow_sub_one, Nat.testBit_two_pow_mul_add _ (hoctet _),
    Nat.testBit_mod_two_pow, Nat.testBit_div_two_pow]
  -- What is left is which of the four octets bit `i` lies in, and where that octet comes from.
  grind

end TlvCodec
