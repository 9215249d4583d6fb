import TlvCodec.Proofs.Bytes.Number
import TlvCodec.Proofs.Tlv.Script

namespace TlvCodec.Field
open BigEndian
set_option autoImplicit true

def Form.size : Form → Nat
  | .octet => 1
  | .word16 => 2
  | .word24 => 3
  | .word32 => 4
  | .address => 16
  | .single => 4
  | .bytes size => size

/-- The value of the octets; numbers of the older encoding have theirs in reverse. -/
def Form.value : Form → Bytes → Field
  | .octet, bs => .octet (UInt8.ofNat (number bs))
  | .word16, bs => .word16 (UInt16.ofNat (number bs))
  | .word24, bs => .word24 (UInt32.ofNat (number bs))
  | .word32, bs => .word32 (UInt32.ofNat (number bs))
  | .address, bs => .address (Ipv6.ofNumber (number bs))
  | .single, bs => .single ⟨mirrorOctets (UInt32.ofNat (number bs))⟩
  | .bytes _, bs => .bytes bs

/-- The value as its width can hold it. -/
def reduced : Field → Field
  | .word24 n => .word24 (n % 16777216)
  | f => f

variable {kind : Form} {bs : Bytes} {k : Nat}

theorem length_octets (f : Field) : f.octets.length = f.form.size := by
  cases f with
  | address a => exact a.octets.property
  | octet | word16 | word24 | word32 | single | bytes => rfl

theorem mirrorOctets_toWire (x : Single) : mirrorOctets x.toWire = x.bits := by
  rw [mirrorOctets_eq, Single.toWire, reverseOctets_reverseOctets]

theorem value_octets (f : Field) : f.form.value f.octets = f.reduced := by
  cases f with
  | octet n =>
    have h : number [n] = n.toNat := Nat.zero_add n.toNat
    simp only [form, Form.value, octets, h, UInt8.ofNat_toNat, reduced]
  | word16 n => simp only [form, Form.value, octets, number_octets16, UInt16.ofNat_toNat, reduced]
  | word24 n =>
    have h : number (octets24 n) = (n % 16777216).toNat :=
      (number_octets24 n).trans (UInt32.toNat_mod n 16777216).symm
    simp only [form, Form.value, octets, h, UInt32.ofNat_toNat, reduced]
  | word32 n => simp only [form, Form.value, octets, number_octets32, UInt32.ofNat_toNat, reduced]
  | address a => exact congrArg Field.address (Ipv6.ofNumber_number a.octets)
  | single x =>
    simp only [form, Form.value, octets, number_octets32, UInt32.ofNat_toNat, mirrorOctets_toWire,
      reduced]
  | bytes bs => rfl

theorem octets_value (h : bs.length = kind.size) : (kind.value bs).octets = bs := by
  cases kind with
  | octet | address => exact octetsOf_number h
  | word16 => exact octets16_number h
  | word24 => exact octets24_number h
  | word32 => exact octets32_number h
  | single =>
    simp only [Form.value, octets, Single.toWire, mirrorOctets_eq, reverseOctets_reverseOctets]
    exact octets32_number h
  | bytes n => rfl

theorem form_value (h : bs.length = kind.size) : (kind.value bs).form = kind := by
  cases kind with
  | bytes n => exact congrArg Form.bytes h
  | octet | word16 | word24 | word32 | address | single => rfl

theorem read_octets (f : Field) (rest : Bytes) :
    read f.form (f.octets ++ rest) = .ok (f.reduced, rest) := by
  cases f with
  | octet n => rfl
  | word16 n =>
    have h : Reader.word16 (octets16 n ++ rest) = .ok (n, rest) := Reader.word16_eq_ok_iff.mpr rfl
    rw [form, octets, read, h]
    rfl
  | word24 n =>
    have h : Reader.word24 (octets24 n ++ rest) = .ok (n % 16777216, rest) :=
      Reader.word24_eq_ok_iff.mpr ⟨toNat_mod_lt n, by rw [octets24_mod]⟩
    rw [form, octets, read, h]
    rfl
  | word32 n =>
    have h : Reader.word32 (octets32 n ++ rest) = .ok (n, rest) := Reader.word32_eq_ok_iff.mpr rfl
    rw [form, octets, read, h]
    rfl
  | address a =>
    have h : Ipv6.read (a.octets.val ++ rest) = .ok (a, rest) := Ipv6.read_eq_ok_iff.mpr rfl
    rw [form, octets, read, h]
    rfl
  | single x =>
    have h : Single.read (octets32 x.toWire ++ rest) = .ok (x, rest) :=
      Single.read_eq_ok_iff.mpr rfl
    rw [form, octets, read, h]
    rfl
  | bytes bs =>
    have h : Reader.split bs.length (bs ++ rest) = .ok (bs, rest) :=
      Reader.split_eq_ok_iff.mpr ⟨rfl, rfl⟩
    rw [form, octets, read, h]
    rfl

theorem read_of_lt (h : bs.length < kind.size) :
    read kind bs = .error ⟨kind.size, bs.length⟩ := by
  cases kind with
  | octet =>
    match bs, h with
    | [], _ => rfl
  | word16 =>
    match bs, h with
    | [], _ | [_], _ => rfl
  | word24 =>
    match bs, h with
    | [], _ | [_], _ | [_, _], _ => rfl
  | word32 | single =>
    match bs, h with
    | [], _ | [_], _ | [_, _], _ | [_, _, _], _ => rfl
  | address =>
    have hr : Reader.octets 16 bs = .error ⟨16, bs.length⟩ := Reader.octets_of_lt h
    rw [read, Ipv6.read, hr]
    rfl
  | bytes n =>
    have hr : Reader.split n bs = .error ⟨n, bs.length⟩ := Reader.split_of_lt h
    rw [read, hr]
    rfl

theorem read_of_le (h : kind.size ≤ bs.length) :
    read kind bs = .ok (kind.value (bs.take kind.size), bs.drop kind.size) := by
  have htake : (bs.take kind.size).length = kind.size := List.length_take_of_le h
  have hread := read_octets (kind.value (bs.take kind.size)) (bs.drop kind.size)
  rw [← value_octets, octets_value htake, form_value htake, List.take_append_drop] at hread
  exact hread

def writeAll (fs : List Field) (b : Buffer) : Buffer := fs.foldl (fun b f => f.write b) b

def written (fs : List Field) : Bytes := (writeAll fs #[]).toList

theorem toList_writeAll (fs : List Field) (b : Buffer) :
    (writeAll fs b).toList = b.toList ++ fs.flatMap octets := by
  induction fs generalizing b with
  | nil => exact (List.append_nil _).symm
  | cons f fs ih =>
    change (writeAll fs (f.write b)).toList = _
    rw [ih, toList_write, List.flatMap_cons, List.append_assoc]

theorem written_eq (fs : List Field) : written fs = fs.flatMap octets :=
  toList_writeAll fs #[]

theorem exists_part {fs : List Field} (h : k < (fs.flatMap octets).length) :
    ∃ front f back part, fs = front ++ f :: back ∧ part.length < f.form.size ∧
      (fs.flatMap octets).take k = front.flatMap octets ++ part := by
  induction fs generalizing k with
  | nil => exact absurd h (Nat.not_lt_zero k)
  | cons f fs ih =>
    rw [List.flatMap_cons] at h ⊢
    by_cases hk : k < f.octets.length
    · refine ⟨[], f, fs, f.octets.take k, rfl, ?_, ?_⟩
      · rw [List.length_take_of_le (Nat.le_of_lt hk), ← f.length_octets]
        exact hk
      · exact List.take_append_of_le_length (Nat.le_of_lt hk)
    · obtain ⟨j, rfl⟩ := Nat.exists_eq_add_of_le (Nat.not_lt.mp hk)
      have hj : j < (fs.flatMap octets).length := by
        rw [List.length_append] at h
        omega
      obtain ⟨front, g, back, part, rfl, hpart, htake⟩ := ih hj
      refine ⟨f :: front, g, back, part, rfl, hpart, ?_⟩
      rw [List.take_length_add_append, htake, List.flatMap_cons, List.append_assoc]

end TlvCodec.Field
