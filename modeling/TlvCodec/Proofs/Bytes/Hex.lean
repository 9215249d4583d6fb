import Mathlib.Algebra.Group.Nat.Defs
import Mathlib.Data.List.GetD
import TlvCodec.Bytes.Hex

namespace TlvCodec.Hex
set_option autoImplicit true

variable {text front back bs : Bytes} {b c : UInt8} {ds : List Nat} {i : Nat}

/-- The octets that are digits, of either case. -/
def IsDigit (b : UInt8) : Prop :=
  (0x30 ≤ b ∧ b ≤ 0x39) ∨ (0x41 ≤ b ∧ b ≤ 0x46) ∨ (0x61 ≤ b ∧ b ≤ 0x66)

instance : DecidablePred IsDigit := fun b => by unfold IsDigit; infer_instance

def digitValue (b : UInt8) : Nat :=
  if b ≤ 0x39 then b.toNat - 0x30 else if b ≤ 0x46 then b.toNat - 0x37 else b.toNat - 0x57

def digitOctet (upper : Bool) (d : Nat) : UInt8 :=
  UInt8.ofNat (if d < 10 then 0x30 + d else if upper then 0x37 + d else 0x57 + d)

/-- The numbers that digits of octets stand for, the high half first. -/
def halves (bs : Bytes) : List Nat := bs.flatMap fun b => [b.toNat / 16, b.toNat % 16]

def ofHalves : List Nat → Bytes
  | high :: low :: ds => UInt8.ofNat (high * 16 + low) :: ofHalves ds
  | _ => []

theorem isDigit_digitOctet (upper : Bool) : ∀ d < 16, IsDigit (digitOctet upper d) := by
  cases upper with
  | false => decide
  | true => decide

theorem digitValue_digitOctet (upper : Bool) : ∀ d < 16, digitValue (digitOctet upper d) = d := by
  cases upper with
  | false => decide
  | true => decide

theorem digitValue_lt (h : IsDigit b) : digitValue b < 16 := by
  simp only [IsDigit, UInt8.le_iff_toNat_le, UInt8.reduceToNat] at h
  simp only [digitValue, UInt8.le_iff_toNat_le, UInt8.reduceToNat]
  grind

theorem hexValue?_octet (b : UInt8) :
    hexValue? (Char.ofNat b.toNat) = if IsDigit b then some (digitValue b) else none := by
  have hb := b.toNat_lt
  have hc : (Char.ofNat b.toNat).toNat = b.toNat := by
    have hv : b.toNat.isValidChar := .inl (by omega)
    rw [Char.ofNat, dif_pos hv]
    rfl
  simp only [hexValue?, hc, IsDigit, digitValue, UInt8.le_iff_toNat_le, UInt8.reduceToNat]
  grind

theorem digitAt_of_isDigit (h : IsDigit b) (index : Nat) :
    digitAt b index = .ok (digitValue b) := by
  simp only [digitAt, hexValue?_octet, if_pos h]

theorem digitAt_of_not_isDigit (h : ¬IsDigit b) (index : Nat) :
    digitAt b index = .error (.invalidCharacter b index) := by
  simp only [digitAt, hexValue?_octet, if_neg h]

theorem ofHalves_halves (bs : Bytes) : ofHalves (halves bs) = bs := by
  induction bs with
  | nil => rfl
  | cons b bs ih =>
    have hb : UInt8.ofNat (b.toNat / 16 * 16 + b.toNat % 16) = b := by
      rw [Nat.div_add_mod', UInt8.ofNat_toNat]
    change UInt8.ofNat (b.toNat / 16 * 16 + b.toNat % 16) :: ofHalves (halves bs) = b :: bs
    rw [hb, ih]

theorem halves_lt (bs : Bytes) : ∀ d ∈ halves bs, d < 16 := by
  intro d hd
  obtain ⟨b, -, hd⟩ := List.mem_flatMap.mp hd
  have hb := b.toNat_lt
  simp only [List.mem_cons, List.not_mem_nil, or_false] at hd
  rcases hd with rfl | rfl
  · omega
  · omega

theorem length_halves (bs : Bytes) : (halves bs).length = 2 * bs.length := by
  induction bs with
  | nil => rfl
  | cons b bs ih =>
    change (halves bs).length + 2 = 2 * (bs.length + 1)
    omega

theorem length_ofHalves (ds : List Nat) : (ofHalves ds).length = ds.length / 2 := by
  fun_induction ofHalves ds with
  | case1 high low ds ih =>
    simp only [List.length_cons, ih]
    omega
  | case2 ds hshort =>
    match ds, hshort with
    | [], _ => rfl
    | [d], _ => simp
    | high :: low :: ds, hshort => exact absurd rfl (hshort high low ds)

theorem toNat_getD_ofHalves (hds : ∀ d ∈ ds, d < 16) (hi : i < (ofHalves ds).length) :
    ((ofHalves ds).getD i 0).toNat = 16 * ds.getD (2 * i) 0 + ds.getD (2 * i + 1) 0 := by
  fun_induction ofHalves ds generalizing i with
  | case1 high low ds ih =>
    simp only [List.forall_mem_cons] at hds
    obtain ⟨hhigh, hlow, hds⟩ := hds
    cases i with
    | zero =>
      simp only [List.getD_cons_zero, UInt8.toNat_ofNat', Nat.mul_zero, Nat.zero_add,
        List.getD_cons_succ]
      omega
    | succ i => exact ih hds (Nat.lt_of_succ_lt_succ hi)
  | case2 => exact absurd hi (Nat.not_lt_zero i)

theorem decodePairs_of_isDigit {text : Bytes} (h : ∀ b ∈ text, IsDigit b) (index : Nat)
    (done : Bytes) :
    decodePairs index done text = .ok (done.reverse ++ ofHalves (text.map digitValue)) := by
  match text with
  | [] => exact congrArg Except.ok (List.append_nil done.reverse).symm
  | [a] => exact congrArg Except.ok (List.append_nil done.reverse).symm
  | a :: b :: rest =>
    simp only [List.forall_mem_cons] at h
    obtain ⟨ha, hb, hrest⟩ := h
    have ih := decodePairs_of_isDigit hrest (index + 2)
      (UInt8.ofNat (digitValue a * 16 + digitValue b) :: done)
    rw [decodePairs, digitAt_of_isDigit ha, digitAt_of_isDigit hb]
    rw [List.reverse_cons, List.append_assoc] at ih
    exact ih

/-- The first octet that is no digit is reported, with its place. -/
theorem decodePairs_of_not_isDigit {front : Bytes} (hfront : ∀ b ∈ front, IsDigit b)
    (hc : ¬IsDigit c) (heven : (front ++ c :: back).length % 2 = 0) (index : Nat) (done : Bytes) :
    decodePairs index done (front ++ c :: back) =
      .error (.invalidCharacter c (index + front.length)) := by
  -- Digits go in pairs, and the wrong octet may be either of its pair.
  match front with
  | [] =>
    match back with
    | [] => simp at heven
    | b :: back =>
      rw [List.nil_append, decodePairs, digitAt_of_not_isDigit hc]
      rfl
  | [a] =>
    have ha := hfront a List.mem_cons_self
    rw [List.singleton_append, decodePairs, digitAt_of_isDigit ha, digitAt_of_not_isDigit hc]
    rfl
  | a :: b :: front =>
    simp only [List.forall_mem_cons] at hfront
    obtain ⟨ha, hb, hrest⟩ := hfront
    simp only [List.cons_append, List.length_cons, Nat.add_assoc, Nat.reduceAdd,
      Nat.add_mod_right] at heven
    have ih := decodePairs_of_not_isDigit hrest hc heven (index + 2)
      (UInt8.ofNat (digitValue a * 16 + digitValue b) :: done)
    rw [List.cons_append, List.cons_append, decodePairs, digitAt_of_isDigit ha,
      digitAt_of_isDigit hb]
    rw [Nat.add_assoc, Nat.add_comm 2] at ih
    exact ih

theorem decode_of_odd (h : text.length % 2 = 1) : decode text = .error .oddLength := by
  rw [decode, if_neg (by omega)]

theorem decode_of_isDigit (heven : text.length % 2 = 0) (h : ∀ b ∈ text, IsDigit b) :
    decode text = .ok (ofHalves (text.map digitValue)) := by
  rw [decode, if_pos heven, decodePairs_of_isDigit h]
  rfl

theorem decode_of_not_isDigit (heven : (front ++ c :: back).length % 2 = 0)
    (hfront : ∀ b ∈ front, IsDigit b) (hc : ¬IsDigit c) :
    decode (front ++ c :: back) = .error (.invalidCharacter c front.length) := by
  rw [decode, if_pos heven, decodePairs_of_not_isDigit hfront hc heven, Nat.zero_add]

theorem isDigit_or_exists (text : Bytes) : (∀ b ∈ text, IsDigit b) ∨
    ∃ front c back, text = front ++ c :: back ∧ (∀ b ∈ front, IsDigit b) ∧ ¬IsDigit c := by
  cases h : text.find? fun b => ¬IsDigit b with
  | none =>
    left
    simpa using h
  | some c =>
    right
    obtain ⟨hc, front, back, he, hfront⟩ := List.find?_eq_some_iff_append.mp h
    exact ⟨front, c, back, he, by simpa using hfront, by simpa using hc⟩

theorem decode_eq_ok_iff : decode text = .ok bs ↔
    text.length % 2 = 0 ∧ (∀ b ∈ text, IsDigit b) ∧ bs = ofHalves (text.map digitValue) := by
  constructor
  · intro h
    have heven : text.length % 2 = 0 := by
      rcases Nat.mod_two_eq_zero_or_one text.length with heven | hodd
      · exact heven
      · rw [decode_of_odd hodd] at h
        cases h
    rcases isDigit_or_exists text with hdigits | ⟨front, c, back, rfl, hfront, hc⟩
    · rw [decode_of_isDigit heven hdigits] at h
      exact ⟨heven, hdigits, (Except.ok.inj h).symm⟩
    · rw [decode_of_not_isDigit heven hfront hc] at h
      cases h
  · rintro ⟨heven, hdigits, rfl⟩
    exact decode_of_isDigit heven hdigits

end TlvCodec.Hex
