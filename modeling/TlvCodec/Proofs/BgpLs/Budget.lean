import TlvCodec.Proofs.BgpLs.Wire
import TlvCodec.Proofs.Tlv.Guard
import TlvCodec.Tool.Decode

namespace TlvCodec.BgpLs
open Decoder
set_option autoImplicit true

variable {bs value : Bytes} {len : UInt16}

namespace Attribute

theorem hasEnough_field {r : Reader α} (form : α → Attribute) (hr : r.Takes 4)
    (h : value.length = len.toNat) :
    (do
      if len ≠ 4 then Decoder.fail (.malformedLength len)
      else return form (← Decoder.read r) : Decoder Event Attribute).HasEnough value := by
  refine hasEnough_guard fun hl => ?_
  have hl : len.toNat = 4 := congrArg UInt16.toNat (Decidable.not_not.mp hl)
  exact hasEnough_read_bind hr (by omega) fun _ => hasEnough_pure _ _

theorem hasEnough_readBits_bind {f : Single → Decoder Event α} (hn : 4 ≤ bs.length)
    (hf : ∀ x, (f x).HasEnough (bs.drop 4)) : (readBits >>= f).HasEnough bs := by
  obtain ⟨x, hx⟩ := Single.takes_read bs hn
  have hbits : readBits bs = ⟨.ok x.timesEight, bs.drop 4, []⟩ := by
    rw [readBits, bind_of_ok (read_of_ok hx)]
    rfl
  rw [HasEnough, bind_of_ok hbits]
  exact hf x.timesEight

theorem hasEnough_decodeUnreservedBandwidth (h : value.length = len.toNat) :
    (decodeUnreservedBandwidth len).HasEnough value := by
  unfold decodeUnreservedBandwidth
  refine hasEnough_guard fun hl => ?_
  have hl : len.toNat = 32 := congrArg UInt16.toNat (Decidable.not_not.mp hl)
  have hv : value.length = 32 := h.trans hl
  refine hasEnough_readBits_bind (by omega) fun x₀ => ?_
  refine hasEnough_readBits_bind (by simp only [List.length_drop]; omega) fun x₁ => ?_
  refine hasEnough_readBits_bind (by simp only [List.length_drop]; omega) fun x₂ => ?_
  refine hasEnough_readBits_bind (by simp only [List.length_drop]; omega) fun x₃ => ?_
  refine hasEnough_readBits_bind (by simp only [List.length_drop]; omega) fun x₄ => ?_
  refine hasEnough_readBits_bind (by simp only [List.length_drop]; omega) fun x₅ => ?_
  refine hasEnough_readBits_bind (by simp only [List.length_drop]; omega) fun x₆ => ?_
  refine hasEnough_readBits_bind (by simp only [List.length_drop]; omega) fun x₇ => ?_
  exact hasEnough_pure _ _

theorem guarded_registry : registry.Guarded := by
  intro code decode hd len value h
  simp only [registry, List.mem_cons, Prod.mk.injEq, List.not_mem_nil, or_false] at hd
  rcases hd with ⟨-, rfl⟩ | ⟨-, rfl⟩ | ⟨-, rfl⟩ | ⟨-, rfl⟩ | ⟨-, rfl⟩
  · exact hasEnough_field adminGroup Reader.takes_word32 h
  · exact hasEnough_field maxLinkBandwidth Single.takes_read h
  · exact hasEnough_field maxResvLinkBandwidth Single.takes_read h
  · exact hasEnough_decodeUnreservedBandwidth h
  · exact hasEnough_field teDefaultMetric Reader.takes_word32 h

end Attribute

namespace AttributeSet

variable {n : UInt16} {data : Bytes}

theorem decode_truncated_iff :
    (decode n data).result = .error .truncatedInput ↔ data.length < n.toNat := by
  rcases Nat.lt_or_ge data.length n.toNat with hlt | hle
  · rw [decode_of_lt hlt]
    exact iff_of_true rfl hlt
  · rw [decode_of_le hle, map_eq_error_iff]
    refine iff_of_false ?_ (Nat.not_lt.mpr hle)
    exact Attribute.guarded_registry.sequence_parent (data.take n.toNat)

/-- What follows the attributes has no bearing on them, and is left. -/
theorem decode_take_append (h : n.toNat ≤ data.length) (more : Bytes) :
    decode n (data.take n.toNat ++ more) =
      ⟨(decode n data).result, more, (decode n data).events⟩ := by
  have htake : (data.take n.toNat).length = n.toNat := List.length_take_of_le h
  have hle : n.toNat ≤ (data.take n.toNat ++ more).length := by
    rw [List.length_append, htake]
    exact Nat.le_add_right _ _
  rw [decode_of_le hle, decode_of_le h, List.take_left' htake, List.drop_left' htake]

end AttributeSet

end TlvCodec.BgpLs

namespace TlvCodec.Tool
open BgpLs

variable {data : Bytes}

theorem decode_bgpLs_of_lt (h : 65535 < data.length) (pretty : Bool) :
    (decode .bgpLs data pretty).1 = .error (.inputTooLong data.length) := by
  change ((Protocol.bgpLs.decode data).1.map (render pretty)) = _
  rw [Protocol.decode, if_pos h]
  rfl

theorem decode_bgpLs_of_le (h : data.length ≤ 65535) (pretty : Bool) :
    (decode .bgpLs data pretty).1 =
      match (AttributeSet.decode (UInt16.ofNat data.length) data).result with
      | .ok s => .ok (render pretty s.toJson)
      | .error e => .error (.bgpLsDecode e) := by
  change ((Protocol.bgpLs.decode data).1.map (render pretty)) = _
  rw [Protocol.decode, if_neg (Nat.not_lt.mpr h)]
  rcases AttributeSet.decode (UInt16.ofNat data.length) data with ⟨e | s, rest, events⟩
  · rfl
  · rfl

end TlvCodec.Tool

namespace TlvCodec.BgpLs.AttributeSet

/-- Attributes take up the declared octets, no more and no less; what follows has no bearing. -/
theorem decode_budget :
    (∀ (n : UInt16) (data : Bytes),
      ((decode n data).result = .error .truncatedInput ↔ data.length < n.toNat) ∧
      (data.length < n.toNat → (decode n data).rest = data) ∧
      (n.toNat ≤ data.length →
        (decode n data).rest = data.drop n.toNat ∧
        (∀ more, (decode n (data.take n.toNat ++ more)).result = (decode n data).result ∧
          (decode n (data.take n.toNat ++ more)).rest = more) ∧
        ∀ e, (decode n data).result = .error e → ∃ x, e = .malformedLength x)) ∧
    ∀ (data : Bytes) (pretty : Bool),
      (∀ k, (Tool.decode .bgpLs data pretty).1 = .error (.inputTooLong k) ↔
        65535 < data.length ∧ k = data.length) ∧
      (Tool.decode .bgpLs data pretty).1 ≠ .error (.bgpLsDecode .truncatedInput) := by
  constructor
  · intro n data
    refine ⟨decode_truncated_iff, ?_, ?_⟩
    · intro hlt
      rw [decode_of_lt hlt]
    · intro hle
      refine ⟨?_, ?_, ?_⟩
      · rw [decode_of_le hle]
      · intro more
        rw [decode_take_append hle more]
        exact ⟨rfl, rfl⟩
      · intro e he
        cases e with
        | truncatedInput => exact absurd (decode_truncated_iff.mp he) (Nat.not_lt.mpr hle)
        | malformedLength x => exact ⟨x, rfl⟩
  · intro data pretty
    rcases Nat.lt_or_ge 65535 data.length with hlt | hle
    · rw [Tool.decode_bgpLs_of_lt hlt]
      refine ⟨?_, nofun⟩
      intro k
      simp [hlt, eq_comm]
    · have hn : (UInt16.ofNat data.length).toNat = data.length := by
        rw [UInt16.toNat_ofNat']
        omega
      rw [Tool.decode_bgpLs_of_le hle]
      cases he : (decode (UInt16.ofNat data.length) data).result with
      | ok s =>
        refine ⟨?_, nofun⟩
        intro k
        exact iff_of_false nofun fun h => Nat.not_lt.mpr hle h.1
      | error e =>
        constructor
        · intro k
          exact iff_of_false nofun fun h => Nat.not_lt.mpr hle h.1
        · rintro h
          cases h
          rw [decode_truncated_iff, hn] at he
          exact Nat.lt_irrefl _ he

/-- An element cut short by the budget, though two more octets are there. -/
def cutElements : Bytes := [4, 64, 0, 4, 0, 0, 0, 9, 4, 64, 0, 2, 1, 1]

theorem decode_budget_cutElements :
    (decode 15 cutElements).result = .error .truncatedInput ∧
      (decode 15 cutElements).rest = cutElements ∧
      (decode 12 cutElements).rest = [1, 1] ∧
      (decode 12 [4, 64, 0, 4, 0, 0, 0, 9, 4, 64, 0, 2, 7]).result =
        .error (.malformedLength 2) ∧
      (∃ x, DecodeError.malformedLength 2 = .malformedLength x) ∧
      (Tool.decode .bgpLs (List.replicate 65536 0) true).1 = .error (.inputTooLong 65536) := by
  obtain ⟨hdecode, htool⟩ := decode_budget
  obtain ⟨htruncated, hmissing, -⟩ := hdecode 15 cutElements
  obtain ⟨-, -, hwithin⟩ := hdecode 12 cutElements
  obtain ⟨hrest, hmore, herror⟩ := hwithin (by decide)
  have hwrong : (decode 12 cutElements).result = .error (.malformedLength 2) := by decide +kernel
  obtain ⟨hlong, -⟩ := htool (List.replicate 65536 0) true
  rw [List.length_replicate] at hlong
  exact ⟨htruncated.mpr (by decide), hmissing (by decide), hrest, (hmore [7]).1.trans hwrong,
    herror _ hwrong, (hlong 65536).mpr ⟨by decide, rfl⟩⟩

end TlvCodec.BgpLs.AttributeSet
