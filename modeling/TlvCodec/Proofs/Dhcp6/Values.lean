import TlvCodec.Proofs.Dhcp6.Rescoping
import TlvCodec.Proofs.Tlv.Lossless

namespace TlvCodec.Dhcp6
open Decoder
set_option autoImplicit true

variable {bs rest : Bytes} {len : UInt16}

namespace Duid

theorem decodeContents_rest {d : Duid} {type : UInt16}
    (h : (decodeContents len type : Decoder ε Duid).Yields bs d rest) :
    rest = [] ∨ len.toNat = d.length := by
  have hleft (f : Bytes → Duid) : (do return f (← remainder) : Decoder ε Duid).Exhausts :=
    exhausts_return exhausts_remainder f
  unfold decodeContents at h
  split at h
  · exact .inl (exhausts_guard (exhausts_bind fun _ => exhausts_bind fun _ => hleft _) _ _ _ h)
  split at h
  · exact .inl (exhausts_guard (exhausts_bind fun _ => hleft _) _ _ _ h)
  split at h
  · exact .inl (exhausts_guard (exhausts_bind fun _ => hleft _) _ _ _ h)
  split at h
  · -- the one form that does not go on to the end of the data
    split at h
    · simp at h
    · rename_i hl
      simp only [yields_bind, yields_read, yields_pure] at h
      obtain ⟨octets, _, -, rfl, -⟩ := h
      exact .inr (congrArg UInt16.toNat (Decidable.not_not.mp hl))
  · exact .inl (hleft _ _ _ _ h)

theorem encode_eq_wire (d : Duid) : d.encode = d.wire := d.toList_write #[]

theorem lossless_decode : Lossless (decode : UInt16 → Decoder ε Duid) encode := by
  apply lossless_of_sound
  intro len bs d rest h
  obtain ⟨-, hb⟩ := decode_sound h
  rw [d.encode_eq_wire, d.wire_length]
  refine ⟨hb, ?_⟩
  unfold decode at h
  split at h
  · simp at h
  · simp only [yields_bind] at h
    obtain ⟨type, mid, -, hcontents⟩ := h
    exact decodeContents_rest hcontents

end Duid

namespace DhcpOption

theorem lossless_ofDuid {form : Duid → DhcpOption} (hform : ∀ duid, (form duid).value = duid.wire) :
    Lossless (fun len => (do return form (← Duid.decode len) : Decoder Event DhcpOption))
      value := by
  intro len bs o rest h
  obtain ⟨duid, rfl, hduid⟩ := (yields_ofDuid form).mp h
  rw [hform, ← duid.encode_eq_wire]
  exact Duid.lossless_decode len bs duid rest hduid

theorem lossless_decodeIaAddr : Lossless decodeIaAddr value := by
  apply lossless_of_exhausts
  · intro len bs o rest h
    obtain ⟨_, _, _, _, -, -, hv⟩ := decodeIaAddr_sound 0 h
    exact hv
  · intro len
    unfold decodeIaAddr
    apply exhausts_guard
    exact exhausts_bind fun address => exhausts_bind fun preferred => exhausts_bind fun valid =>
      exhausts_return (exhausts_sequence inIaAddr .parent) _

theorem lossless_decodeIaNa : Lossless decodeIaNa value := by
  apply lossless_of_exhausts
  · intro len bs o rest h
    obtain ⟨_, _, _, _, -, -, hv⟩ := decodeIaNa_sound 0 h
    exact hv
  · intro len
    unfold decodeIaNa
    apply exhausts_guard
    exact exhausts_bind fun id => exhausts_bind fun t1 => exhausts_bind fun t2 =>
      exhausts_return (exhausts_sequence inIaNa .parent) _

theorem lossless_decodeOptionRequest : Lossless decodeOptionRequest value := by
  apply lossless_of_exhausts
  · intro len bs o rest h
    obtain ⟨_, -, hv⟩ := decodeOptionRequest_sound h
    exact hv
  · intro len
    unfold decodeOptionRequest
    exact exhausts_guard (exhausts_return exhausts_words _)

theorem lossless_decodeElapsedTime : Lossless decodeElapsedTime value := by
  apply lossless_of_sound
  intro len bs o rest h
  obtain ⟨time, rfl, hv⟩ := decodeElapsedTime_sound h
  refine ⟨hv, .inr ?_⟩
  unfold decodeElapsedTime at h
  split at h
  · simp at h
  · rename_i hl
    rw [Decidable.not_not.mp hl]
    rfl

theorem lossless_decodeRelayMsg (depth : RelayDepth) : Lossless (decodeRelayMsg depth) value := by
  apply lossless_of_sound
  intro len bs o rest h
  obtain ⟨m, rfl, -, -, rfl, rfl⟩ :=
    (yields_decodeRelayMsg fun inner _ => inverts_inMessage inner).mp h
  exact ⟨(List.append_nil _).symm, .inl rfl⟩

theorem lossless_of_mem {scope : Scope} {depth : RelayDepth} {code : UInt16}
    {decode : UInt16 → Decoder Event DhcpOption}
    (h : (code, decode) ∈ (scope.registry depth).decoders) : Lossless decode value := by
  cases scope with
  | message =>
    rw [Scope.registry, inMessage_eq] at h
    simp only [List.mem_cons, Prod.mk.injEq, List.not_mem_nil, or_false] at h
    rcases h with ⟨-, rfl⟩ | ⟨-, rfl⟩ | ⟨-, rfl⟩ | ⟨-, rfl⟩ | ⟨-, rfl⟩ | ⟨-, rfl⟩
    · exact lossless_ofDuid fun _ => rfl
    · exact lossless_ofDuid fun _ => rfl
    · exact lossless_decodeIaNa
    · exact lossless_decodeOptionRequest
    · exact lossless_decodeElapsedTime
    · exact lossless_decodeRelayMsg depth
  | iaNa =>
    cases List.mem_singleton.mp h
    exact lossless_decodeIaAddr
  | iaAddr => cases h

/-- The decoders of values lose nothing, whatever length they are told. -/
theorem decoders_lossless (depth : RelayDepth) :
    Lossless (Duid.decode : UInt16 → Decoder Event Duid) Duid.encode ∧
    (∀ decode ∈ [decodeClientId, decodeServerId, decodeIaNa, decodeIaAddr, decodeOptionRequest,
        decodeElapsedTime, decodeRelayMsg depth],
      Lossless decode fun o => o.encode.drop headerSize) ∧
    ∀ (scope : Scope) (bound : Bound) (bs : Bytes) (decode : UInt16 → Decoder Event DhcpOption),
      headerSize + (declaredLength bs).toNat ≤ bs.length →
      (scope.registry depth).lookup (declaredCode bs) = some decode →
        ((scope.registry depth).one bound bs).result =
          (decode (declaredLength bs) (declaredValue bs)).result := by
  refine ⟨Duid.lossless_decode, ?_, ?_⟩
  · simp only [drop_encode, List.forall_mem_cons]
    exact ⟨lossless_ofDuid fun _ => rfl, lossless_ofDuid fun _ => rfl, lossless_decodeIaNa,
      lossless_decodeIaAddr, lossless_decodeOptionRequest, lossless_decodeElapsedTime,
      lossless_decodeRelayMsg depth, List.forall_mem_nil _⟩
  · intro scope bound bs decode h hd
    exact Registry.one_of_lossless hd (lossless_of_mem (Registry.mem_of_lookup hd)) h bound

/-- An elapsed time given too much, and an association told too much. -/
theorem decoders_lossless_misled :
    ((decodeElapsedTime 2).Yields [0, 7, 9] (elapsedTime 7) [9] ∧
      (elapsedTime 7).encode.drop headerSize ++ [9] = [0, 7, 9]) ∧
    (decodeIaNa 900).Yields [0, 0, 0, 1, 0, 0, 0, 2, 0, 0, 0, 3] (iaNa 1 2 3 []) [] ∧
      (iaNa 1 2 3 []).encode.drop headerSize = [0, 0, 0, 1, 0, 0, 0, 2, 0, 0, 0, 3] := by
  obtain ⟨-, hoptions, -⟩ := decoders_lossless .outermost
  have htime : (decodeElapsedTime 2).Yields [0, 7, 9] (elapsedTime 7) [9] := ⟨rfl, rfl⟩
  have hiaNa : (decodeIaNa 900).Yields [0, 0, 0, 1, 0, 0, 0, 2, 0, 0, 0, 3] (iaNa 1 2 3 []) [] :=
    ⟨by decide +kernel, by decide +kernel⟩
  obtain ⟨hsent, -⟩ := hoptions decodeElapsedTime (by simp) 2 _ _ _ htime
  obtain ⟨hempty, -⟩ := hoptions decodeIaNa (by simp) 900 _ _ _ hiaNa
  rw [List.append_nil] at hempty
  exact ⟨⟨htime, hsent⟩, hiaNa, hempty⟩

end DhcpOption

end TlvCodec.Dhcp6
