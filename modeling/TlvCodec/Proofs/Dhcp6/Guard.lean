import TlvCodec.Proofs.Dhcp6.Truncation
import TlvCodec.Proofs.Tlv.Guard

namespace TlvCodec.Dhcp6
open Decoder Reader
set_option autoImplicit true

variable {bs value : Bytes} {len : UInt16}

namespace Duid

theorem hasEnough_decodeContents (type : UInt16) (h : bs.length + 2 = len.toNat) :
    (decodeContents len type : Decoder ε Duid).HasEnough bs := by
  unfold decodeContents
  split
  · refine hasEnough_guard fun hl => ?_
    have hl : 8 ≤ len.toNat := toNat_le_of_not_lt hl
    refine hasEnough_read_bind takes_word16 (by omega) fun hardware => ?_
    refine hasEnough_read_bind takes_word32 (by rw [List.length_drop]; omega) fun time => ?_
    exact nofun
  split
  · refine hasEnough_guard fun hl => ?_
    have hl : 6 ≤ len.toNat := toNat_le_of_not_lt hl
    refine hasEnough_read_bind takes_word32 (by omega) fun enterprise => ?_
    exact nofun
  split
  · refine hasEnough_guard fun hl => ?_
    have hl : 4 ≤ len.toNat := toNat_le_of_not_lt hl
    refine hasEnough_read_bind takes_word16 (by omega) fun hardware => ?_
    exact nofun
  split
  · refine hasEnough_guard fun hl => ?_
    have hl : len.toNat = 18 := congrArg UInt16.toNat (Decidable.not_not.mp hl)
    refine hasEnough_read_bind (takes_octets 16) (by omega) fun octets => ?_
    exact nofun
  · exact nofun

theorem hasEnough_decode (h : value.length = len.toNat) :
    (decode len : Decoder ε Duid).HasEnough value := by
  unfold decode
  refine hasEnough_guard fun hl => ?_
  have hl : 2 ≤ len.toNat := toNat_le_of_not_lt hl
  refine hasEnough_read_bind takes_word16 (by omega) fun type => ?_
  apply hasEnough_decodeContents
  rw [List.length_drop]
  omega

end Duid

/-- A message that breaks off inside an element has a wrong length. -/
theorem Message.hasEnough_decodeWith {known : Registry Event DhcpOption} (hk : known.Guarded)
    (bs : Bytes) : (decodeWith known .parent).HasEnough bs := by
  unfold HasEnough
  rcases Nat.lt_or_ge bs.length (headerLengthOf bs) with hlt | hle
  · rw [decodeWith_short hlt]
    exact nofun
  · obtain ⟨m, rest, hm, rfl⟩ := exists_header hle
    rw [decodeWith_header hm, Ne, map_eq_error_iff]
    exact hk.sequence_parent rest

namespace DhcpOption

theorem guarded_inIaAddr : inIaAddr.Guarded :=
  fun _ _ h => absurd h List.not_mem_nil

theorem hasEnough_decodeIaAddr (h : value.length = len.toNat) :
    (decodeIaAddr len).HasEnough value := by
  unfold decodeIaAddr
  refine hasEnough_guard fun hl => ?_
  have hl : 24 ≤ len.toNat := toNat_le_of_not_lt hl
  refine hasEnough_read_bind Ipv6.takes_read (by omega) fun address => ?_
  refine hasEnough_read_bind takes_word32 (by rw [List.length_drop]; omega) fun preferred => ?_
  refine hasEnough_read_bind takes_word32 (by simp only [List.length_drop]; omega) fun valid => ?_
  exact hasEnough_bind (guarded_inIaAddr.sequence_parent _) fun _ _ _ => hasEnough_pure _ _

theorem guarded_inIaNa : inIaNa.Guarded := by
  intro code decode hd len value h
  cases List.mem_singleton.mp hd
  exact hasEnough_decodeIaAddr h

theorem hasEnough_decodeIaNa (h : value.length = len.toNat) :
    (decodeIaNa len).HasEnough value := by
  unfold decodeIaNa
  refine hasEnough_guard fun hl => ?_
  have hl : 12 ≤ len.toNat := toNat_le_of_not_lt hl
  refine hasEnough_read_bind takes_word32 (by omega) fun id => ?_
  refine hasEnough_read_bind takes_word32 (by rw [List.length_drop]; omega) fun t1 => ?_
  refine hasEnough_read_bind takes_word32 (by simp only [List.length_drop]; omega) fun t2 => ?_
  exact hasEnough_bind (guarded_inIaNa.sequence_parent _) fun _ _ _ => hasEnough_pure _ _

theorem hasEnough_decodeOptionRequest (h : value.length = len.toNat) :
    (decodeOptionRequest len).HasEnough value := by
  unfold decodeOptionRequest
  refine hasEnough_guard fun hl => ?_
  have heven : value.length % 2 = 0 := by
    rw [h]
    exact congrArg UInt16.toNat (Decidable.not_not.mp hl)
  exact hasEnough_bind (hasEnough_words [] heven) fun _ _ _ => hasEnough_pure _ _

theorem hasEnough_decodeElapsedTime (h : value.length = len.toNat) :
    (decodeElapsedTime len).HasEnough value := by
  unfold decodeElapsedTime
  refine hasEnough_guard fun hl => ?_
  have hl : len.toNat = 2 := congrArg UInt16.toNat (Decidable.not_not.mp hl)
  exact hasEnough_read_bind takes_word16 (by omega) fun _ => hasEnough_pure _ _

theorem hasEnough_decodeRelayMsg {depth : RelayDepth}
    (ih : ∀ inner, depth.enter? = some inner → (inMessage inner).Guarded) :
    (decodeRelayMsg depth len).HasEnough value := by
  unfold decodeRelayMsg decodeRelayed
  cases he : depth.enter? with
  | none => exact hasEnough_malformed _ _
  | some inner => exact hasEnough_map (Message.hasEnough_decodeWith (ih inner he) value)

theorem guarded_inMessage (depth : RelayDepth) : (inMessage depth).Guarded := by
  -- on the levels that are left, as the messages relayed in this one are read one level down
  induction depth using inMessage.induct with
  | case1 depth ih =>
    intro code decode hd len value h
    simp only [inMessage_eq, List.mem_cons, Prod.mk.injEq, List.not_mem_nil, or_false] at hd
    rcases hd with ⟨-, rfl⟩ | ⟨-, rfl⟩ | ⟨-, rfl⟩ | ⟨-, rfl⟩ | ⟨-, rfl⟩ | ⟨-, rfl⟩
    · exact hasEnough_bind (Duid.hasEnough_decode h) fun _ _ _ => hasEnough_pure _ _
    · exact hasEnough_bind (Duid.hasEnough_decode h) fun _ _ _ => hasEnough_pure _ _
    · exact hasEnough_decodeIaNa h
    · exact hasEnough_decodeOptionRequest h
    · exact hasEnough_decodeElapsedTime h
    · exact hasEnough_decodeRelayMsg ih

end DhcpOption

theorem Scope.guarded_registry (depth : RelayDepth) : ∀ scope : Scope,
    (scope.registry depth).Guarded
  | message => DhcpOption.guarded_inMessage depth
  | iaNa => DhcpOption.guarded_inIaNa
  | iaAddr => DhcpOption.guarded_inIaAddr

namespace Message

variable {data : Bytes}

theorem decode_truncated_iff :
    decode data = .error .truncatedInput ↔
      data.length < headerLengthOf data ∨
        ∃ front tail, data = front ++ tail ∧ (∃ m, decode front = .ok m) ∧ tail ≠ [] ∧
          (tail.length < headerSize ∨ tail.length - headerSize < (declaredLength tail).toNat) := by
  have hk := DhcpOption.guarded_inMessage .outermost
  constructor
  · intro h
    rcases Nat.lt_or_ge data.length (headerLengthOf data) with hlt | hle
    · exact .inl hlt
    · obtain ⟨m, bs, hm, rfl⟩ := exists_header hle
      rw [decode_header hm, map_eq_error_iff] at h
      obtain ⟨front, tail, rfl, ⟨os, hs⟩, hne, hcut⟩ := hk.sequence_truncated_iff.mp h
      refine .inr ⟨m.header ++ front, tail, (List.append_assoc _ _ _).symm,
        ⟨m.withOptions os, ?_⟩, hne, exists_cut_iff.mp hcut⟩
      rw [decode_header hm, hs]
      rfl
  · rintro (hlt | ⟨front, tail, rfl, ⟨m, hf⟩, hne, hcut⟩)
    · exact decode_short hlt
    · obtain ⟨hm, rfl⟩ := decode_eq_ok_iff.mp hf
      have hheader := ((regular_and_nesting_le_iff m 32).mp hm).1
      rw [wire_eq, decode_header hheader, map_eq_ok_iff] at hf
      obtain ⟨os, hs, -⟩ := hf
      rw [wire_eq, List.append_assoc, decode_header hheader, map_eq_error_iff]
      exact hk.sequence_truncated_iff.mpr ⟨_, tail, rfl, ⟨os, hs⟩, hne, exists_cut_iff.mpr hcut⟩

/-- Input is missing exactly where a message ends too early, and never inside an option. -/
theorem decode_error_kinds :
    (∀ data, decode data = .error .truncatedInput ↔
      data.length < headerLengthOf data ∨
        ∃ front tail, data = front ++ tail ∧ (∃ m, decode front = .ok m) ∧ tail ≠ [] ∧
          (tail.length < headerSize ∨
            tail.length - headerSize < (declaredLength tail).toNat)) ∧
    (∀ data e, decode data = .error e → e ≠ .truncatedInput → ∃ n, e = .malformedLength n) ∧
    (∀ (scope : Scope) (depth : RelayDepth) (bs : Bytes),
      ((scope.registry depth).one .parent bs).result ≠ .error .truncatedInput ∧
        ((scope.registry depth).sequence .parent bs).result ≠ .error .truncatedInput) ∧
    ∀ (bound : Bound) (bs rest : Bytes) (frame : Frame),
      Frame.split bound bs = (.ok frame, rest) →
        (∀ (scope : Scope) (depth : RelayDepth) (decode : UInt16 → Decoder Event DhcpOption),
          (scope.registry depth).lookup frame.code = some decode →
            (decode frame.length frame.value).result ≠ .error .truncatedInput) ∧
        (Duid.decode frame.length frame.value : Outcome Event Duid).result ≠
          .error .truncatedInput := by
  refine ⟨fun _ => decode_truncated_iff, ?_, ?_, ?_⟩
  · intro data e _ hne
    cases e with
    | truncatedInput => exact absurd rfl hne
    | malformedLength n => exact ⟨n, rfl⟩
  · intro scope depth bs
    have hk := Scope.guarded_registry depth scope
    exact ⟨hk.one_parent bs, hk.sequence_parent bs⟩
  · intro bound bs rest frame h
    obtain ⟨t, ht, rfl, -⟩ := exists_wire_of_split h
    have hl : t.frame.value.length = t.frame.length.toNat := ht.toNat_lengthField.symm
    refine ⟨?_, Duid.hasEnough_decode hl⟩
    intro scope depth decode hd
    exact Scope.guarded_registry depth scope _ _ (Registry.mem_of_lookup hd) _ _ hl

/-- A solicit cut short, one with a wrong length, and a client identifier too short. -/
theorem decode_error_kinds_solicit :
    decode [1, 0, 0, 7, 0, 8, 0, 2, 0, 50, 0, 6, 0, 4, 0, 23] = .error .truncatedInput ∧
      (∃ n, DecodeError.malformedLength 1 = .malformedLength n) ∧
      (DhcpOption.decodeClientId 6 [0, 1, 0, 1, 0, 0]).result ≠ .error .truncatedInput ∧
      (Duid.decode 6 [0, 1, 0, 1, 0, 0] : Outcome Event Duid).result ≠ .error .truncatedInput := by
  obtain ⟨htruncated, hother, -, hvalue⟩ := decode_error_kinds
  have hfront : decode [1, 0, 0, 7, 0, 8, 0, 2, 0, 50] =
      .ok (.client 1 7 [.elapsedTime 50]) := by decide +kernel
  have hwrong : decode [1, 0, 0, 7, 0, 8, 0, 1, 0] = .error (.malformedLength 1) := by
    decide +kernel
  have hsplit : Frame.split .parent [0, 1, 0, 6, 0, 1, 0, 1, 0, 0] =
      (.ok ⟨1, 6, [0, 1, 0, 1, 0, 0]⟩, []) := rfl
  obtain ⟨hoption, hduid⟩ := hvalue _ _ _ _ hsplit
  refine ⟨(htruncated _).mpr (.inr ⟨_, [0, 6, 0, 4, 0, 23], rfl, ⟨_, hfront⟩, ?_, ?_⟩),
    hother _ _ hwrong nofun, hoption .message .outermost _ ?_, hduid⟩
  · exact nofun
  · exact .inr (by decide)
  · rw [Scope.registry, DhcpOption.inMessage_eq]
    rfl

end Message

end TlvCodec.Dhcp6
