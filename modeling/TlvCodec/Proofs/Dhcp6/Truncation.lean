import Mathlib.Algebra.GroupWithZero.Nat
import TlvCodec.Proofs.Dhcp6.RoundTrip

namespace TlvCodec.Dhcp6
set_option autoImplicit true

theorem RegularOptions.take {os : List DhcpOption} (h : RegularOptions scope os) (i : Nat) :
    RegularOptions scope (os.take i) := by
  rw [regularOptions_iff] at h ⊢
  intro o ho
  exact h o (List.mem_of_mem_take ho)

theorem nestingOfOptions_take_le (os : List DhcpOption) (i : Nat) :
    nestingOfOptions (os.take i) ≤ nestingOfOptions os := by
  rw [nestingOfOptions_le_iff]
  intro o ho
  exact nestingOfOptions_le_iff.mp (Nat.le_refl _) o (List.mem_of_mem_take ho)

theorem sum_length_eq (os : List DhcpOption) :
    (os.map DhcpOption.length).sum = (os.flatMap fun o => o.tlv.wire).length := by
  rw [← wireOfOptions_eq_flatMap, wireOfOptions_length]
  induction os with
  | nil => rfl
  | cons o os ih => rw [List.map_cons, List.sum_cons, ih, lengthOfOptions, DhcpOption.length]

theorem take_flatMap_wire (os : List DhcpOption) (i : Nat) :
    (os.flatMap fun o => o.tlv.wire).take (((os.take i).map DhcpOption.length).sum) =
      (os.take i).flatMap fun o => o.tlv.wire := by
  have he : os.flatMap (fun o => o.tlv.wire) =
      (os.take i).flatMap (fun o => o.tlv.wire) ++ (os.drop i).flatMap fun o => o.tlv.wire := by
    rw [← List.flatMap_append, List.take_append_drop]
  rw [he, sum_length_eq]
  exact List.take_left

namespace Message

variable {data : Bytes} {m : Message} {k : Nat} {x : UInt16}

theorem Representable.withOptions_take (h : m.Representable) (i : Nat) :
    (m.withOptions (m.options.take i)).Representable := by
  obtain ⟨hm, hn⟩ := h
  rw [regular_iff] at hm
  rw [Representable, regular_iff, regularHeader_withOptions, nesting_eq, options_withOptions]
  rw [nesting_eq] at hn
  exact ⟨⟨hm.1, hm.2.take i⟩, Nat.le_trans (nestingOfOptions_take_le _ i) hn⟩

theorem wire_withOptions (m : Message) (os : List DhcpOption) :
    (m.withOptions os).wire = m.header ++ os.flatMap fun o => o.tlv.wire := by
  rw [wire_eq, header_withOptions, options_withOptions, wireOfOptions_eq_flatMap]

theorem headerLengthOf_take (h : m.RegularHeader) (hk : k < m.headerLength) (bs : Bytes) :
    k < headerLengthOf ((m.header ++ bs).take k) := by
  cases k with
  | zero => exact Nat.zero_lt_succ 3
  | succ k =>
    cases m with
    | client type transaction options =>
      rw [header, List.cons_append, List.take_succ_cons, headerLengthOf, if_neg (by simp [h.1])]
      exact hk
    | relay type hops link peer options =>
      have htype : MessageType.isRelay type = true := h
      rw [header, List.cons_append, List.take_succ_cons, headerLengthOf, if_pos htype]
      exact hk

theorem decode_short (h : data.length < headerLengthOf data) :
    decode data = .error .truncatedInput := by
  rw [decode_eq, decodeWith_short h]
  rfl

theorem decode_header (hm : m.RegularHeader) (bs : Bytes) :
    decode (m.header ++ bs) =
      ((DhcpOption.inMessage .outermost).sequence .buffer bs).result.map
        fun options => m.withOptions options := by
  rw [decode_eq, decodeWith_header hm]

theorem decode_take_boundary (h : decode data = .ok m) (n : Nat) :
    decode (data.take (m.headerLength + ((m.options.take n).map DhcpOption.length).sum)) =
      .ok (m.withOptions (m.options.take n)) := by
  obtain ⟨hm, rfl⟩ := decode_eq_ok_iff.mp h
  refine decode_eq_ok_iff.mpr ⟨hm.withOptions_take n, ?_⟩
  rw [wire_withOptions, wire_eq, wireOfOptions_eq_flatMap, ← header_length,
    List.take_length_add_append, take_flatMap_wire]

theorem decode_take_truncated (h : decode data = .ok m) (hk : k < data.length)
    (hcut : ∀ n, k ≠ m.headerLength + ((m.options.take n).map DhcpOption.length).sum) :
    decode (data.take k) = .error .truncatedInput := by
  obtain ⟨hm, rfl⟩ := decode_eq_ok_iff.mp h
  obtain ⟨hheader, ho⟩ := (regular_and_nesting_le_iff m 32).mp hm
  have hw : m.wire = m.header ++ m.options.flatMap fun o => o.tlv.wire := by
    rw [wire_eq, wireOfOptions_eq_flatMap]
  rw [hw] at hk ⊢
  rcases Nat.lt_or_ge k m.headerLength with hlt | hle
  · apply decode_short
    rw [List.length_take_of_le (Nat.le_of_lt hk)]
    exact headerLengthOf_take hheader hlt _
  · obtain ⟨j, rfl⟩ := Nat.exists_eq_add_of_le hle
    rw [List.length_append, header_length] at hk
    have hj : ∀ n, j ≠ ((m.options.take n).flatMap fun o => o.tlv.wire).length := by
      intro n he
      apply hcut n
      rw [he, sum_length_eq]
    rw [← header_length, List.take_length_add_append, decode_header hheader,
      (DhcpOption.inverts_inMessage .outermost).sequence_take_truncated ho (by omega) hj]
    rfl

theorem decode_take_malformed (h : decode (data.take k) = .error (.malformedLength x)) :
    decode data = .error (.malformedLength x) := by
  rcases Nat.lt_or_ge (data.take k).length (headerLengthOf (data.take k)) with hlt | hle
  · rw [decode_short hlt] at h
    cases h
  · obtain ⟨m, rest, hm, he⟩ := exists_header hle
    have hd : data = m.header ++ (rest ++ data.drop k) := by
      rw [← List.append_assoc, ← he, List.take_append_drop]
    rw [he, decode_header hm, map_eq_error_iff] at h
    rw [hd, decode_header hm, map_eq_error_iff]
    exact Registry.sequence_append_malformed h _

/-- A cut between two options keeps those before; any other lacks input. -/
theorem decode_prefix_law :
    (∀ (data : Bytes) (m : Message), decode data = .ok m → ∀ k < data.length,
      (∀ n, k = m.headerLength + ((m.options.take n).map DhcpOption.length).sum →
        decode (data.take k) = .ok (m.withOptions (m.options.take n))) ∧
      ((∀ n, k ≠ m.headerLength + ((m.options.take n).map DhcpOption.length).sum) →
        decode (data.take k) = .error .truncatedInput)) ∧
    ∀ (data : Bytes) (k : Nat) (x : UInt16),
      decode (data.take k) = .error (.malformedLength x) →
        decode data = .error (.malformedLength x) := by
  refine ⟨?_, fun _ _ _ => decode_take_malformed⟩
  intro data m h k hk
  constructor
  · rintro n rfl
    exact decode_take_boundary h n
  · intro hcut
    exact decode_take_truncated h hk hcut

/-- A relayed solicit cut at two places, and an elapsed time of one octet. -/
theorem decode_prefix_law_relayedSolicit :
    decode (relayedSolicitData.take 39) = .ok (relayedSolicit.withOptions [.unknown ⟨18, [101]⟩]) ∧
      decode (relayedSolicitData.take 70) = .error .truncatedInput ∧
      decode [1, 0, 0, 0, 0, 8, 0, 1, 0, 0, 6] = .error (.malformedLength 1) := by
  have h : decode relayedSolicitData = .ok relayedSolicit := by decide +kernel
  have hcut : ∀ n, 70 ≠ relayedSolicit.headerLength +
      ((relayedSolicit.options.take n).map DhcpOption.length).sum
    | 0 | 1 => by decide
    | n + 2 => by
      simp only [relayedSolicit, options, List.take_succ_cons, List.take_nil]
      decide
  have hwrong : decode (List.take 9 [1, 0, 0, 0, 0, 8, 0, 1, 0, 0, 6]) =
      .error (.malformedLength 1) := by decide +kernel
  obtain ⟨hboundary, -⟩ := decode_prefix_law.1 _ _ h 39 (by decide)
  obtain ⟨-, hinside⟩ := decode_prefix_law.1 _ _ h 70 (by decide)
  exact ⟨hboundary 1 (by decide), hinside hcut, decode_prefix_law.2 _ 9 1 hwrong⟩

end Message

end TlvCodec.Dhcp6
