import TlvCodec.Proofs.Dhcp6.Regular
import TlvCodec.Proofs.Dhcp6.Wire
import TlvCodec.Proofs.Tlv.Sequence

namespace TlvCodec.Dhcp6.Message
open BigEndian Decoder
set_option autoImplicit true

theorem header_withOptions (m : Message) (os : List DhcpOption) :
    (m.withOptions os).header = m.header := by
  cases m <;> rfl

theorem regularHeader_withOptions (m : Message) (os : List DhcpOption) :
    (m.withOptions os).RegularHeader ↔ m.RegularHeader := by
  cases m <;> rfl

theorem options_withOptions (m : Message) (os : List DhcpOption) :
    (m.withOptions os).options = os := by
  cases m <;> rfl

theorem withOptions_options (m : Message) : m.withOptions m.options = m := by
  cases m <;> rfl

/-- The number of octets that a message takes at least, by its type. -/
def headerLengthOf : Bytes → Nat
  | [] => 4
  | type :: _ => if MessageType.isRelay type then 34 else 4

theorem decodeWith_header {m : Message} (hm : m.RegularHeader) (known : Registry Event DhcpOption)
    (bound : Bound) (bs : Bytes) :
    decodeWith known bound (m.header ++ bs) =
      ⟨(known.sequence bound bs).result.map fun options => m.withOptions options,
        (known.sequence bound bs).rest, (known.sequence bound bs).events⟩ := by
  cases m with
  | client type transaction options =>
    obtain ⟨htype, ht⟩ := hm
    have h₁ : Reader.octet ((client type transaction options).header ++ bs) =
        .ok (type, octets24 transaction ++ bs) := rfl
    have h₂ : Reader.word24 (octets24 transaction ++ bs) = .ok (transaction, bs) :=
      Reader.word24_eq_ok_iff.mpr ⟨ht, rfl⟩
    rw [decodeWith, bind_of_ok (need_of_le (Nat.le_add_left 1 _)), bind_of_ok (read_of_ok h₁),
      if_neg (by simp [htype]), bind_of_ok (need_of_le (Nat.le_add_left 3 _)),
      bind_of_ok (read_of_ok h₂), bind_pure_apply]
    rfl
  | relay type hops link peer options =>
    have htype : MessageType.isRelay type = true := hm
    have h₁ : Reader.octet ((relay type hops link peer options).header ++ bs) =
        .ok (type, hops :: (link.octets.val ++ peer.octets.val ++ bs)) := rfl
    have hlen : 33 ≤ (hops :: (link.octets.val ++ peer.octets.val ++ bs)).length := by
      simp [link.octets.property, peer.octets.property]
      omega
    have h₂ : Reader.octet (hops :: (link.octets.val ++ peer.octets.val ++ bs)) =
        .ok (hops, link.octets.val ++ peer.octets.val ++ bs) := rfl
    have h₃ : Ipv6.read (link.octets.val ++ peer.octets.val ++ bs) =
        .ok (link, peer.octets.val ++ bs) :=
      Ipv6.read_eq_ok_iff.mpr (List.append_assoc _ _ _)
    have h₄ : Ipv6.read (peer.octets.val ++ bs) = .ok (peer, bs) := Ipv6.read_eq_ok_iff.mpr rfl
    rw [decodeWith, bind_of_ok (need_of_le (Nat.le_add_left 1 _)), bind_of_ok (read_of_ok h₁),
      if_pos htype, bind_of_ok (need_of_le hlen), bind_of_ok (read_of_ok h₂),
      bind_of_ok (read_of_ok h₃), bind_of_ok (read_of_ok h₄), bind_pure_apply]
    rfl

theorem decodeWith_of_short {bs : Bytes} (h : bs.length < headerLengthOf bs)
    (known : Registry Event DhcpOption) (bound : Bound) :
    decodeWith known bound bs =
      ⟨.error (bound.overrun (UInt16.ofNat (headerLengthOf bs))), bs.tail, []⟩ := by
  match bs with
  | [] =>
    rw [decodeWith, bind_of_error (need_of_lt (Nat.zero_lt_one))]
    rfl
  | type :: tail =>
    have h₁ : Reader.octet (type :: tail) = .ok (type, tail) := rfl
    rw [decodeWith, bind_of_ok (need_of_le (Nat.le_add_left 1 _)), bind_of_ok (read_of_ok h₁)]
    cases htype : MessageType.isRelay type with
    | true =>
      simp only [headerLengthOf, htype, if_true, List.length_cons] at h ⊢
      rw [bind_of_error (need_of_lt (Nat.lt_of_succ_lt_succ h))]
      rfl
    | false =>
      simp only [headerLengthOf, htype, Bool.false_eq_true, if_false, List.length_cons] at h ⊢
      rw [bind_of_error (need_of_lt (Nat.lt_of_succ_lt_succ h))]
      rfl

theorem decodeWith_short {bs : Bytes} (h : bs.length < headerLengthOf bs)
    (known : Registry Event DhcpOption) (bound : Bound) :
    (decodeWith known bound bs).result =
      .error (bound.overrun (UInt16.ofNat (headerLengthOf bs))) :=
  congrArg Outcome.result (decodeWith_of_short h known bound)

theorem exists_header {bs : Bytes} (h : headerLengthOf bs ≤ bs.length) :
    ∃ (m : Message) (rest : Bytes), m.RegularHeader ∧ bs = m.header ++ rest := by
  match bs with
  | [] => exact absurd h (by decide)
  | type :: tail =>
    cases htype : MessageType.isRelay type with
    | true =>
      simp only [headerLengthOf, htype, if_true, List.length_cons] at h
      match tail with
      | hops :: tail =>
        have hlen : 32 ≤ tail.length := by
          simp only [List.length_cons] at h
          omega
        have hlink : (tail.take 16).length = 16 := List.length_take_of_le (by omega)
        have hpeer : ((tail.drop 16).take 16).length = 16 := by
          rw [List.length_take, List.length_drop]
          omega
        refine ⟨relay type hops ⟨⟨_, hlink⟩⟩ ⟨⟨_, hpeer⟩⟩ [], (tail.drop 16).drop 16, htype, ?_⟩
        simp only [header, List.cons_append, List.append_assoc, List.take_append_drop]
    | false =>
      simp only [headerLengthOf, htype, Bool.false_eq_true, if_false, List.length_cons] at h
      match tail with
      | a :: b :: c :: rest =>
        refine ⟨client type (word24 a b c) [], rest, ⟨htype, word24_lt a b c⟩, ?_⟩
        rw [header, octets24_word24]
        rfl

/-- A decoder accepts the messages whose options it knows, as they are sent. -/
theorem yields_decodeWith {known : Registry Event DhcpOption} {m : Message} {bs rest : Bytes}
    (hk : known.Inverts (DhcpOption.FitsIn .message n) DhcpOption.tlv) :
    (decodeWith known bound).Yields bs m rest ↔
      (m.Regular ∧ m.nesting ≤ n) ∧ bs = m.wire ∧ rest = [] := by
  rw [regular_and_nesting_le_iff]
  constructor
  · intro h
    rcases Nat.lt_or_ge bs.length (headerLengthOf bs) with hlt | hle
    · rw [Yields, decodeWith_short hlt] at h
      cases h.1
    · obtain ⟨m₀, tail, hm, rfl⟩ := exists_header hle
      rw [Yields, decodeWith_header hm] at h
      obtain ⟨os, hs, rfl⟩ := map_eq_ok_iff.mp h.1
      obtain ⟨ho, rfl, hr⟩ := hk.yields_sequence.mp ⟨hs, h.2⟩
      refine ⟨⟨(regularHeader_withOptions m₀ os).mpr hm, ?_⟩, ?_, hr⟩
      · rw [options_withOptions]
        exact ho
      · rw [wire_eq, header_withOptions, options_withOptions, wireOfOptions_eq_flatMap]
  · rintro ⟨⟨hm, ho⟩, rfl, rfl⟩
    obtain ⟨hs, hr⟩ : (known.sequence bound).Yields _ m.options [] :=
      hk.yields_sequence.mpr ⟨ho, rfl, rfl⟩
    rw [Yields, wire_eq, decodeWith_header hm, wireOfOptions_eq_flatMap, hs, hr]
    exact ⟨congrArg Except.ok m.withOptions_options, rfl⟩

theorem decodeWith_eq_ok_iff {known : Registry Event DhcpOption} {m : Message} {bs : Bytes}
    (hk : known.Inverts (DhcpOption.FitsIn .message n) DhcpOption.tlv) :
    (decodeWith known bound bs).result = .ok m ↔ (m.Regular ∧ m.nesting ≤ n) ∧ bs = m.wire := by
  constructor
  · intro h
    obtain ⟨hm, hb, -⟩ := (yields_decodeWith hk).mp ⟨h, rfl⟩
    exact ⟨hm, hb⟩
  · rintro ⟨hm, hb⟩
    exact ((yields_decodeWith hk).mpr ⟨hm, hb, rfl⟩).1

end TlvCodec.Dhcp6.Message
