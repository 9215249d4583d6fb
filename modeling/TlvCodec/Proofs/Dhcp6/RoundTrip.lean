import Mathlib.Control.Monad.Basic
import TlvCodec.Proofs.Dhcp6.Acceptance

namespace TlvCodec.Dhcp6.Message
set_option autoImplicit true

variable {data : Bytes} {m : Message}

theorem decode_eq (data : Bytes) :
    decode data = (decodeWith (DhcpOption.inMessage .outermost) .buffer data).result := by
  unfold decode read
  rcases decodeWith (DhcpOption.inMessage .outermost) .buffer data with ⟨e | m, rest, events⟩
  · rfl
  · rfl

theorem decode_eq_ok_iff : decode data = .ok m ↔ m.Representable ∧ data = m.wire := by
  rw [decode_eq]
  exact decodeWith_eq_ok_iff (DhcpOption.inverts_inMessage .outermost)

/-- What is decoded is sent again as it came, and came in no other form. -/
theorem decode_lossless (h : decode data = .ok m) :
    m.encode = data ∧ m.length = data.length ∧
      ∀ other, decode other = .ok m → other = data := by
  obtain ⟨-, rfl⟩ := decode_eq_ok_iff.mp h
  refine ⟨m.encode_eq_wire, m.wire_length.symm, ?_⟩
  intro other ho
  exact (decode_eq_ok_iff.mp ho).2

/-- A relayed solicit that asks for an address, with an option inside the address. -/
def relayedSolicit : Message :=
  .relay 12 1 ⟨⟨List.replicate 16 0, rfl⟩⟩ ⟨⟨[254, 128] ++ List.replicate 14 1, rfl⟩⟩
    [.unknown ⟨18, [101]⟩,
      .relayMsg (.client 1 0x123456
        [.clientId (.ll 1 [2, 3]),
          .iaNa 7 0 0 [.iaAddr ⟨⟨List.replicate 16 9, rfl⟩⟩ 10 20 [.unknown ⟨1, [0, 0]⟩]],
          .optionRequest [23, 24]])]

def relayedSolicitData : Bytes :=
  [12, 1] ++ List.replicate 16 0 ++ [254, 128] ++ List.replicate 14 1 ++
    [0, 18, 0, 1, 101, 0, 9, 0, 72, 1, 18, 52, 86, 0, 1, 0, 6, 0, 3, 0, 1, 2, 3, 0, 3, 0, 46,
      0, 0, 0, 7, 0, 0, 0, 0, 0, 0, 0, 0, 0, 5, 0, 30] ++ List.replicate 16 9 ++
    [0, 0, 0, 10, 0, 0, 0, 20, 0, 1, 0, 2, 0, 0, 0, 6, 0, 4, 0, 23, 0, 24]

theorem decode_lossless_relayedSolicit :
    decode relayedSolicitData = .ok relayedSolicit ∧
      relayedSolicit.encode = relayedSolicitData ∧
      relayedSolicit.length = relayedSolicitData.length ∧
      ∀ other, decode other = .ok relayedSolicit → other = relayedSolicitData := by
  have h : decode relayedSolicitData = .ok relayedSolicit := by decide +kernel
  exact ⟨h, decode_lossless h⟩

/-- The messages that come back from the wire are the representable ones. -/
theorem decode_encode_iff :
    (∀ m : Message, decode m.encode = .ok m ↔ m.Representable) ∧
      ∀ (data : Bytes) (m : Message), decode data = .ok m → m.Representable := by
  constructor
  · intro m
    rw [decode_eq_ok_iff, m.encode_eq_wire]
    exact and_iff_left rfl
  · intro data m h
    exact (decode_eq_ok_iff.mp h).1

/-- An unassigned type with an option of an unassigned code, relayed. -/
def relayedUnassigned : Message :=
  .relay 13 255 ⟨⟨List.replicate 16 7, rfl⟩⟩ ⟨⟨List.replicate 16 7, rfl⟩⟩
    [.relayMsg (.client 255 0 [.unknown ⟨4, [6]⟩])]

theorem decode_encode_iff_relayedUnassigned :
    decode relayedUnassigned.encode = .ok relayedUnassigned ∧
      relayedUnassigned.Representable := by
  have h : decode relayedUnassigned.encode = .ok relayedUnassigned := by decide +kernel
  exact ⟨h, decode_encode_iff.2 _ _ h⟩

end TlvCodec.Dhcp6.Message
