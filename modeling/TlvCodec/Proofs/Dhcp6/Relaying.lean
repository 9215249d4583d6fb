import TlvCodec.Proofs.Dhcp6.Guard
import TlvCodec.Proofs.Dhcp6.Nesting

namespace TlvCodec.Dhcp6.Message
open BigEndian
set_option autoImplicit true

variable {data header : Bytes} {m : Message} {type : UInt8}

/-- What a relay agent sends of data, with its own header in front. -/
def encapsulate (header data : Bytes) : Bytes :=
  header ++ (octets16 OptionCode.relayMsg.number ++
    (octets16 (UInt16.ofNat data.length) ++ data))

theorem encapsulate_eq (header : Bytes) (h : data.length ≤ 65535) :
    encapsulate header data =
      header ++ ((Tlv.mk OptionCode.relayMsg.number data).wire ++ []) := by
  rw [encapsulate, Tlv.wire, Tlv.lengthField, Nat.min_eq_left h, List.append_nil]

theorem decode_encapsulate (htype : MessageType.isRelay type = true)
    (h : data.length ≤ 65535) (hops : UInt8) (link peer : Ipv6) :
    decode (encapsulate (relay type hops link peer []).header data) =
      (decodeWith (DhcpOption.inMessage ⟨1⟩) .parent data).result.map
        fun m => relay type hops link peer [.relayMsg m] := by
  have hfits : (Tlv.mk OptionCode.relayMsg.number data).Fits := h
  have henter : RelayDepth.outermost.enter? = some ⟨1⟩ := by decide
  have helement : ((DhcpOption.inMessage .outermost).element
      (Tlv.mk OptionCode.relayMsg.number data).frame).1 =
        (decodeWith (DhcpOption.inMessage ⟨1⟩) .parent data).result.map .relayMsg :=
    DhcpOption.element_relayMsg_of_some henter
  have hheader : (relay type hops link peer []).RegularHeader := htype
  rw [encapsulate_eq _ h, decode_header hheader, Registry.sequence_wire_result hfits, helement,
    Registry.sequence_nil]
  cases (decodeWith (DhcpOption.inMessage ⟨1⟩) .parent data).result <;> rfl

theorem decodeWith_inner_eq_ok_iff :
    (decodeWith (DhcpOption.inMessage ⟨1⟩) .parent data).result = .ok m ↔
      decode data = .ok m ∧ m.nesting ≤ 31 := by
  rw [decodeWith_eq_ok_iff (DhcpOption.inverts_inMessage ⟨1⟩), decode_eq_ok_iff]
  constructor
  · rintro ⟨⟨hm, hn⟩, hd⟩
    exact ⟨⟨⟨hm, Nat.le_succ_of_le hn⟩, hd⟩, hn⟩
  · rintro ⟨⟨⟨hm, -⟩, hd⟩, hn⟩
    exact ⟨⟨hm, hn⟩, hd⟩

/-- Whatever stands inside an element can only be wrong, not missing. -/
theorem decode_encapsulate_ne_truncated (htype : MessageType.isRelay type = true)
    (h : data.length ≤ 65535) (hops : UInt8) (link peer : Ipv6) :
    decode (encapsulate (relay type hops link peer []).header data) ≠ .error .truncatedInput := by
  rw [decode_encapsulate htype h hops link peer, Ne, map_eq_error_iff]
  exact hasEnough_decodeWith (DhcpOption.guarded_inMessage ⟨1⟩) data

theorem exists_fields (h : header.length = 34) :
    ∃ type hops link peer, header = (relay type hops link peer []).header := by
  match header, h with
  | type :: hops :: addresses, h =>
    have hlen : addresses.length = 32 := Nat.succ.inj (Nat.succ.inj h)
    have hlink : (addresses.take 16).length = 16 := List.length_take_of_le (by omega)
    have hpeer : (addresses.drop 16).length = 16 := by
      rw [List.length_drop]
      omega
    refine ⟨type, hops, ⟨⟨_, hlink⟩⟩, ⟨⟨_, hpeer⟩⟩, ?_⟩
    rw [Message.header, List.take_append_drop]

/-- A relay agent changes nothing in what it relays, where one more level fits. -/
theorem decode_encapsulate_iff (header data : Bytes) (hlen : header.length = 34)
    (htype : header.head? = some 12 ∨ header.head? = some 13) (hdata : data.length ≤ 65535) :
    ∃ type hops link peer,
      header = type :: hops :: (link.octets.val ++ peer.octets.val) ∧
        (∀ w, decode (encapsulate header data) = .ok w ↔
          ∃ m, decode data = .ok m ∧ m.nesting ≤ 31 ∧ w = relay type hops link peer [.relayMsg m]) ∧
        ((∃ m, decode data = .ok m ∧ m.nesting ≤ 31) ∨
          ∃ n, decode (encapsulate header data) = .error (.malformedLength n)) := by
  obtain ⟨type, hops, link, peer, rfl⟩ := exists_fields hlen
  have htype : MessageType.isRelay type = true := by
    rcases htype with h | h
    · cases h
      rfl
    · cases h
      rfl
  refine ⟨type, hops, link, peer, rfl, ?_, ?_⟩
  · intro w
    rw [decode_encapsulate htype hdata hops link peer, map_eq_ok_iff]
    constructor
    · rintro ⟨m, hm, rfl⟩
      obtain ⟨hd, hn⟩ := decodeWith_inner_eq_ok_iff.mp hm
      exact ⟨m, hd, hn, rfl⟩
    · rintro ⟨m, hd, hn, rfl⟩
      exact ⟨m, decodeWith_inner_eq_ok_iff.mpr ⟨hd, hn⟩, rfl⟩
  · have hne := decode_encapsulate_ne_truncated htype hdata hops link peer
    have heq := decode_encapsulate htype hdata hops link peer
    cases hm : (decodeWith (DhcpOption.inMessage ⟨1⟩) .parent data).result with
    | ok m => exact .inl ⟨m, decodeWith_inner_eq_ok_iff.mp hm⟩
    | error e =>
      rw [hm] at heq
      cases e with
      | truncatedInput => exact absurd heq hne
      | malformedLength n => exact .inr ⟨n, heq⟩

def relayHeader : Bytes := [12, 3] ++ List.replicate 16 9 ++ List.replicate 16 8

/-- A relayed solicit relayed again, the same cut short, and one without a level left. -/
theorem decode_encapsulate_iff_relayedSolicit :
    (∃ type hops link peer, relayHeader = type :: hops :: (link.octets.val ++ peer.octets.val) ∧
      decode (encapsulate relayHeader relayedSolicitData) =
        .ok (relay type hops link peer [.relayMsg relayedSolicit])) ∧
      (∃ n, decode (encapsulate relayHeader relayedSolicitData.dropLast) =
        .error (.malformedLength n)) ∧
      ∃ n, decode (encapsulate relayHeader (relayed (client 1 1 []) 32).encode) =
        .error (.malformedLength n) := by
  have hwhole : decode relayedSolicitData = .ok relayedSolicit := by decide +kernel
  have hcut : decode relayedSolicitData.dropLast = .error .truncatedInput := by decide +kernel
  have hlast : decode (relayed (client 1 1 []) 32).encode = .ok (relayed (client 1 1 []) 32) :=
    decode_eq_ok_iff.mpr ⟨by decide +kernel, encode_eq_wire _⟩
  have hlength : (relayed (client 1 1 []) 32).encode.length ≤ 65535 := by
    rw [encode_eq_wire, wire_length]
    decide +kernel
  refine ⟨?_, ?_, ?_⟩
  · obtain ⟨type, hops, link, peer, hh, hok, -⟩ :=
      decode_encapsulate_iff relayHeader relayedSolicitData rfl (.inl rfl) (by decide)
    exact ⟨type, hops, link, peer, hh, (hok _).mpr ⟨_, hwhole, by decide, rfl⟩⟩
  · obtain ⟨_, _, _, _, -, -, ⟨m, hm, -⟩ | herror⟩ :=
      decode_encapsulate_iff relayHeader relayedSolicitData.dropLast rfl (.inl rfl) (by decide)
    · rw [hcut] at hm
      cases hm
    · exact herror
  · obtain ⟨_, _, _, _, -, -, ⟨m, hm, hn⟩ | herror⟩ :=
      decode_encapsulate_iff relayHeader (relayed (client 1 1 []) 32).encode rfl (.inl rfl) hlength
    · rw [hlast] at hm
      cases hm
      exact absurd hn (by decide +kernel)
    · exact herror

end TlvCodec.Dhcp6.Message
