import TlvCodec.Dhcp6.Message
import TlvCodec.Log.Record
import TlvCodec.Tlv.Registry

namespace TlvCodec.Dhcp6

inductive Event where
  | unknownOption (code : UInt16) (length : Nat)
  | messageFailed (error : DecodeError)
deriving DecidableEq, Repr

def Event.record (e : Event) : Log.Record :=
  let (message, fields) := match e with
    | unknownOption code length =>
      ("unknown option", [("code", decimal code.toNat), ("length", decimal length)])
    | messageFailed error => ("failed to decode message", [("error", error.message)])
  { level := .debug, target := "nos_dhcp6::debug", span := some "dhcp6", message, fields }

/-- How many relayed messages enclose the one at hand. -/
structure RelayDepth where
  depth : UInt8
deriving DecidableEq, Repr

namespace RelayDepth

def outermost : RelayDepth := ⟨0⟩

def limit : UInt8 := 32

/-- The depth of a message relayed in this one, unless too deep. -/
def enter? (d : RelayDepth) : Option RelayDepth :=
  if limit ≤ d.depth then none else some ⟨d.depth + 1⟩

def left (d : RelayDepth) : Nat := limit.toNat - d.depth.toNat

theorem toNat_of_enter? {d inner : RelayDepth} (h : d.enter? = some inner) :
    inner.depth.toNat = d.depth.toNat + 1 ∧ inner.depth.toNat ≤ 32 := by
  unfold enter? at h
  split at h
  · cases h
  · rename_i hd
    cases h
    have hlt : d.depth.toNat < 32 := UInt8.lt_iff_toNat_lt.mp (UInt8.not_le.mp hd)
    have hadd : (d.depth + 1).toNat = d.depth.toNat + 1 := by
      rw [UInt8.toNat_add]
      exact Nat.mod_eq_of_lt (by change d.depth.toNat + 1 < 256; omega)
    exact ⟨hadd, hadd ▸ hlt⟩

theorem left_of_enter?_some {d e : RelayDepth} (h : d.enter? = some e) : d.left = e.left + 1 := by
  obtain ⟨hadd, hle⟩ := toNat_of_enter? h
  change 32 - d.depth.toNat = 32 - e.depth.toNat + 1
  omega

theorem left_lt_of_enter? {d e : RelayDepth} (h : d.enter? = some e) : e.left < d.left := by
  rw [left_of_enter?_some h]
  exact Nat.lt_succ_self _

end RelayDepth

def noteUnknown (tlv : Tlv) : List Event := [.unknownOption tlv.code tlv.valueLength]

namespace DhcpOption

def decodeClientId (length : UInt16) : Decoder Event DhcpOption := do
  return .clientId (← Duid.decode length)

def decodeServerId (length : UInt16) : Decoder Event DhcpOption := do
  return .serverId (← Duid.decode length)

def inIaAddr : Registry Event DhcpOption where
  decoders := []
  unknown := .unknown
  notes := noteUnknown

def decodeIaAddr (length : UInt16) : Decoder Event DhcpOption := do
  if length < 24 then Decoder.fail (.malformedLength length)
  else
    let address ← Decoder.read Ipv6.read
    let preferred ← Decoder.read .word32
    let valid ← Decoder.read .word32
    return .iaAddr address preferred valid (← inIaAddr.sequence .parent)

def inIaNa : Registry Event DhcpOption where
  decoders := [(OptionCode.iaAddr.number, decodeIaAddr)]
  unknown := .unknown
  notes := noteUnknown

def decodeIaNa (length : UInt16) : Decoder Event DhcpOption := do
  if length < 12 then Decoder.fail (.malformedLength length)
  else
    let id ← Decoder.read .word32
    let t1 ← Decoder.read .word32
    let t2 ← Decoder.read .word32
    return .iaNa id t1 t2 (← inIaNa.sequence .parent)

def decodeOptionRequest (length : UInt16) : Decoder Event DhcpOption := do
  if length % 2 ≠ 0 then Decoder.fail (.malformedLength length)
  else return .optionRequest (← Decoder.words [])

def decodeElapsedTime (length : UInt16) : Decoder Event DhcpOption := do
  if length ≠ 2 then Decoder.fail (.malformedLength length)
  else return .elapsedTime (← Decoder.read .word16)

end DhcpOption

/-- Decodes a message that takes up all the data. -/
def Message.decodeWith (known : Registry Event DhcpOption) (bound : Bound) :
    Decoder Event Message := do
  Decoder.need 1 (bound.overrun 4)
  let type ← Decoder.read .octet
  if MessageType.isRelay type then
    Decoder.need 33 (bound.overrun 34)
    let hops ← Decoder.read .octet
    let link ← Decoder.read Ipv6.read
    let peer ← Decoder.read Ipv6.read
    return .relay type hops link peer (← known.sequence bound)
  else
    Decoder.need 3 (bound.overrun 4)
    let transaction ← Decoder.read .word24
    return .client type transaction (← known.sequence bound)

namespace DhcpOption

/-- Decodes a relayed message, unless it stands too deep for any options to be known. -/
def decodeRelayed (known? : Option (Registry Event DhcpOption)) (length : UInt16) :
    Decoder Event DhcpOption :=
  match known? with
  | none => Decoder.fail (.malformedLength length)
  | some known => relayMsg <$> Message.decodeWith known .parent

def inMessage (depth : RelayDepth) : Registry Event DhcpOption :=
  { decoders :=
      [(OptionCode.clientId.number, decodeClientId),
        (OptionCode.serverId.number, decodeServerId),
        (OptionCode.iaNa.number, decodeIaNa),
        (OptionCode.oro.number, decodeOptionRequest),
        (OptionCode.elapsedTime.number, decodeElapsedTime),
        (OptionCode.relayMsg.number, fun length =>
          decodeRelayed (match _h : depth.enter? with
            | none => none
            | some inner => some (inMessage inner)) length)]
    unknown := .unknown
    notes := noteUnknown }
termination_by depth.left
decreasing_by exact RelayDepth.left_lt_of_enter? _h

def decodeRelayMsg (depth : RelayDepth) : UInt16 → Decoder Event DhcpOption :=
  decodeRelayed (depth.enter?.map inMessage)

end DhcpOption

namespace Message

/-- Decodes a message that is all of the data, and notes a failure once. -/
def read (data : Bytes) : Except DecodeError Message × List Event :=
  match decodeWith (DhcpOption.inMessage .outermost) .buffer data with
  | ⟨.ok m, _, events⟩ => (.ok m, events)
  | ⟨.error e, _, events⟩ => (.error e, events ++ [.messageFailed e])

def decode (data : Bytes) : Except DecodeError Message := (read data).1

def events (data : Bytes) : List Event := (read data).2

end Message

end TlvCodec.Dhcp6
