import TlvCodec.Dhcp6.Code
import TlvCodec.Json.Shape
import TlvCodec.Tlv.Decoder

namespace TlvCodec.Dhcp6

/-- The identifier of a client or server. -/
inductive Duid where
  | llt (hardware : UInt16) (time : UInt32) (address : Bytes)
  | en (enterprise : UInt32) (identifier : Bytes)
  | ll (hardware : UInt16) (address : Bytes)
  | uuid (octets : Octets 16)
  | unknown (type : UInt16) (data : Bytes)
deriving DecidableEq

namespace Duid

def type : Duid → UInt16
  | llt .. => DuidType.llt.number
  | en .. => DuidType.en.number
  | ll .. => DuidType.ll.number
  | uuid _ => DuidType.uuid.number
  | unknown type _ => type

def length : Duid → Nat
  | llt _ _ address => 8 + address.length
  | en _ identifier => 6 + identifier.length
  | ll _ address => 4 + address.length
  | uuid _ => 18
  | unknown _ data => 2 + data.length

def writeContents : Duid → Buffer → Buffer
  | llt hardware time address, b => ((b.word16 hardware).word32 time).bytes address
  | en enterprise identifier, b => (b.word32 enterprise).bytes identifier
  | ll hardware address, b => (b.word16 hardware).bytes address
  | uuid octets, b => b.bytes octets.val
  | unknown _ data, b => b.bytes data

def write (d : Duid) (b : Buffer) : Buffer := d.writeContents (b.word16 d.type)

def encode (d : Duid) : Bytes := (d.write #[]).toList

/-- Only the declared length is checked; the reads go by the data. -/
def decodeContents (length type : UInt16) : Decoder ε Duid := do
  if type = DuidType.llt.number then
    if length < 8 then Decoder.fail (.malformedLength length)
    else
      let hardware ← Decoder.read .word16
      let time ← Decoder.read .word32
      return .llt hardware time (← Decoder.remainder)
  else if type = DuidType.en.number then
    if length < 6 then Decoder.fail (.malformedLength length)
    else
      let enterprise ← Decoder.read .word32
      return .en enterprise (← Decoder.remainder)
  else if type = DuidType.ll.number then
    if length < 4 then Decoder.fail (.malformedLength length)
    else
      let hardware ← Decoder.read .word16
      return .ll hardware (← Decoder.remainder)
  else if type = DuidType.uuid.number then
    if length ≠ 18 then Decoder.fail (.malformedLength length)
    else return .uuid (← Decoder.read (.octets 16))
  else return .unknown type (← Decoder.remainder)

def decode (length : UInt16) : Decoder ε Duid := do
  if length < 2 then Decoder.fail (.malformedLength length)
  else
    let type ← Decoder.read .word16
    decodeContents length type

def toJson : Duid → Json
  | llt hardware time address => .tagged "Llt" (.object
      [("hw_type", .nat hardware.toNat), ("time", .nat time.toNat), ("ll_addr", .octets address)])
  | en enterprise identifier => .tagged "En" (.object
      [("enterprise_num", .nat enterprise.toNat), ("identifier", .octets identifier)])
  | ll hardware address => .tagged "Ll" (.object
      [("hw_type", .nat hardware.toNat), ("ll_addr", .octets address)])
  | uuid octets => .tagged "Uuid" (.octets octets.val)
  | unknown type data => .tagged "Unknown" (.object
      [("duid_type", .nat type.toNat), ("data", .octets data)])

def uuidOfJson? (v : Json) : Option Duid := do
  let bs ← v.octets?
  if h : bs.length = 16 then some (.uuid ⟨bs, h⟩) else none

def ofJson? (v : Json) : Option Duid := do
  match ← v.tagged? with
  | ("Llt", w) =>
    match ← w.namedFields? ["hw_type", "time", "ll_addr"] with
    | [hardware, time, address] =>
      return .llt (← hardware.word16?) (← time.word32?) (← address.octetsOrText?)
    | _ => none
  | ("En", w) =>
    match ← w.namedFields? ["enterprise_num", "identifier"] with
    | [enterprise, identifier] => return .en (← enterprise.word32?) (← identifier.octetsOrText?)
    | _ => none
  | ("Ll", w) =>
    match ← w.namedFields? ["hw_type", "ll_addr"] with
    | [hardware, address] => return .ll (← hardware.word16?) (← address.octetsOrText?)
    | _ => none
  | ("Uuid", w) => uuidOfJson? w
  | ("Unknown", w) =>
    match ← w.namedFields? ["duid_type", "data"] with
    | [type, data] => return .unknown (← type.word16?) (← data.octetsOrText?)
    | _ => none
  | _ => none

end Duid

end TlvCodec.Dhcp6
