import TlvCodec.BgpLs.Attribute
import TlvCodec.Tlv.Registry

namespace TlvCodec.BgpLs

namespace Attribute

def decodeAdminGroup (length : UInt16) : Decoder Event Attribute := do
  if length ≠ 4 then Decoder.fail (.malformedLength length)
  else return .adminGroup (← Decoder.read .word32)

def decodeMaxLinkBandwidth (length : UInt16) : Decoder Event Attribute := do
  if length ≠ 4 then Decoder.fail (.malformedLength length)
  else return .maxLinkBandwidth (← Decoder.read Single.read)

def decodeMaxResvLinkBandwidth (length : UInt16) : Decoder Event Attribute := do
  if length ≠ 4 then Decoder.fail (.malformedLength length)
  else return .maxResvLinkBandwidth (← Decoder.read Single.read)

/-- A bandwidth in bytes a second, taken in bits a second. -/
def readBits : Decoder Event Single := do
  return (← Decoder.read Single.read).timesEight

def decodeUnreservedBandwidth (length : UInt16) : Decoder Event Attribute := do
  if length ≠ 32 then Decoder.fail (.malformedLength length)
  else
    let x₀ ← readBits
    let x₁ ← readBits
    let x₂ ← readBits
    let x₃ ← readBits
    let x₄ ← readBits
    let x₅ ← readBits
    let x₆ ← readBits
    let x₇ ← readBits
    return .unreservedBandwidth #v[x₀, x₁, x₂, x₃, x₄, x₅, x₆, x₇]

def decodeTeDefaultMetric (length : UInt16) : Decoder Event Attribute := do
  if length ≠ 4 then Decoder.fail (.malformedLength length)
  else return .teDefaultMetric (← Decoder.read .word32)

def registry : Registry Event Attribute where
  decoders :=
    [(LinkAttrType.adminGroup.number, decodeAdminGroup),
      (LinkAttrType.maxLinkBandwidth.number, decodeMaxLinkBandwidth),
      (LinkAttrType.maxResvLinkBandwidth.number, decodeMaxResvLinkBandwidth),
      (LinkAttrType.unreservedBandwidth.number, decodeUnreservedBandwidth),
      (LinkAttrType.teDefaultMetric.number, decodeTeDefaultMetric)]
  unknown := .unknown
  notes := fun tlv => [.unknownAttribute tlv.code tlv.valueLength]

def decode : Decoder Event Attribute := registry.one .buffer

end Attribute

/-- Decodes the attributes that take up the next `length` octets. -/
def AttributeSet.decode (length : UInt16) : Decoder Event AttributeSet := do
  return ⟨← Attribute.registry.bounded length⟩

end TlvCodec.BgpLs
