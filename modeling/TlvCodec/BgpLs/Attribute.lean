import TlvCodec.Log.Record
import TlvCodec.Tlv.Basic

namespace TlvCodec.BgpLs

inductive LinkAttrType where
  | adminGroup
  | maxLinkBandwidth
  | maxResvLinkBandwidth
  | unreservedBandwidth
  | teDefaultMetric
deriving DecidableEq, Repr

namespace LinkAttrType

def number : LinkAttrType → UInt16
  | adminGroup => 1088
  | maxLinkBandwidth => 1089
  | maxResvLinkBandwidth => 1090
  | unreservedBandwidth => 1091
  | teDefaultMetric => 1092

def name : LinkAttrType → String
  | adminGroup => "AdminGroup"
  | maxLinkBandwidth => "MaxLinkBandwidth"
  | maxResvLinkBandwidth => "MaxResvLinkBandwidth"
  | unreservedBandwidth => "UnreservedBandwidth"
  | teDefaultMetric => "TeDefaultMetric"

def all : List LinkAttrType :=
  [adminGroup, maxLinkBandwidth, maxResvLinkBandwidth, unreservedBandwidth, teDefaultMetric]

def ofNumber? (n : Int) : Option LinkAttrType := all.find? fun t => (t.number.toNat : Int) = n

end LinkAttrType

/-- A link-state attribute. Unreserved bandwidths are in bits a second, the others in bytes. -/
inductive Attribute where
  | adminGroup (groups : UInt32)
  | maxLinkBandwidth (bandwidth : Single)
  | maxResvLinkBandwidth (bandwidth : Single)
  | unreservedBandwidth (bandwidths : Vector Single 8)
  | teDefaultMetric (metric : UInt32)
  | unknown (tlv : Tlv)
deriving DecidableEq

inductive EncodeError where
  | unsupported (code : UInt16)
deriving DecidableEq, Repr

def EncodeError.message : EncodeError → String
  | unsupported code => "encoding not supported for attribute " ++ decimal code.toNat

namespace Attribute

def code : Attribute → UInt16
  | adminGroup _ => LinkAttrType.adminGroup.number
  | maxLinkBandwidth _ => LinkAttrType.maxLinkBandwidth.number
  | maxResvLinkBandwidth _ => LinkAttrType.maxResvLinkBandwidth.number
  | unreservedBandwidth _ => LinkAttrType.unreservedBandwidth.number
  | teDefaultMetric _ => LinkAttrType.teDefaultMetric.number
  | unknown tlv => tlv.code

def valueLength : Attribute → Nat
  | adminGroup _ => 4
  | maxLinkBandwidth _ => 4
  | maxResvLinkBandwidth _ => 4
  | unreservedBandwidth _ => 32
  | teDefaultMetric _ => 4
  | unknown tlv => tlv.valueLength

def length (a : Attribute) : Nat := headerSize + a.valueLength

def encodedLength : Attribute → Nat
  | unreservedBandwidth _ => 0
  | a => a.length

def bitsPerSecond? : Attribute → Option Single
  | maxLinkBandwidth bandwidth => some bandwidth.timesEight
  | maxResvLinkBandwidth bandwidth => some bandwidth.timesEight
  | _ => none

def unreserved? (a : Attribute) (priority : Nat) : Option Single :=
  match a with
  | unreservedBandwidth bandwidths => bandwidths[priority]?
  | _ => none

def priorities : Attribute → List (Nat × Single)
  | unreservedBandwidth bandwidths => bandwidths.toList.zipIdx.map fun (x, i) => (i, x)
  | _ => []

def numEq : Attribute → Attribute → Bool
  | maxLinkBandwidth x, maxLinkBandwidth y => x.numEq y
  | maxResvLinkBandwidth x, maxResvLinkBandwidth y => x.numEq y
  | unreservedBandwidth xs, unreservedBandwidth ys =>
    (xs.toList.zip ys.toList).all fun (x, y) => x.numEq y
  | a, b => a = b

end Attribute

/-- The number of octets that encoding a list of attributes writes. -/
def encodedLengthOf : List Attribute → Nat
  | [] => 0
  | a :: as => a.encodedLength + encodedLengthOf as

structure AttributeSet where
  attributes : List Attribute
deriving DecidableEq

namespace AttributeSet

def length (s : AttributeSet) : Nat := encodedLengthOf s.attributes

def numEq (s t : AttributeSet) : Bool :=
  s.attributes.length == t.attributes.length &&
    (s.attributes.zip t.attributes).all fun (a, b) => a.numEq b

end AttributeSet

namespace Attribute

def toJson : Attribute → Json
  | adminGroup groups => .tagged "AdminGroup" (.nat groups.toNat)
  | maxLinkBandwidth x => .tagged "MaxLinkBw" (.number (.single x))
  | maxResvLinkBandwidth x => .tagged "MaxResvLinkBw" (.number (.single x))
  | unreservedBandwidth xs =>
    .tagged "UnreservedBw" (.array (xs.toList.map fun x => .number (.single x)))
  | teDefaultMetric metric => .tagged "TeDefaultMetric" (.nat metric.toNat)
  | unknown tlv => .tagged "Unknown" tlv.toJson

def bandwidthsOfJson? (v : Json) : Option (Vector Single 8) := do
  let xs ← (← v.items?).mapM Json.single?
  if h : xs.length = 8 then some ⟨xs.toArray, by simpa using h⟩ else none

def ofJson? (v : Json) : Option Attribute := do
  match ← v.tagged? with
  | ("AdminGroup", w) => w.word32?.map adminGroup
  | ("MaxLinkBw", w) => w.single?.map maxLinkBandwidth
  | ("MaxResvLinkBw", w) => w.single?.map maxResvLinkBandwidth
  | ("UnreservedBw", w) => (bandwidthsOfJson? w).map unreservedBandwidth
  | ("TeDefaultMetric", w) => w.word32?.map teDefaultMetric
  | ("Unknown", w) => (Tlv.ofJson? w).map unknown
  | _ => none

end Attribute

namespace AttributeSet

def toJson (s : AttributeSet) : Json := .object [("attrs", .array (s.attributes.map (·.toJson)))]

def ofJson? (v : Json) : Option AttributeSet := do
  match ← v.record? ["attrs"] with
  | [attributes] => return ⟨← (← attributes.items?).mapM Attribute.ofJson?⟩
  | _ => none

end AttributeSet

inductive Event where
  | unknownAttribute (code : UInt16) (length : Nat)
  | attributeSkipped (error : EncodeError)
deriving DecidableEq, Repr

def Event.record : Event → Log.Record
  | unknownAttribute code length =>
    { level := .debug
      target := "nos_bgp_ls::debug"
      span := some "bgp-ls"
      message := "unknown attribute"
      fields := [("code", decimal code.toNat), ("length", decimal length)] }
  | attributeSkipped error =>
    { level := .warn
      target := "nos_bgp_ls::debug"
      span := some "bgp-ls"
      message := "skipping attribute"
      fields := [("error", error.message)] }

end TlvCodec.BgpLs
