import TlvCodec.Proofs.BgpLs.Wire
import TlvCodec.Proofs.Trap.Tlv

namespace TlvCodec.BgpLs
namespace Trapping
open TlvCodec.Trapping TlvCodec.Trapping.Decoder
set_option autoImplicit true

/-- Decodes a value that is one field of four octets. -/
def decodeField (form : α → Attribute) (field : Reader α) (length : UInt16) :
    Trapping.Decoder Event Attribute := do
  if length ≠ 4 then fail (.malformedLength length)
  else return form (← read field)

def decodeAdminGroup : UInt16 → Trapping.Decoder Event Attribute := decodeField .adminGroup .word32

def decodeMaxLinkBandwidth : UInt16 → Trapping.Decoder Event Attribute :=
  decodeField .maxLinkBandwidth Single.read

def decodeMaxResvLinkBandwidth : UInt16 → Trapping.Decoder Event Attribute :=
  decodeField .maxResvLinkBandwidth Single.read

def decodeTeDefaultMetric : UInt16 → Trapping.Decoder Event Attribute :=
  decodeField .teDefaultMetric .word32

def readBits : Trapping.Decoder Event Single := do
  return (← read Single.read).timesEight

def decodeUnreservedBandwidth (length : UInt16) : Trapping.Decoder Event Attribute := do
  if length ≠ 32 then fail (.malformedLength length)
  else
    let x₀ ← readBits
    let x₁ ← readBits
    let x₂ ← readBits
    let x₃ ← readBits
    let x₄ ← readBits
    let x₅ ← readBits
    let x₆ ← readBits
    let x₇ ← readBits
    return .unreservedBandwidth #[x₀, x₁, x₂, x₃, x₄, x₅, x₆, x₇].toVector

def registry : Trapping.Registry Event Attribute where
  decoders :=
    [(LinkAttrType.adminGroup.number, decodeAdminGroup),
      (LinkAttrType.maxLinkBandwidth.number, decodeMaxLinkBandwidth),
      (LinkAttrType.maxResvLinkBandwidth.number, decodeMaxResvLinkBandwidth),
      (LinkAttrType.unreservedBandwidth.number, decodeUnreservedBandwidth),
      (LinkAttrType.teDefaultMetric.number, decodeTeDefaultMetric)]
  unknown := .unknown
  notes := fun tlv => [.unknownAttribute tlv.code tlv.valueLength]

def decodeAttribute : Trapping.Decoder Event Attribute := registry.one .buffer

def decodeSet (length : UInt16) : Trapping.Decoder Event AttributeSet := do
  return ⟨← registry.bounded length⟩

theorem decodeField_eq (form : α → Attribute) (field : Reader α) (length : UInt16) :
    decodeField form field length =
      lift (if length ≠ 4 then Decoder.fail (.malformedLength length)
        else do return form (← Decoder.read field)) := by
  simp [decodeField]

theorem decodeAdminGroup_eq (length : UInt16) :
    decodeAdminGroup length = lift (Attribute.decodeAdminGroup length) :=
  decodeField_eq .adminGroup .word32 length

theorem decodeMaxLinkBandwidth_eq (length : UInt16) :
    decodeMaxLinkBandwidth length = lift (Attribute.decodeMaxLinkBandwidth length) :=
  decodeField_eq .maxLinkBandwidth Single.read length

theorem decodeMaxResvLinkBandwidth_eq (length : UInt16) :
    decodeMaxResvLinkBandwidth length = lift (Attribute.decodeMaxResvLinkBandwidth length) :=
  decodeField_eq .maxResvLinkBandwidth Single.read length

theorem decodeTeDefaultMetric_eq (length : UInt16) :
    decodeTeDefaultMetric length = lift (Attribute.decodeTeDefaultMetric length) :=
  decodeField_eq .teDefaultMetric .word32 length

theorem decodeUnreservedBandwidth_eq (length : UInt16) :
    decodeUnreservedBandwidth length = lift (Attribute.decodeUnreservedBandwidth length) := by
  have hbits : lift Attribute.readBits = readBits := by simp [readBits, Attribute.readBits]
  simp [decodeUnreservedBandwidth, Attribute.decodeUnreservedBandwidth, hbits]

theorem registry_eq : registry = .lift Attribute.registry := by
  simp [registry, Attribute.registry, Registry.lift, funext decodeAdminGroup_eq,
    funext decodeMaxLinkBandwidth_eq, funext decodeMaxResvLinkBandwidth_eq,
    funext decodeUnreservedBandwidth_eq, funext decodeTeDefaultMetric_eq]

theorem decodeAttribute_eq : decodeAttribute = lift Attribute.decode := by
  rw [decodeAttribute, registry_eq, Registry.one_lift]
  rfl

theorem decodeSet_eq (length : UInt16) : decodeSet length = lift (AttributeSet.decode length) := by
  simp [decodeSet, AttributeSet.decode, registry_eq, Registry.bounded_lift]

def writer? (a : Attribute) : Except EncodeError (Buffer → Trapping Buffer) :=
  match a with
  | .adminGroup groups => .ok (writeElement a.code fun b => return b.word32 groups)
  | .maxLinkBandwidth bandwidth => .ok (writeElement a.code fun b => return bandwidth.write b)
  | .maxResvLinkBandwidth bandwidth => .ok (writeElement a.code fun b => return bandwidth.write b)
  | .unreservedBandwidth _ => .error (.unsupported a.code)
  | .teDefaultMetric metric => .ok (writeElement a.code fun b => return b.word32 metric)
  | .unknown tlv => .ok (writeTlv tlv)

def write? (a : Attribute) (b : Buffer) : Trapping (Except EncodeError (Nat × Buffer)) :=
  match writer? a with
  | .error e => return .error e
  | .ok append => do
    let out ← append b
    return .ok (← sub out.size b.size, out)

def write (a : Attribute) (b : Buffer) : Trapping (Nat × Buffer × List Event) := do
  match ← write? a b with
  | .ok (n, out) => return (n, out, [])
  | .error e => return (0, b, [.attributeSkipped e])

def writeFrom (b : Buffer) (noted : List Event) :
    List Attribute → Trapping (Buffer × List Event)
  | [] => return (b, noted.reverse)
  | a :: as => do
    let (_, b, events) ← write a b
    writeFrom b (events.reverseAux noted) as

def writeSet (s : AttributeSet) : Trapping (Buffer × List Event) := writeFrom #[] [] s.attributes

theorem writer?_eq (a : Attribute) :
    writer? a = a.writer?.map fun append b => .ok (append b) := by
  cases a with
  | adminGroup groups =>
    exact congrArg Except.ok
      (funext (writeElement_eq (fun _ => rfl) (Buffer.toList_word32 groups) _))
  | maxLinkBandwidth bandwidth =>
    exact congrArg Except.ok
      (funext (writeElement_eq (fun _ => rfl) (Buffer.toList_word32 bandwidth.toWire) _))
  | maxResvLinkBandwidth bandwidth =>
    exact congrArg Except.ok
      (funext (writeElement_eq (fun _ => rfl) (Buffer.toList_word32 bandwidth.toWire) _))
  | unreservedBandwidth _ => rfl
  | teDefaultMetric metric =>
    exact congrArg Except.ok
      (funext (writeElement_eq (fun _ => rfl) (Buffer.toList_word32 metric) _))
  | unknown tlv => exact congrArg Except.ok (funext (writeTlv_eq tlv))

theorem sub_size_write (a : Attribute) (b : Buffer) :
    sub (a.write b).1.size b.size = .ok a.encodedLength := by
  rw [a.size_write, sub_of_le (Nat.le_add_right _ _), Nat.add_sub_cancel_left]

theorem write_eq (a : Attribute) (b : Buffer) : write a b = .ok (a.encodedLength, a.write b) := by
  have hgrown := sub_size_write a b
  unfold Attribute.write at hgrown ⊢
  unfold write write?
  rw [writer?_eq]
  cases h : a.writer? with
  | error e =>
    simp only [h, sub_of_le (Nat.le_refl _), Nat.sub_self, Except.ok.injEq] at hgrown
    rw [← hgrown]
    rfl
  | ok append =>
    simp only [h] at hgrown
    simp only [Except.map, Bind.bind, Except.bind, hgrown]
    rfl

theorem writeFrom_eq (b : Buffer) (noted : List Event) (as : List Attribute) :
    writeFrom b noted as = .ok (AttributeSet.writeFrom b noted as) := by
  induction as generalizing b noted with
  | nil => rfl
  | cons a as ih =>
    rw [writeFrom, write_eq]
    exact ih _ _

end Trapping
end TlvCodec.BgpLs
