import TlvCodec.Dhcp6.Encode
import TlvCodec.Proofs.Dhcp6.Duid
import TlvCodec.Proofs.Tlv.Wire

namespace TlvCodec.Dhcp6
open BigEndian
set_option autoImplicit true

def Message.header : Message → Bytes
  | .client type transaction _ => type :: octets24 transaction
  | .relay type hops link peer _ => type :: hops :: (link.octets.val ++ peer.octets.val)

/-- The part of a value before the options it holds. -/
def DhcpOption.fixed : DhcpOption → Bytes
  | .clientId duid => duid.wire
  | .serverId duid => duid.wire
  | .iaNa id t1 t2 _ => octets32 id ++ (octets32 t1 ++ octets32 t2)
  | .iaAddr address preferred valid _ =>
    address.octets.val ++ (octets32 preferred ++ octets32 valid)
  | .optionRequest codes => codes.flatMap octets16
  | .elapsedTime time => octets16 time
  | .relayMsg message => message.header
  | .unknown tlv => tlv.value

mutual

def Message.wire : Message → Bytes
  | m@(.client _ _ options) => m.header ++ wireOfOptions options
  | m@(.relay _ _ _ _ options) => m.header ++ wireOfOptions options

def DhcpOption.value : DhcpOption → Bytes
  | o@(.iaNa _ _ _ options) => o.fixed ++ wireOfOptions options
  | o@(.iaAddr _ _ _ options) => o.fixed ++ wireOfOptions options
  | .relayMsg message => message.wire
  | o => o.fixed

def wireOfOptions : List DhcpOption → Bytes
  | [] => []
  | o :: os => (Tlv.mk o.code o.value).wire ++ wireOfOptions os

end

/-- The option as an element whose form is not known. -/
def DhcpOption.tlv (o : DhcpOption) : Tlv := ⟨o.code, o.value⟩

def DhcpOption.wire (o : DhcpOption) : Bytes := o.tlv.wire

theorem toList_writeWords (ns : List UInt16) (b : Buffer) :
    (writeWords ns b).toList = b.toList ++ ns.flatMap octets16 := by
  induction ns generalizing b with
  | nil => simp [writeWords]
  | cons n ns ih => simp [writeWords, ih]

theorem Ipv6.toList_write (a : Ipv6) (b : Buffer) :
    (a.write b).toList = b.toList ++ a.octets.val :=
  Buffer.toList_bytes _ _

theorem toList_writeIaNa {options : List DhcpOption}
    (h : ∀ b, (writeOptions options b).toList = b.toList ++ wireOfOptions options)
    (id t1 t2 : UInt32) (b : Buffer) :
    (writeOptions options (((b.word32 id).word32 t1).word32 t2)).toList =
      b.toList ++ (DhcpOption.iaNa id t1 t2 options).value := by
  simp [h, DhcpOption.value, DhcpOption.fixed]

theorem toList_writeIaAddr {options : List DhcpOption}
    (h : ∀ b, (writeOptions options b).toList = b.toList ++ wireOfOptions options)
    (address : Ipv6) (preferred valid : UInt32) (b : Buffer) :
    (writeOptions options (((address.write b).word32 preferred).word32 valid)).toList =
      b.toList ++ (DhcpOption.iaAddr address preferred valid options).value := by
  simp [h, DhcpOption.value, DhcpOption.fixed, Ipv6.toList_write]

mutual

theorem Message.toList_write : ∀ (m : Message) (b : Buffer),
    (m.write b).toList = b.toList ++ m.wire
  | .client type transaction options, b => by
    simp [Message.write, toList_writeOptions options, Message.wire, Message.header]
  | .relay type hops link peer options, b => by
    simp [Message.write, toList_writeOptions options, Message.wire, Message.header,
      Ipv6.toList_write]

theorem DhcpOption.toList_write : ∀ (o : DhcpOption) (b : Buffer),
    (o.write b).toList = b.toList ++ o.wire
  | .clientId duid, b => by
    rw [DhcpOption.write, Buffer.toList_tlv duid.toList_write]
    rfl
  | .serverId duid, b => by
    rw [DhcpOption.write, Buffer.toList_tlv duid.toList_write]
    rfl
  | .iaNa id t1 t2 options, b => by
    have hbody := toList_writeIaNa (toList_writeOptions options) id t1 t2
    rw [DhcpOption.write, Buffer.toList_tlv hbody]
    rfl
  | .iaAddr address preferred valid options, b => by
    have hbody := toList_writeIaAddr (toList_writeOptions options) address preferred valid
    rw [DhcpOption.write, Buffer.toList_tlv hbody]
    rfl
  | .optionRequest codes, b => by
    rw [DhcpOption.write, Buffer.toList_tlv (toList_writeWords codes)]
    rfl
  | .elapsedTime time, b => by
    rw [DhcpOption.write, Buffer.toList_tlv (Buffer.toList_word16 time)]
    rfl
  | .relayMsg message, b => by
    rw [DhcpOption.write, Buffer.toList_tlv message.toList_write]
    rfl
  | .unknown tlv, b => by
    rw [DhcpOption.write, tlv.toList_write]
    rfl

theorem toList_writeOptions : ∀ (os : List DhcpOption) (b : Buffer),
    (writeOptions os b).toList = b.toList ++ wireOfOptions os
  | [], b => by simp [writeOptions, wireOfOptions]
  | o :: os, b => by
    rw [writeOptions, toList_writeOptions os, o.toList_write, List.append_assoc]
    rfl

end

theorem Message.wire_eq (m : Message) : m.wire = m.header ++ wireOfOptions m.options := by
  cases m <;> rfl

theorem wireOfOptions_eq_flatMap (os : List DhcpOption) :
    wireOfOptions os = os.flatMap fun o => o.tlv.wire := by
  induction os with
  | nil => rfl
  | cons o os ih => rw [wireOfOptions, ih, List.flatMap_cons, DhcpOption.tlv]

theorem Message.header_length (m : Message) : m.header.length = m.headerLength := by
  cases m with
  | client => rfl
  | relay type hops link peer options =>
    simp [header, headerLength, link.octets.property, peer.octets.property]

mutual

theorem Message.wire_length : ∀ m : Message, m.wire.length = m.length
  | .client type transaction options => by
    rw [Message.wire, List.length_append, wireOfOptions_length options, Message.header_length]
    rfl
  | .relay type hops link peer options => by
    rw [Message.wire, List.length_append, wireOfOptions_length options, Message.header_length]
    rfl

theorem DhcpOption.value_length : ∀ o : DhcpOption, o.value.length = o.valueLength
  | .clientId duid => duid.wire_length
  | .serverId duid => duid.wire_length
  | .iaNa id t1 t2 options => by
    rw [DhcpOption.value, List.length_append, wireOfOptions_length options]
    rfl
  | .iaAddr address preferred valid options => by
    have hfixed : (DhcpOption.iaAddr address preferred valid options).fixed.length = 24 := by
      simp [DhcpOption.fixed, address.octets.property]
    rw [DhcpOption.value, List.length_append, wireOfOptions_length options, hfixed]
    rfl
  | .optionRequest codes => flatMap_octets16_length codes
  | .elapsedTime time => rfl
  | .relayMsg message => message.wire_length
  | .unknown tlv => rfl

theorem wireOfOptions_length : ∀ os : List DhcpOption,
    (wireOfOptions os).length = lengthOfOptions os
  | [] => rfl
  | o :: os => by
    rw [wireOfOptions, List.length_append, Tlv.wire_length, o.value_length,
      wireOfOptions_length os, lengthOfOptions]

end

theorem DhcpOption.wire_eq (o : DhcpOption) : o.wire =
    octets16 o.code ++ octets16 (UInt16.ofNat (min o.valueLength 65535)) ++ o.value := by
  rw [wire, Tlv.wire, Tlv.lengthField, tlv, o.value_length, List.append_assoc]

theorem DhcpOption.value_eq (o : DhcpOption) :
    o.value = o.fixed ++ (o.options?.getD []).flatMap wire := by
  change o.value = o.fixed ++ (o.options?.getD []).flatMap fun o => o.tlv.wire
  rw [← wireOfOptions_eq_flatMap]
  cases o with
  | iaNa | iaAddr => rfl
  | relayMsg message => exact message.wire_eq
  | clientId | serverId | optionRequest | elapsedTime | unknown => exact (List.append_nil _).symm

theorem Message.encode_eq_wire (m : Message) : m.encode = m.wire := m.toList_write #[]

/-- Writing an option appends its code, its clamped length and its value, at every level. -/
theorem DhcpOption.write_shape :
    (∀ (o : DhcpOption) (b : Buffer), (o.write b).toList = b.toList ++
      (octets16 o.code ++ octets16 (UInt16.ofNat (min o.valueLength 65535)) ++ o.value)) ∧
    (∀ o : DhcpOption, o.value.length = o.valueLength) ∧
    (∀ o : DhcpOption, o.value = o.fixed ++ (o.options?.getD []).flatMap fun inner =>
      octets16 inner.code ++ octets16 (UInt16.ofNat (min inner.valueLength 65535)) ++
        inner.value) ∧
    ∀ m : Message, m.encode.length = m.length := by
  refine ⟨?_, value_length, ?_, ?_⟩
  · intro o b
    rw [o.toList_write, o.wire_eq]
  · intro o
    simp only [← wire_eq]
    exact o.value_eq
  · intro m
    rw [m.encode_eq_wire, m.wire_length]

end TlvCodec.Dhcp6
