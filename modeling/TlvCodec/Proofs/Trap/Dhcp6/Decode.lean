import TlvCodec.Proofs.Dhcp6.Acceptance
import TlvCodec.Proofs.Trap.Tlv

namespace TlvCodec.Dhcp6
namespace Trapping
open TlvCodec.Trapping TlvCodec.Trapping.Decoder
set_option autoImplicit true

def decodeContents (length type : UInt16) : Trapping.Decoder ε Duid := do
  if type = DuidType.llt.number then
    if length < 8 then fail (.malformedLength length)
    else
      let hardware ← read .word16
      let time ← read .word32
      return .llt hardware time (← splitRemaining)
  else if type = DuidType.en.number then
    if length < 6 then fail (.malformedLength length)
    else
      let enterprise ← read .word32
      return .en enterprise (← splitRemaining)
  else if type = DuidType.ll.number then
    if length < 4 then fail (.malformedLength length)
    else
      let hardware ← read .word16
      return .ll hardware (← splitRemaining)
  else if type = DuidType.uuid.number then
    if length ≠ 18 then fail (.malformedLength length)
    else return .uuid (← read (.octets 16))
  else return .unknown type (← splitRemaining)

def decodeDuid (length : UInt16) : Trapping.Decoder ε Duid := do
  if length < 2 then fail (.malformedLength length)
  else
    let type ← read .word16
    decodeContents length type

theorem decodeContents_eq (length type : UInt16) :
    (decodeContents length type : Trapping.Decoder ε Duid) =
      lift (Duid.decodeContents length type) := by
  simp [decodeContents, Duid.decodeContents]

theorem decodeDuid_eq (length : UInt16) :
    (decodeDuid length : Trapping.Decoder ε Duid) = lift (Duid.decode length) := by
  simp [decodeDuid, Duid.decode, decodeContents_eq]

def decodeOfDuid (form : Duid → DhcpOption) (length : UInt16) :
    Trapping.Decoder Event DhcpOption := do
  return form (← decodeDuid length)

def decodeClientId : UInt16 → Trapping.Decoder Event DhcpOption := decodeOfDuid .clientId

def decodeServerId : UInt16 → Trapping.Decoder Event DhcpOption := decodeOfDuid .serverId

def inIaAddr : Trapping.Registry Event DhcpOption where
  decoders := []
  unknown := .unknown
  notes := noteUnknown

/-- Decodes an address by what decodes the options inside it. -/
def decodeIaAddrWith (options : Trapping.Decoder Event (List DhcpOption)) (length : UInt16) :
    Trapping.Decoder Event DhcpOption := do
  if length < 24 then fail (.malformedLength length)
  else
    let address ← read Ipv6.read
    let preferred ← read .word32
    let valid ← read .word32
    return .iaAddr address preferred valid (← options)

def decodeIaAddr : UInt16 → Trapping.Decoder Event DhcpOption :=
  decodeIaAddrWith (inIaAddr.sequence .parent)

def inIaNaWith (iaAddr : UInt16 → Trapping.Decoder Event DhcpOption) :
    Trapping.Registry Event DhcpOption where
  decoders := [(OptionCode.iaAddr.number, iaAddr)]
  unknown := .unknown
  notes := noteUnknown

def inIaNa : Trapping.Registry Event DhcpOption := inIaNaWith decodeIaAddr

def decodeIaNaWith (options : Trapping.Decoder Event (List DhcpOption)) (length : UInt16) :
    Trapping.Decoder Event DhcpOption := do
  if length < 12 then fail (.malformedLength length)
  else
    let id ← read .word32
    let t1 ← read .word32
    let t2 ← read .word32
    return .iaNa id t1 t2 (← options)

def decodeIaNa : UInt16 → Trapping.Decoder Event DhcpOption :=
  decodeIaNaWith (inIaNa.sequence .parent)

def decodeOptionRequest (length : UInt16) : Trapping.Decoder Event DhcpOption := do
  if length % 2 ≠ 0 then fail (.malformedLength length)
  else return .optionRequest (← lift (.words []))

def decodeElapsedTime (length : UInt16) : Trapping.Decoder Event DhcpOption := do
  if length ≠ 2 then fail (.malformedLength length)
  else return .elapsedTime (← read .word16)

/-- The octet already read is taken off the length of the header. -/
def decodeMessage (known : Trapping.Registry Event DhcpOption) (bound : Bound) :
    Trapping.Decoder Event Message := do
  if (← remaining) < 1 then fail (bound.overrun 4)
  else
    let type ← read .octet
    let header : UInt16 := if MessageType.isRelay type then 34 else 4
    let needed ← compute (sub16 header 1)
    if (← remaining) < needed.toNat then fail (bound.overrun header)
    else if header = 34 then
      let hops ← read .octet
      let link ← read Ipv6.read
      let peer ← read Ipv6.read
      return .relay type hops link peer (← known.sequence bound)
    else
      let transaction ← word24
      return .client type transaction (← known.sequence bound)

/-- Decodes a relayed message, if there is a depth for it. -/
def decodeRelayed (message? : Trapping (Option (Trapping.Decoder Event Message)))
    (length : UInt16) : Trapping.Decoder Event DhcpOption := do
  match ← compute message? with
  | none => fail (.malformedLength length)
  | some message => DhcpOption.relayMsg <$> message

/-- The depth of a relayed message; the sum may not fit its octet. -/
def enter (d : RelayDepth) : Trapping (Option RelayDepth) := do
  if RelayDepth.limit ≤ d.depth then return none else return some ⟨← add8 d.depth 1⟩

theorem enter_eq (d : RelayDepth) : enter d = .ok d.enter? := by
  unfold enter RelayDepth.enter?
  split
  · rfl
  · rename_i h
    have hlt : d.depth.toNat < 32 := UInt8.lt_iff_toNat_lt.mp (UInt8.not_le.mp h)
    have hadd : add8 d.depth 1 = .ok (d.depth + 1) :=
      if_pos (Nat.lt_trans (Nat.add_lt_add_right hlt 1) (by decide))
    rw [hadd]
    rfl

example : add8 255 1 = .error .pastWidth := rfl

def decodeRelayMsgWith (message : RelayDepth → Trapping.Decoder Event Message)
    (depth : RelayDepth) : UInt16 → Trapping.Decoder Event DhcpOption :=
  decodeRelayed ((enter depth).map (Option.map message))

/-- The options of a message, by the two that hold options in turn. -/
def inMessageWith (iaNa relayMsg : UInt16 → Trapping.Decoder Event DhcpOption) :
    Trapping.Registry Event DhcpOption where
  decoders :=
    [(OptionCode.clientId.number, decodeClientId),
      (OptionCode.serverId.number, decodeServerId),
      (OptionCode.iaNa.number, iaNa),
      (OptionCode.oro.number, decodeOptionRequest),
      (OptionCode.elapsedTime.number, decodeElapsedTime),
      (OptionCode.relayMsg.number, relayMsg)]
  unknown := .unknown
  notes := noteUnknown

def inMessage (depth : RelayDepth) : Trapping.Registry Event DhcpOption :=
  inMessageWith decodeIaNa (decodeRelayed (match _h : enter depth with
    | .error trap => .error trap
    | .ok none => .ok none
    | .ok (some inner) => .ok (some (decodeMessage (inMessage inner) .parent))))
termination_by depth.left
decreasing_by exact RelayDepth.left_lt_of_enter? (Except.ok.inj ((enter_eq depth).symm.trans _h))

def decodeRelayMsg : RelayDepth → UInt16 → Trapping.Decoder Event DhcpOption :=
  decodeRelayMsgWith fun inner => decodeMessage (inMessage inner) .parent

def registry (depth : RelayDepth) : Scope → Trapping.Registry Event DhcpOption
  | .message => inMessage depth
  | .iaNa => inIaNa
  | .iaAddr => inIaAddr

def decodeDataWith (message : Trapping.Decoder Event Message) (data : Bytes) :
    Trapping (Except DecodeError Message × List Event) := do
  match ← message data with
  | ⟨.ok m, _, events⟩ => return (.ok m, events)
  | ⟨.error e, _, events⟩ => return (.error e, events ++ [.messageFailed e])

def decodeData : Bytes → Trapping (Except DecodeError Message × List Event) :=
  decodeDataWith (decodeMessage (inMessage .outermost) .buffer)

theorem decodeOfDuid_eq (form : Duid → DhcpOption) (length : UInt16) :
    decodeOfDuid form length = lift (do return form (← Duid.decode length)) := by
  simp [decodeOfDuid, decodeDuid_eq]

theorem decodeClientId_eq (length : UInt16) :
    decodeClientId length = lift (DhcpOption.decodeClientId length) :=
  decodeOfDuid_eq .clientId length

theorem decodeServerId_eq (length : UInt16) :
    decodeServerId length = lift (DhcpOption.decodeServerId length) :=
  decodeOfDuid_eq .serverId length

theorem inIaAddr_eq : inIaAddr = .lift DhcpOption.inIaAddr := rfl

theorem decodeIaAddrWith_eq {options : Trapping.Decoder Event (List DhcpOption)}
    (h : options = lift (DhcpOption.inIaAddr.sequence .parent)) (length : UInt16) :
    decodeIaAddrWith options length = lift (DhcpOption.decodeIaAddr length) := by
  simp [decodeIaAddrWith, DhcpOption.decodeIaAddr, h]

theorem decodeIaAddr_eq (length : UInt16) :
    decodeIaAddr length = lift (DhcpOption.decodeIaAddr length) :=
  decodeIaAddrWith_eq (by rw [inIaAddr_eq, Registry.sequence_lift]) length

theorem inIaNaWith_eq {iaAddr : UInt16 → Trapping.Decoder Event DhcpOption}
    (h : ∀ length, iaAddr length = lift (DhcpOption.decodeIaAddr length)) :
    inIaNaWith iaAddr = .lift DhcpOption.inIaNa := by
  simp [inIaNaWith, DhcpOption.inIaNa, Registry.lift, funext h]

theorem inIaNa_eq : inIaNa = .lift DhcpOption.inIaNa := inIaNaWith_eq decodeIaAddr_eq

theorem decodeIaNaWith_eq {options : Trapping.Decoder Event (List DhcpOption)}
    (h : options = lift (DhcpOption.inIaNa.sequence .parent)) (length : UInt16) :
    decodeIaNaWith options length = lift (DhcpOption.decodeIaNa length) := by
  simp [decodeIaNaWith, DhcpOption.decodeIaNa, h]

theorem decodeIaNa_eq (length : UInt16) :
    decodeIaNa length = lift (DhcpOption.decodeIaNa length) :=
  decodeIaNaWith_eq (by rw [inIaNa_eq, Registry.sequence_lift]) length

theorem decodeOptionRequest_eq (length : UInt16) :
    decodeOptionRequest length = lift (DhcpOption.decodeOptionRequest length) := by
  simp [decodeOptionRequest, DhcpOption.decodeOptionRequest]

theorem decodeElapsedTime_eq (length : UInt16) :
    decodeElapsedTime length = lift (DhcpOption.decodeElapsedTime length) := by
  simp [decodeElapsedTime, DhcpOption.decodeElapsedTime]

theorem decodeMessage_lift (known : Registry Event DhcpOption) (bound : Bound) :
    decodeMessage (.lift known) bound = lift (Message.decodeWith known bound) := by
  unfold decodeMessage Message.decodeWith
  rw [remaining_guard, lift_bind]
  congr 1
  funext _
  rw [lift_bind]
  congr 1
  funext type
  cases MessageType.isRelay type with
  | true =>
    have hneeded : sub16 34 1 = .ok 33 := rfl
    simp [compute_bind hneeded, Registry.sequence_lift]
  | false =>
    have hneeded : sub16 4 1 = .ok 3 := rfl
    simp [compute_bind hneeded, Registry.sequence_lift]

section Relayed
variable {message : RelayDepth → Trapping.Decoder Event Message} {depth inner : RelayDepth}

theorem decodeRelayMsgWith_none (he : depth.enter? = none) (length : UInt16) :
    decodeRelayMsgWith message depth length = fail (.malformedLength length) := by
  rw [decodeRelayMsgWith, decodeRelayed, enter_eq, he]
  exact compute_bind rfl _

theorem decodeRelayMsgWith_some (he : depth.enter? = some inner) (length : UInt16) :
    decodeRelayMsgWith message depth length = DhcpOption.relayMsg <$> message inner := by
  rw [decodeRelayMsgWith, decodeRelayed, enter_eq, he]
  exact compute_bind rfl _

theorem decodeRelayMsgWith_eq
    (h : ∀ inner, depth.enter? = some inner →
      message inner = lift (Message.decodeWith (DhcpOption.inMessage inner) .parent))
    (length : UInt16) :
    decodeRelayMsgWith message depth length = lift (DhcpOption.decodeRelayMsg depth length) := by
  unfold DhcpOption.decodeRelayMsg DhcpOption.decodeRelayed
  cases he : depth.enter? with
  | none => exact decodeRelayMsgWith_none he length
  | some inner =>
    rw [decodeRelayMsgWith_some he, h inner he]
    exact (lift_map _ _).symm

end Relayed

theorem inMessageWith_eq {iaNa relayMsg : UInt16 → Trapping.Decoder Event DhcpOption}
    {depth : RelayDepth}
    (hiaNa : ∀ length, iaNa length = lift (DhcpOption.decodeIaNa length))
    (hrelayMsg : ∀ length, relayMsg length = lift (DhcpOption.decodeRelayMsg depth length)) :
    inMessageWith iaNa relayMsg = .lift (DhcpOption.inMessage depth) := by
  rw [DhcpOption.inMessage_eq]
  simp [inMessageWith, Registry.lift, funext decodeClientId_eq, funext decodeServerId_eq,
    funext hiaNa, funext decodeOptionRequest_eq, funext decodeElapsedTime_eq, funext hrelayMsg]

theorem inMessage_relayMsg (depth : RelayDepth) :
    inMessage depth = inMessageWith decodeIaNa (decodeRelayMsg depth) := by
  rw [inMessage]
  unfold decodeRelayMsg decodeRelayMsgWith
  rcases enter depth with trap | _ | inner <;> rfl

theorem decodeRelayMsg_eq {depth : RelayDepth}
    (ih : ∀ inner, depth.enter? = some inner →
      inMessage inner = .lift (DhcpOption.inMessage inner)) (length : UInt16) :
    decodeRelayMsg depth length = lift (DhcpOption.decodeRelayMsg depth length) := by
  apply decodeRelayMsgWith_eq
  intro inner he
  rw [ih inner he, decodeMessage_lift]

theorem inMessage_eq (depth : RelayDepth) :
    inMessage depth = .lift (DhcpOption.inMessage depth) := by
  -- on the levels that are left, as the messages relayed in this one are read one level down
  induction depth using DhcpOption.inMessage.induct with
  | case1 depth ih =>
    rw [inMessage_relayMsg]
    exact inMessageWith_eq decodeIaNa_eq (decodeRelayMsg_eq ih)

theorem registry_eq (depth : RelayDepth) : ∀ scope : Scope,
    registry depth scope = .lift (scope.registry depth)
  | .message => inMessage_eq depth
  | .iaNa => inIaNa_eq
  | .iaAddr => inIaAddr_eq

theorem decodeDataWith_eq {message : Trapping.Decoder Event Message}
    (h : message = lift (Message.decodeWith (DhcpOption.inMessage .outermost) .buffer))
    (data : Bytes) : decodeDataWith message data = .ok (Message.read data) := by
  unfold decodeDataWith Message.read
  rw [h]
  simp only [lift, Bind.bind, Except.bind]
  rcases Message.decodeWith (DhcpOption.inMessage .outermost) .buffer data with
    ⟨e | m, rest, events⟩
  · rfl
  · rfl

theorem decodeData_eq (data : Bytes) : decodeData data = .ok (Message.read data) :=
  decodeDataWith_eq (by rw [inMessage_eq, decodeMessage_lift]) data

end Trapping
end TlvCodec.Dhcp6
