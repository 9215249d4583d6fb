import TlvCodec.Dhcp6.Message

namespace TlvCodec.Dhcp6

def DhcpOption.tag : DhcpOption → String
  | .clientId _ => "ClientId"
  | .serverId _ => "ServerId"
  | .iaNa .. => "IaNa"
  | .iaAddr .. => "IaAddr"
  | .optionRequest _ => "OptionRequest"
  | .elapsedTime _ => "ElapsedTime"
  | .relayMsg _ => "RelayMsg"
  | .unknown _ => "Unknown"

mutual

def Message.toJson : Message → Json
  | .client type transaction options => .tagged "Client" (.object
      [("msg_type", .nat type.toNat), ("xid", .nat transaction.toNat),
        ("options", .array (optionsToJson options))])
  | .relay type hops link peer options => .tagged "Relay" (.object
      [("msg_type", .nat type.toNat), ("hop_count", .nat hops.toNat),
        ("link_addr", .string link.text), ("peer_addr", .string peer.text),
        ("options", .array (optionsToJson options))])

def DhcpOption.body : DhcpOption → Json
  | .clientId duid => .object [("duid", duid.toJson)]
  | .serverId duid => .object [("duid", duid.toJson)]
  | .iaNa id t1 t2 options => .object
      [("ia_id", .nat id.toNat), ("t1", .nat t1.toNat), ("t2", .nat t2.toNat),
        ("options", .array (optionsToJson options))]
  | .iaAddr address preferred valid options => .object
      [("addr", .string address.text), ("preferred_lifetime", .nat preferred.toNat),
        ("valid_lifetime", .nat valid.toNat), ("options", .array (optionsToJson options))]
  | .optionRequest codes => .object [("codes", .array (codes.map fun c => .nat c.toNat))]
  | .elapsedTime time => .object [("time", .nat time.toNat)]
  | .relayMsg message => .object [("msg", message.toJson)]
  | .unknown tlv => tlv.toJson

def optionsToJson : List DhcpOption → List Json
  | [] => []
  | o :: os => .tagged o.tag o.body :: optionsToJson os

end

def DhcpOption.toJson (o : DhcpOption) : Json := .tagged o.tag o.body

def addressOfJson? (v : Json) : Option Ipv6 := do Ipv6.parse? (← v.string?).toList

mutual

def Message.ofJson? (v : Json) : Option Message :=
  match _h : v.tagged? with
  | some ("Client", w) =>
    match _hw : w.record? ["msg_type", "xid", "options"] with
    | some [type, transaction, options] => do
      return .client (← type.octet?) (← transaction.word32?) (← optionsOfJson? options)
    | _ => none
  | some ("Relay", w) =>
    match _hw : w.record? ["msg_type", "hop_count", "link_addr", "peer_addr", "options"] with
    | some [type, hops, link, peer, options] => do
      return .relay (← type.octet?) (← hops.octet?) (← addressOfJson? link)
        (← addressOfJson? peer) (← optionsOfJson? options)
    | _ => none
  | _ => none
termination_by sizeOf v
decreasing_by
  all_goals
    have h₁ := Json.sizeOf_lt_of_tagged _h
    have h₂ := Json.sizeOf_lt_of_record _hw (w := options) (by simp)
    omega

def DhcpOption.ofJson? (v : Json) : Option DhcpOption :=
  match _h : v.tagged? with
  | some ("ClientId", w) =>
    match w.record? ["duid"] with
    | some [duid] => (Duid.ofJson? duid).map .clientId
    | _ => none
  | some ("ServerId", w) =>
    match w.record? ["duid"] with
    | some [duid] => (Duid.ofJson? duid).map .serverId
    | _ => none
  | some ("IaNa", w) =>
    match _hw : w.record? ["ia_id", "t1", "t2", "options"] with
    | some [id, t1, t2, options] => do
      return .iaNa (← id.word32?) (← t1.word32?) (← t2.word32?) (← optionsOfJson? options)
    | _ => none
  | some ("IaAddr", w) =>
    match _hw : w.record? ["addr", "preferred_lifetime", "valid_lifetime", "options"] with
    | some [address, preferred, valid, options] => do
      return .iaAddr (← addressOfJson? address) (← preferred.word32?) (← valid.word32?)
        (← optionsOfJson? options)
    | _ => none
  | some ("OptionRequest", w) =>
    match w.record? ["codes"] with
    | some [codes] => do return .optionRequest (← (← codes.items?).mapM Json.word16?)
    | _ => none
  | some ("ElapsedTime", w) =>
    match w.record? ["time"] with
    | some [time] => time.word16?.map .elapsedTime
    | _ => none
  | some ("RelayMsg", w) =>
    match _hw : w.record? ["msg"] with
    | some [options] => (Message.ofJson? options).map .relayMsg
    | _ => none
  | some ("Unknown", w) => (Tlv.ofJson? w).map .unknown
  | _ => none
termination_by sizeOf v
decreasing_by
  all_goals
    have h₁ := Json.sizeOf_lt_of_tagged _h
    have h₂ := Json.sizeOf_lt_of_record _hw (w := options) (by simp)
    omega

def optionsOfJson? (v : Json) : Option (List DhcpOption) :=
  match v with
  | .array items => optionsOfItems? items
  | _ => none
termination_by sizeOf v

def optionsOfItems? (items : List Json) : Option (List DhcpOption) :=
  match items with
  | [] => some []
  | v :: vs => do return (← DhcpOption.ofJson? v) :: (← optionsOfItems? vs)
termination_by sizeOf items

end

end TlvCodec.Dhcp6
