import TlvCodec.Dhcp6.Json
import TlvCodec.Proofs.Ipv6
import TlvCodec.Proofs.Json.Rearranged

namespace TlvCodec
open Json
set_option autoImplicit true

theorem Tlv.ofJson?_of_rearranged {t : Tlv} (h : Rearranged t.toJson w) :
    Tlv.ofJson? w = some t := by
  obtain ⟨ws, hr, hws⟩ := h.record? ["tlv_type", "value"] rfl (by decide)
  obtain _ | ⟨hcode, _ | ⟨hvalue, _ | _⟩⟩ := hws
  simp [Tlv.ofJson?, hr, hcode.word16?, hvalue.octetsOrText?]

theorem Tlv.exact_toJson (t : Tlv) : t.toJson.Exact :=
  exact_object ["tlv_type", "value"] rfl (by decide)
    ⟨exact_word16 t.code, exact_octets t.value, trivial⟩

namespace Dhcp6

theorem addressOfJson?_of_rearranged {a : Ipv6} (h : Rearranged (.string a.text) w) :
    addressOfJson? w = some a := by
  rw [h.string, addressOfJson?, string?, Option.bind_eq_bind, Option.bind_some, Ipv6.text,
    String.toList_ofList, Ipv6.parse?_chars]

theorem Duid.ofJson?_of_rearranged {d : Duid} (h : Rearranged d.toJson w) :
    Duid.ofJson? w = some d := by
  cases d with
  | llt hardware time address =>
    obtain ⟨v, rfl, hv⟩ := h.tagged
    obtain ⟨ws, hr, hws⟩ := hv.namedFields? ["hw_type", "time", "ll_addr"] rfl (by decide)
    obtain _ | ⟨hhardware, _ | ⟨htime, _ | ⟨haddress, _ | _⟩⟩⟩ := hws
    simp [Duid.ofJson?, Json.tagged, tagged?, hr, hhardware.word16?, htime.word32?,
      haddress.octetsOrText?]
  | en enterprise identifier =>
    obtain ⟨v, rfl, hv⟩ := h.tagged
    obtain ⟨ws, hr, hws⟩ := hv.namedFields? ["enterprise_num", "identifier"] rfl (by decide)
    obtain _ | ⟨henterprise, _ | ⟨hidentifier, _ | _⟩⟩ := hws
    simp [Duid.ofJson?, Json.tagged, tagged?, hr, henterprise.word32?, hidentifier.octetsOrText?]
  | ll hardware address =>
    obtain ⟨v, rfl, hv⟩ := h.tagged
    obtain ⟨ws, hr, hws⟩ := hv.namedFields? ["hw_type", "ll_addr"] rfl (by decide)
    obtain _ | ⟨hhardware, _ | ⟨haddress, _ | _⟩⟩ := hws
    simp [Duid.ofJson?, Json.tagged, tagged?, hr, hhardware.word16?, haddress.octetsOrText?]
  | uuid octets =>
    obtain ⟨v, rfl, hv⟩ := h.tagged
    simp [Duid.ofJson?, Json.tagged, tagged?, uuidOfJson?, hv.octets?, octets.property]
  | unknown type data =>
    obtain ⟨v, rfl, hv⟩ := h.tagged
    obtain ⟨ws, hr, hws⟩ := hv.namedFields? ["duid_type", "data"] rfl (by decide)
    obtain _ | ⟨htype, _ | ⟨hdata, _ | _⟩⟩ := hws
    simp [Duid.ofJson?, Json.tagged, tagged?, hr, htype.word16?, hdata.octetsOrText?]

mutual

/-- A message is read back whatever the order of the fields. -/
theorem Message.ofJson?_of_rearranged : ∀ {m : Message} {w : Json},
    Rearranged m.toJson w → Message.ofJson? w = some m
  | .client type transaction options, w, h => by
    obtain ⟨v, rfl, hv⟩ := h.tagged
    obtain ⟨ws, hr, hws⟩ := hv.record? ["msg_type", "xid", "options"] rfl (by decide)
    obtain _ | ⟨htype, _ | ⟨htransaction, _ | ⟨hoptions, _ | _⟩⟩⟩ := hws
    have hread := optionsOfJson?_of_rearranged hoptions
    rw [Message.ofJson?]
    simp only [Json.tagged, tagged?]
    -- the reader keeps the equation for its fields, which its termination needs, so that the
    -- fields cannot be rewritten in place
    split
    · next heq =>
      cases hr.symm.trans heq
      simp [htype.octet?, htransaction.word32?, hread]
    · next hne => exact absurd hr (hne _ _ _)
  | .relay type hops link peer options, w, h => by
    obtain ⟨v, rfl, hv⟩ := h.tagged
    obtain ⟨ws, hr, hws⟩ := hv.record?
      ["msg_type", "hop_count", "link_addr", "peer_addr", "options"] rfl (by decide)
    obtain _ | ⟨htype, _ | ⟨hhops, _ | ⟨hlink, _ | ⟨hpeer, _ | ⟨hoptions, _ | _⟩⟩⟩⟩⟩ := hws
    have hlink := addressOfJson?_of_rearranged hlink
    have hpeer := addressOfJson?_of_rearranged hpeer
    have hread := optionsOfJson?_of_rearranged hoptions
    rw [Message.ofJson?]
    simp only [Json.tagged, tagged?]
    split
    · next heq =>
      cases hr.symm.trans heq
      simp [htype.octet?, hhops.octet?, hlink, hpeer, hread]
    · next hne => exact absurd hr (hne _ _ _ _ _)

theorem DhcpOption.ofJson?_of_rearranged : ∀ {o : DhcpOption} {w : Json},
    Rearranged o.toJson w → DhcpOption.ofJson? w = some o
  | .clientId duid, w, h => by
    obtain ⟨v, rfl, hv⟩ := h.tagged
    obtain ⟨u, hr, hduid⟩ := hv.single
    rw [DhcpOption.ofJson?]
    simp [Json.tagged, DhcpOption.tag, tagged?, hr, Duid.ofJson?_of_rearranged hduid]
  | .serverId duid, w, h => by
    obtain ⟨v, rfl, hv⟩ := h.tagged
    obtain ⟨u, hr, hduid⟩ := hv.single
    rw [DhcpOption.ofJson?]
    simp [Json.tagged, DhcpOption.tag, tagged?, hr, Duid.ofJson?_of_rearranged hduid]
  | .iaNa id t1 t2 options, w, h => by
    obtain ⟨v, rfl, hv⟩ := h.tagged
    obtain ⟨ws, hr, hws⟩ := hv.record? ["ia_id", "t1", "t2", "options"] rfl (by decide)
    obtain _ | ⟨hid, _ | ⟨ht1, _ | ⟨ht2, _ | ⟨hoptions, _ | _⟩⟩⟩⟩ := hws
    have hread := optionsOfJson?_of_rearranged hoptions
    rw [DhcpOption.ofJson?]
    simp only [Json.tagged, DhcpOption.tag, tagged?]
    split
    · next heq =>
      cases hr.symm.trans heq
      simp [hid.word32?, ht1.word32?, ht2.word32?, hread]
    · next hne => exact absurd hr (hne _ _ _ _)
  | .iaAddr address preferred valid options, w, h => by
    obtain ⟨v, rfl, hv⟩ := h.tagged
    obtain ⟨ws, hr, hws⟩ := hv.record?
      ["addr", "preferred_lifetime", "valid_lifetime", "options"] rfl (by decide)
    obtain _ | ⟨haddress, _ | ⟨hpreferred, _ | ⟨hvalid, _ | ⟨hoptions, _ | _⟩⟩⟩⟩ := hws
    have haddress := addressOfJson?_of_rearranged haddress
    have hread := optionsOfJson?_of_rearranged hoptions
    rw [DhcpOption.ofJson?]
    simp only [Json.tagged, DhcpOption.tag, tagged?]
    split
    · next heq =>
      cases hr.symm.trans heq
      simp [haddress, hpreferred.word32?, hvalid.word32?, hread]
    · next hne => exact absurd hr (hne _ _ _ _)
  | .optionRequest codes, w, h => by
    obtain ⟨v, rfl, hv⟩ := h.tagged
    obtain ⟨u, hr, hcodes⟩ := hv.single
    have hread := mapM_map_eq_some (l := codes) fun c _ => word16?_nat c
    rw [DhcpOption.ofJson?]
    simp [Json.tagged, DhcpOption.tag, tagged?, hr, hcodes.numbers, items?, hread]
  | .elapsedTime time, w, h => by
    obtain ⟨v, rfl, hv⟩ := h.tagged
    obtain ⟨u, hr, htime⟩ := hv.single
    rw [DhcpOption.ofJson?]
    simp [Json.tagged, DhcpOption.tag, tagged?, hr, htime.word16?]
  | .relayMsg message, w, h => by
    obtain ⟨v, rfl, hv⟩ := h.tagged
    obtain ⟨u, hr, hmessage⟩ := hv.single
    have hread := Message.ofJson?_of_rearranged hmessage
    rw [DhcpOption.ofJson?]
    simp only [Json.tagged, DhcpOption.tag, tagged?]
    split
    · next heq =>
      cases hr.symm.trans heq
      rw [hread, Option.map_some]
    · next hne => exact absurd hr (hne _)
  | .unknown tlv, w, h => by
    obtain ⟨v, rfl, hv⟩ := h.tagged
    rw [DhcpOption.ofJson?]
    simp [Json.tagged, DhcpOption.tag, tagged?, Tlv.ofJson?_of_rearranged hv]

theorem optionsOfItems?_of_rearranged : ∀ {os : List DhcpOption} {ws : List Json},
    RearrangedItems (optionsToJson os) ws → optionsOfItems? ws = some os
  | [], _, h => by
    cases h
    rw [optionsOfItems?]
  | o :: os, _, h => by
    obtain _ | ⟨ho, hos⟩ := h
    rw [optionsOfItems?, DhcpOption.ofJson?_of_rearranged ho, optionsOfItems?_of_rearranged hos]
    rfl

theorem optionsOfJson?_of_rearranged : ∀ {os : List DhcpOption} {w : Json},
    Rearranged (.array (optionsToJson os)) w → optionsOfJson? w = some os
  | os, _, h => by
    obtain ⟨ws, rfl, hws⟩ := h.items
    rw [optionsOfJson?]
    exact optionsOfItems?_of_rearranged hws

end

theorem Duid.exact_toJson (d : Duid) : d.toJson.Exact := by
  cases d with
  | llt hardware time address =>
    exact exact_tagged (exact_object ["hw_type", "time", "ll_addr"] rfl (by decide)
      ⟨exact_word16 hardware, exact_word32 time, exact_octets address, trivial⟩)
  | en enterprise identifier =>
    exact exact_tagged (exact_object ["enterprise_num", "identifier"] rfl (by decide)
      ⟨exact_word32 enterprise, exact_octets identifier, trivial⟩)
  | ll hardware address =>
    exact exact_tagged (exact_object ["hw_type", "ll_addr"] rfl (by decide)
      ⟨exact_word16 hardware, exact_octets address, trivial⟩)
  | uuid octets => exact exact_tagged (exact_octets octets.val)
  | unknown type data =>
    exact exact_tagged (exact_object ["duid_type", "data"] rfl (by decide)
      ⟨exact_word16 type, exact_octets data, trivial⟩)

mutual

theorem Message.exact_toJson : ∀ m : Message, m.toJson.Exact
  | .client type transaction options =>
    exact_tagged (exact_object ["msg_type", "xid", "options"] rfl (by decide)
      ⟨exact_octet type, exact_word32 transaction, exact_optionsToJson options, trivial⟩)
  | .relay type hops link peer options =>
    exact_tagged (exact_object ["msg_type", "hop_count", "link_addr", "peer_addr", "options"] rfl
      (by decide)
      ⟨exact_octet type, exact_octet hops, trivial, trivial, exact_optionsToJson options, trivial⟩)

theorem DhcpOption.exact_body : ∀ o : DhcpOption, o.body.Exact
  | .clientId duid => exact_object ["duid"] rfl (by decide) ⟨duid.exact_toJson, trivial⟩
  | .serverId duid => exact_object ["duid"] rfl (by decide) ⟨duid.exact_toJson, trivial⟩
  | .iaNa id t1 t2 options =>
    exact_object ["ia_id", "t1", "t2", "options"] rfl (by decide)
      ⟨exact_word32 id, exact_word32 t1, exact_word32 t2, exact_optionsToJson options, trivial⟩
  | .iaAddr address preferred valid options =>
    exact_object ["addr", "preferred_lifetime", "valid_lifetime", "options"] rfl (by decide)
      ⟨trivial, exact_word32 preferred, exact_word32 valid, exact_optionsToJson options, trivial⟩
  | .optionRequest codes =>
    exact_object ["codes"] rfl (by decide)
      ⟨exact_nats (fun c => Nat.lt_trans c.toNat_lt (by decide)) codes, trivial⟩
  | .elapsedTime time => exact_object ["time"] rfl (by decide) ⟨exact_word16 time, trivial⟩
  | .relayMsg message => exact_object ["msg"] rfl (by decide) ⟨message.exact_toJson, trivial⟩
  | .unknown tlv => tlv.exact_toJson

theorem exact_optionsToJson : ∀ os : List DhcpOption, ExactItems (optionsToJson os)
  | [] => trivial
  | o :: os => ⟨exact_tagged o.exact_body, exact_optionsToJson os⟩

end

end Dhcp6

end TlvCodec
