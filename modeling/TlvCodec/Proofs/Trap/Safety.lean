import TlvCodec.Proofs.Trap.BgpLs
import TlvCodec.Proofs.Trap.Dhcp6.Decode
import TlvCodec.Proofs.Trap.Dhcp6.Encode

namespace TlvCodec.Trapping
open TlvCodec.Trapping.Decoder

/-- No operation of the codec is used outside its domain, whatever is decoded or encoded. -/
theorem never_traps :
    (∀ data, Dhcp6.Trapping.decodeData data = .ok (Dhcp6.Message.read data)) ∧
    (∀ length, (BgpLs.Trapping.decodeSet length).RunsAs (BgpLs.AttributeSet.decode length)) ∧
    BgpLs.Trapping.decodeAttribute.RunsAs BgpLs.Attribute.decode ∧
    (∀ bs, (decodeTlv : Decoder Unit Tlv) bs =
      .ok ⟨(Tlv.decode bs).1, (Tlv.decode bs).2, []⟩) ∧
    (∀ (scope : Dhcp6.Scope) (depth : Dhcp6.RelayDepth),
      (Dhcp6.Trapping.registry depth scope).RunsAs (scope.registry depth)) ∧
    BgpLs.Trapping.registry.RunsAs BgpLs.Attribute.registry ∧
    (∀ length,
      (Dhcp6.Trapping.decodeDuid length : Decoder Dhcp6.Event _).RunsAs (Dhcp6.Duid.decode length) ∧
      (Dhcp6.Trapping.decodeClientId length).RunsAs (Dhcp6.DhcpOption.decodeClientId length) ∧
      (Dhcp6.Trapping.decodeServerId length).RunsAs (Dhcp6.DhcpOption.decodeServerId length) ∧
      (Dhcp6.Trapping.decodeIaNa length).RunsAs (Dhcp6.DhcpOption.decodeIaNa length) ∧
      (Dhcp6.Trapping.decodeIaAddr length).RunsAs (Dhcp6.DhcpOption.decodeIaAddr length) ∧
      (Dhcp6.Trapping.decodeOptionRequest length).RunsAs
        (Dhcp6.DhcpOption.decodeOptionRequest length) ∧
      (Dhcp6.Trapping.decodeElapsedTime length).RunsAs
        (Dhcp6.DhcpOption.decodeElapsedTime length) ∧
      ∀ depth, (Dhcp6.Trapping.decodeRelayMsg depth length).RunsAs
        (Dhcp6.DhcpOption.decodeRelayMsg depth length)) ∧
    (∀ length,
      (BgpLs.Trapping.decodeAdminGroup length).RunsAs (BgpLs.Attribute.decodeAdminGroup length) ∧
      (BgpLs.Trapping.decodeMaxLinkBandwidth length).RunsAs
        (BgpLs.Attribute.decodeMaxLinkBandwidth length) ∧
      (BgpLs.Trapping.decodeMaxResvLinkBandwidth length).RunsAs
        (BgpLs.Attribute.decodeMaxResvLinkBandwidth length) ∧
      (BgpLs.Trapping.decodeUnreservedBandwidth length).RunsAs
        (BgpLs.Attribute.decodeUnreservedBandwidth length) ∧
      (BgpLs.Trapping.decodeTeDefaultMetric length).RunsAs
        (BgpLs.Attribute.decodeTeDefaultMetric length)) ∧
    (∀ m b, Dhcp6.Trapping.writeMessage m b = .ok (m.write b)) ∧
    (∀ o b, Dhcp6.Trapping.writeOption o b = .ok (o.write b)) ∧
    (∀ a b, BgpLs.Trapping.write a b = .ok (a.encodedLength, a.write b)) ∧
    (∀ s, BgpLs.Trapping.writeSet s = .ok s.write) ∧
    ∀ t b, writeTlv t b = .ok (t.write b) := by
  refine ⟨Dhcp6.Trapping.decodeData_eq, ?_, ?_, decodeTlv_eq, ?_, ?_, ?_, ?_,
    Dhcp6.Trapping.writeMessage_eq, Dhcp6.Trapping.writeOption_eq, BgpLs.Trapping.write_eq, ?_,
    writeTlv_eq⟩
  · exact fun length => runsAs_of_eq (BgpLs.Trapping.decodeSet_eq length)
  · exact runsAs_of_eq BgpLs.Trapping.decodeAttribute_eq
  · exact fun scope depth => Registry.runsAs_of_eq (Dhcp6.Trapping.registry_eq depth scope)
  · exact Registry.runsAs_of_eq BgpLs.Trapping.registry_eq
  · exact fun length =>
      ⟨runsAs_of_eq (Dhcp6.Trapping.decodeDuid_eq length),
        runsAs_of_eq (Dhcp6.Trapping.decodeClientId_eq length),
        runsAs_of_eq (Dhcp6.Trapping.decodeServerId_eq length),
        runsAs_of_eq (Dhcp6.Trapping.decodeIaNa_eq length),
        runsAs_of_eq (Dhcp6.Trapping.decodeIaAddr_eq length),
        runsAs_of_eq (Dhcp6.Trapping.decodeOptionRequest_eq length),
        runsAs_of_eq (Dhcp6.Trapping.decodeElapsedTime_eq length),
        fun depth => runsAs_of_eq (Dhcp6.Trapping.decodeRelayMsg_eq
          (fun inner _ => Dhcp6.Trapping.inMessage_eq inner) length)⟩
  · exact fun length =>
      ⟨runsAs_of_eq (BgpLs.Trapping.decodeAdminGroup_eq length),
        runsAs_of_eq (BgpLs.Trapping.decodeMaxLinkBandwidth_eq length),
        runsAs_of_eq (BgpLs.Trapping.decodeMaxResvLinkBandwidth_eq length),
        runsAs_of_eq (BgpLs.Trapping.decodeUnreservedBandwidth_eq length),
        runsAs_of_eq (BgpLs.Trapping.decodeTeDefaultMetric_eq length)⟩
  · exact fun s => BgpLs.Trapping.writeFrom_eq #[] [] s.attributes

end TlvCodec.Trapping
