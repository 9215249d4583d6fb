import TlvCodec.Proofs.Dhcp6.Wire
import TlvCodec.Proofs.Trap.Tlv

namespace TlvCodec.Dhcp6
namespace Trapping
open TlvCodec.Trapping
set_option autoImplicit true

mutual

def writeMessage : Message → Buffer → Trapping Buffer
  | .client type transaction options, b => do
    writeOptions options (← writeWord24 transaction (b.push type))
  | .relay type hops link peer options, b =>
    writeOptions options (peer.write (link.write ((b.push type).push hops)))

def writeOption : DhcpOption → Buffer → Trapping Buffer
  | .clientId duid, b => writeElement OptionCode.clientId.number (fun b => return duid.write b) b
  | .serverId duid, b => writeElement OptionCode.serverId.number (fun b => return duid.write b) b
  | .iaNa id t1 t2 options, b =>
    writeElement OptionCode.iaNa.number
      (fun b => writeOptions options (((b.word32 id).word32 t1).word32 t2)) b
  | .iaAddr address preferred valid options, b =>
    writeElement OptionCode.iaAddr.number
      (fun b => writeOptions options (((address.write b).word32 preferred).word32 valid)) b
  | .optionRequest codes, b =>
    writeElement OptionCode.oro.number (fun b => return writeWords codes b) b
  | .elapsedTime time, b =>
    writeElement OptionCode.elapsedTime.number (fun b => return b.word16 time) b
  | .relayMsg message, b => writeElement OptionCode.relayMsg.number (writeMessage message) b
  | .unknown tlv, b => writeTlv tlv b

def writeOptions : List DhcpOption → Buffer → Trapping Buffer
  | [], b => return b
  | o :: os, b => do writeOptions os (← writeOption o b)

end

-- by the constructors, as the writers are: an option that holds others is closed after them, and
-- all that they did was to append
mutual

theorem writeMessage_eq : ∀ (m : Message) (b : Buffer), writeMessage m b = .ok (m.write b)
  | .client type transaction options, b => by
    rw [writeMessage, writeWord24_eq]
    exact writeOptions_eq options _
  | .relay type hops link peer options, b => by
    rw [writeMessage]
    exact writeOptions_eq options _

theorem writeOption_eq : ∀ (o : DhcpOption) (b : Buffer), writeOption o b = .ok (o.write b)
  | .clientId duid, b => by
    rw [writeOption]
    exact writeElement_eq (fun _ => rfl) duid.toList_write _ b
  | .serverId duid, b => by
    rw [writeOption]
    exact writeElement_eq (fun _ => rfl) duid.toList_write _ b
  | .iaNa id t1 t2 options, b => by
    rw [writeOption]
    exact writeElement_eq (fun _ => writeOptions_eq options _)
      (toList_writeIaNa (toList_writeOptions options) id t1 t2) _ b
  | .iaAddr address preferred valid options, b => by
    rw [writeOption]
    exact writeElement_eq (fun _ => writeOptions_eq options _)
      (toList_writeIaAddr (toList_writeOptions options) address preferred valid) _ b
  | .optionRequest codes, b => by
    rw [writeOption]
    exact writeElement_eq (fun _ => rfl) (toList_writeWords codes) _ b
  | .elapsedTime time, b => by
    rw [writeOption]
    exact writeElement_eq (fun _ => rfl) (Buffer.toList_word16 time) _ b
  | .relayMsg message, b => by
    rw [writeOption]
    exact writeElement_eq (writeMessage_eq message) message.toList_write _ b
  | .unknown tlv, b => by
    rw [writeOption]
    exact writeTlv_eq tlv b

theorem writeOptions_eq : ∀ (os : List DhcpOption) (b : Buffer),
    writeOptions os b = .ok (Dhcp6.writeOptions os b)
  | [], b => by
    rw [writeOptions]
    rfl
  | o :: os, b => by
    rw [writeOptions, writeOption_eq o]
    exact writeOptions_eq os _

end

end Trapping
end TlvCodec.Dhcp6
