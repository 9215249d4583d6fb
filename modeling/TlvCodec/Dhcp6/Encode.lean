import TlvCodec.Dhcp6.Message

namespace TlvCodec.Dhcp6

mutual

/-- The number of octets of a message by its fields; no length field limits it. -/
def Message.length : Message → Nat
  | .client _ _ options => 4 + lengthOfOptions options
  | .relay _ _ _ _ options => 34 + lengthOfOptions options

def DhcpOption.valueLength : DhcpOption → Nat
  | .clientId duid => duid.length
  | .serverId duid => duid.length
  | .iaNa _ _ _ options => 12 + lengthOfOptions options
  | .iaAddr _ _ _ options => 24 + lengthOfOptions options
  | .optionRequest codes => codes.length * 2
  | .elapsedTime _ => 2
  | .relayMsg message => message.length
  | .unknown tlv => tlv.valueLength

def lengthOfOptions : List DhcpOption → Nat
  | [] => 0
  | o :: os => headerSize + o.valueLength + lengthOfOptions os

end

def DhcpOption.length (o : DhcpOption) : Nat := headerSize + o.valueLength

def writeWords : List UInt16 → Buffer → Buffer
  | [], b => b
  | n :: ns, b => writeWords ns (b.word16 n)

mutual

def Message.write : Message → Buffer → Buffer
  | .client type transaction options, b =>
    writeOptions options (Buffer.word24 transaction (b.push type))
  | .relay type hops link peer options, b =>
    writeOptions options (peer.write (link.write ((b.push type).push hops)))

def DhcpOption.write : DhcpOption → Buffer → Buffer
  | .clientId duid, b => b.tlv OptionCode.clientId.number duid.write
  | .serverId duid, b => b.tlv OptionCode.serverId.number duid.write
  | .iaNa id t1 t2 options, b =>
    b.tlv OptionCode.iaNa.number fun b =>
      writeOptions options (((b.word32 id).word32 t1).word32 t2)
  | .iaAddr address preferred valid options, b =>
    b.tlv OptionCode.iaAddr.number fun b =>
      writeOptions options (((address.write b).word32 preferred).word32 valid)
  | .optionRequest codes, b => b.tlv OptionCode.oro.number (writeWords codes)
  | .elapsedTime time, b => b.tlv OptionCode.elapsedTime.number (Buffer.word16 time)
  | .relayMsg message, b => b.tlv OptionCode.relayMsg.number message.write
  | .unknown tlv, b => tlv.write b

def writeOptions : List DhcpOption → Buffer → Buffer
  | [], b => b
  | o :: os, b => writeOptions os (o.write b)

end

def Message.encode (m : Message) : Bytes := (m.write #[]).toList

def DhcpOption.encode (o : DhcpOption) : Bytes := (o.write #[]).toList

end TlvCodec.Dhcp6
