namespace TlvCodec.Dhcp6

inductive MessageType where
  | solicit
  | advertise
  | request
  | confirm
  | renew
  | rebind
  | reply
  | release
  | decline
  | reconfigure
  | informationRequest
  | relayForw
  | relayRepl
deriving DecidableEq, Repr

namespace MessageType

def number : MessageType → UInt8
  | solicit => 1
  | advertise => 2
  | request => 3
  | confirm => 4
  | renew => 5
  | rebind => 6
  | reply => 7
  | release => 8
  | decline => 9
  | reconfigure => 10
  | informationRequest => 11
  | relayForw => 12
  | relayRepl => 13

def name : MessageType → String
  | solicit => "Solicit"
  | advertise => "Advertise"
  | request => "Request"
  | confirm => "Confirm"
  | renew => "Renew"
  | rebind => "Rebind"
  | reply => "Reply"
  | release => "Release"
  | decline => "Decline"
  | reconfigure => "Reconfigure"
  | informationRequest => "InformationRequest"
  | relayForw => "RelayForw"
  | relayRepl => "RelayRepl"

def all : List MessageType :=
  [solicit, advertise, request, confirm, renew, rebind, reply, release, decline, reconfigure,
    informationRequest, relayForw, relayRepl]

def ofNumber? (n : Int) : Option MessageType := all.find? fun t => (t.number.toNat : Int) = n

def isRelay (number : UInt8) : Bool :=
  number = relayForw.number || number = relayRepl.number

end MessageType

inductive OptionCode where
  | clientId
  | serverId
  | iaNa
  | iaTa
  | iaAddr
  | oro
  | preference
  | elapsedTime
  | relayMsg
  | auth
  | unicast
  | statusCode
  | rapidCommit
  | userClass
  | vendorClass
  | vendorOpts
  | interfaceId
  | reconfMsg
  | reconfAccept
  | dnsServers
  | domainList
  | iaPd
  | iaPrefix
deriving DecidableEq, Repr

namespace OptionCode

def number : OptionCode → UInt16
  | clientId => 1
  | serverId => 2
  | iaNa => 3
  | iaTa => 4
  | iaAddr => 5
  | oro => 6
  | preference => 7
  | elapsedTime => 8
  | relayMsg => 9
  | auth => 11
  | unicast => 12
  | statusCode => 13
  | rapidCommit => 14
  | userClass => 15
  | vendorClass => 16
  | vendorOpts => 17
  | interfaceId => 18
  | reconfMsg => 19
  | reconfAccept => 20
  | dnsServers => 23
  | domainList => 24
  | iaPd => 25
  | iaPrefix => 26

def name : OptionCode → String
  | clientId => "ClientId"
  | serverId => "ServerId"
  | iaNa => "IaNa"
  | iaTa => "IaTa"
  | iaAddr => "IaAddr"
  | oro => "Oro"
  | preference => "Preference"
  | elapsedTime => "ElapsedTime"
  | relayMsg => "RelayMsg"
  | auth => "Auth"
  | unicast => "Unicast"
  | statusCode => "StatusCode"
  | rapidCommit => "RapidCommit"
  | userClass => "UserClass"
  | vendorClass => "VendorClass"
  | vendorOpts => "VendorOpts"
  | interfaceId => "InterfaceId"
  | reconfMsg => "ReconfMsg"
  | reconfAccept => "ReconfAccept"
  | dnsServers => "DnsServers"
  | domainList => "DomainList"
  | iaPd => "IaPd"
  | iaPrefix => "IaPrefix"

def all : List OptionCode :=
  [clientId, serverId, iaNa, iaTa, iaAddr, oro, preference, elapsedTime, relayMsg, auth, unicast,
    statusCode, rapidCommit, userClass, vendorClass, vendorOpts, interfaceId, reconfMsg,
    reconfAccept, dnsServers, domainList, iaPd, iaPrefix]

def ofNumber? (n : Int) : Option OptionCode := all.find? fun c => (c.number.toNat : Int) = n

end OptionCode

inductive DuidType where
  | llt
  | en
  | ll
  | uuid
deriving DecidableEq, Repr

namespace DuidType

def number : DuidType → UInt16
  | llt => 1
  | en => 2
  | ll => 3
  | uuid => 4

def name : DuidType → String
  | llt => "Llt"
  | en => "En"
  | ll => "Ll"
  | uuid => "Uuid"

def all : List DuidType := [llt, en, ll, uuid]

def ofNumber? (n : Int) : Option DuidType := all.find? fun t => (t.number.toNat : Int) = n

end DuidType

end TlvCodec.Dhcp6
