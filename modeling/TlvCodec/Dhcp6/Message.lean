import TlvCodec.Dhcp6.Duid
import TlvCodec.Ipv6
import TlvCodec.Tlv.Basic

namespace TlvCodec.Dhcp6

mutual

/-- A message of a client or server, or of a relay agent. -/
inductive Message where
  | client (type : UInt8) (transaction : UInt32) (options : List DhcpOption)
  | relay (type hops : UInt8) (link peer : Ipv6) (options : List DhcpOption)

/-- An option, which may hold options or a message in turn. -/
inductive DhcpOption where
  | clientId (duid : Duid)
  | serverId (duid : Duid)
  | iaNa (id t1 t2 : UInt32) (options : List DhcpOption)
  | iaAddr (address : Ipv6) (preferred valid : UInt32) (options : List DhcpOption)
  | optionRequest (codes : List UInt16)
  | elapsedTime (time : UInt16)
  | relayMsg (message : Message)
  | unknown (tlv : Tlv)

end

mutual

def Message.decEq : (a b : Message) → Decidable (a = b)
  | .client s x os, .client t y ps =>
    match decEqOptions os ps with
    | isTrue h => decidable_of_iff (s = t ∧ x = y) (by simp [h])
    | isFalse h => isFalse (by simp [h])
  | .relay s i a c os, .relay t j b d ps =>
    match decEqOptions os ps with
    | isTrue h => decidable_of_iff (s = t ∧ i = j ∧ a = b ∧ c = d) (by simp [h])
    | isFalse h => isFalse (by simp [h])
  | .client .., .relay .. => isFalse (by simp)
  | .relay .., .client .. => isFalse (by simp)

def DhcpOption.decEq : (a b : DhcpOption) → Decidable (a = b)
  | .clientId d, .clientId e => decidable_of_iff (d = e) (by simp)
  | .serverId d, .serverId e => decidable_of_iff (d = e) (by simp)
  | .iaNa i t u os, .iaNa j v w ps =>
    match decEqOptions os ps with
    | isTrue h => decidable_of_iff (i = j ∧ t = v ∧ u = w) (by simp [h])
    | isFalse h => isFalse (by simp [h])
  | .iaAddr a t u os, .iaAddr b v w ps =>
    match decEqOptions os ps with
    | isTrue h => decidable_of_iff (a = b ∧ t = v ∧ u = w) (by simp [h])
    | isFalse h => isFalse (by simp [h])
  | .optionRequest c, .optionRequest d => decidable_of_iff (c = d) (by simp)
  | .elapsedTime s, .elapsedTime t => decidable_of_iff (s = t) (by simp)
  | .relayMsg m, .relayMsg n =>
    match m.decEq n with
    | isTrue h => isTrue (by rw [h])
    | isFalse h => isFalse (by simp [h])
  | .unknown t, .unknown u => decidable_of_iff (t = u) (by simp)
  | .clientId _, .serverId _ | .clientId _, .iaNa .. | .clientId _, .iaAddr ..
  | .clientId _, .optionRequest _ | .clientId _, .elapsedTime _ | .clientId _, .relayMsg _
  | .clientId _, .unknown _ => isFalse (by simp)
  | .serverId _, .clientId _ | .serverId _, .iaNa .. | .serverId _, .iaAddr ..
  | .serverId _, .optionRequest _ | .serverId _, .elapsedTime _ | .serverId _, .relayMsg _
  | .serverId _, .unknown _ => isFalse (by simp)
  | .iaNa .., .clientId _ | .iaNa .., .serverId _ | .iaNa .., .iaAddr ..
  | .iaNa .., .optionRequest _ | .iaNa .., .elapsedTime _ | .iaNa .., .relayMsg _
  | .iaNa .., .unknown _ => isFalse (by simp)
  | .iaAddr .., .clientId _ | .iaAddr .., .serverId _ | .iaAddr .., .iaNa ..
  | .iaAddr .., .optionRequest _ | .iaAddr .., .elapsedTime _ | .iaAddr .., .relayMsg _
  | .iaAddr .., .unknown _ => isFalse (by simp)
  | .optionRequest _, .clientId _ | .optionRequest _, .serverId _ | .optionRequest _, .iaNa ..
  | .optionRequest _, .iaAddr .. | .optionRequest _, .elapsedTime _
  | .optionRequest _, .relayMsg _ | .optionRequest _, .unknown _ => isFalse (by simp)
  | .elapsedTime _, .clientId _ | .elapsedTime _, .serverId _ | .elapsedTime _, .iaNa ..
  | .elapsedTime _, .iaAddr .. | .elapsedTime _, .optionRequest _ | .elapsedTime _, .relayMsg _
  | .elapsedTime _, .unknown _ => isFalse (by simp)
  | .relayMsg _, .clientId _ | .relayMsg _, .serverId _ | .relayMsg _, .iaNa ..
  | .relayMsg _, .iaAddr .. | .relayMsg _, .optionRequest _ | .relayMsg _, .elapsedTime _
  | .relayMsg _, .unknown _ => isFalse (by simp)
  | .unknown _, .clientId _ | .unknown _, .serverId _ | .unknown _, .iaNa ..
  | .unknown _, .iaAddr .. | .unknown _, .optionRequest _ | .unknown _, .elapsedTime _
  | .unknown _, .relayMsg _ => isFalse (by simp)

def decEqOptions : (os ps : List DhcpOption) → Decidable (os = ps)
  | [], [] => isTrue rfl
  | o :: os, p :: ps =>
    match o.decEq p with
    | isTrue h =>
      match decEqOptions os ps with
      | isTrue hs => isTrue (by rw [h, hs])
      | isFalse hs => isFalse (by simp [hs])
    | isFalse h => isFalse (by simp [h])
  | [], _ :: _ => isFalse (by simp)
  | _ :: _, [] => isFalse (by simp)

end

instance : DecidableEq Message := Message.decEq

instance : DecidableEq DhcpOption := DhcpOption.decEq

namespace Message

def type : Message → UInt8
  | client type .. => type
  | relay type .. => type

def assignedType? (m : Message) : Option MessageType := MessageType.ofNumber? m.type.toNat

def options : Message → List DhcpOption
  | client _ _ options => options
  | relay _ _ _ _ options => options

def withOptions (options : List DhcpOption) : Message → Message
  | client type transaction _ => client type transaction options
  | relay type hops link peer _ => relay type hops link peer options

def headerLength : Message → Nat
  | client .. => 4
  | relay .. => 34

end Message

namespace DhcpOption

def code : DhcpOption → UInt16
  | clientId _ => OptionCode.clientId.number
  | serverId _ => OptionCode.serverId.number
  | iaNa .. => OptionCode.iaNa.number
  | iaAddr .. => OptionCode.iaAddr.number
  | optionRequest _ => OptionCode.oro.number
  | elapsedTime _ => OptionCode.elapsedTime.number
  | relayMsg _ => OptionCode.relayMsg.number
  | unknown tlv => tlv.code

def options? : DhcpOption → Option (List DhcpOption)
  | iaNa _ _ _ options => some options
  | iaAddr _ _ _ options => some options
  | relayMsg message => some message.options
  | _ => none

def withOptions (options : List DhcpOption) : DhcpOption → DhcpOption
  | iaNa id t1 t2 _ => iaNa id t1 t2 options
  | iaAddr address preferred valid _ => iaAddr address preferred valid options
  | relayMsg message => relayMsg (message.withOptions options)
  | o => o

def isIaAddr : DhcpOption → Bool
  | iaAddr .. => true
  | _ => false

def iaAddr? : DhcpOption → Option DhcpOption
  | iaNa _ _ _ options => options.find? isIaAddr
  | _ => none

end DhcpOption

/-- Changes the options reached along `path`, a list of positions. -/
def editOptions? (edit : List DhcpOption → Option (List DhcpOption)) :
    List Nat → List DhcpOption → Option (List DhcpOption)
  | [], options => edit options
  | i :: path, options => do
    let o ← options[i]?
    let inner ← editOptions? edit path (← o.options?)
    return options.set i (o.withOptions inner)

namespace Message

def editAt? (m : Message) (path : List Nat)
    (edit : List DhcpOption → Option (List DhcpOption)) : Option Message :=
  (editOptions? edit path m.options).map fun options => m.withOptions options

def withType (type : UInt8) : Message → Message
  | client _ transaction options => client type transaction options
  | relay _ hops link peer options => relay type hops link peer options

def withTransaction? (transaction : UInt32) : Message → Option Message
  | client type _ options => some (client type transaction options)
  | relay .. => none

def withHops? (hops : UInt8) : Message → Option Message
  | client .. => none
  | relay type _ link peer options => some (relay type hops link peer options)

def wrap (type hops : UInt8) (link peer : Ipv6) (m : Message) : Message :=
  relay type hops link peer [.relayMsg m]

def relayed? : DhcpOption → Option Message
  | .relayMsg m => some m
  | _ => none

def unwrap? (m : Message) : Option Message := m.options.findSome? relayed?

end Message

end TlvCodec.Dhcp6
