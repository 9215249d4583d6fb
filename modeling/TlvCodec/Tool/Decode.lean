import TlvCodec.BgpLs.Decode
import TlvCodec.Bytes.Hex
import TlvCodec.Dhcp6.Decode
import TlvCodec.Dhcp6.Json
import TlvCodec.Tool.Config

namespace TlvCodec.Tool

inductive FileError where
  | notFound
  | isDirectory
  | notDirectory
  | nameTooLong
  | other (reason : String)
deriving DecidableEq, Repr

def FileError.message : FileError → String
  | notFound => "No such file or directory (os error 2)"
  | isDirectory => "Is a directory (os error 21)"
  | notDirectory => "Not a directory (os error 20)"
  | nameTooLong => "File name too long (os error 36)"
  | other reason => reason

/-- What there is to read under each path. -/
abbrev Files := String → Except FileError Bytes

def isBlank (b : UInt8) : Bool :=
  b = 0x20 || b = 0x09 || b = 0x0a || b = 0x0c || b = 0x0d

/-- Hexadecimal digits may have blanks anywhere between them. -/
def InputFormat.decode : InputFormat → Bytes → Except Hex.Error Bytes
  | binary, content => .ok content
  | hex, content => Hex.decode (content.filter fun b => !isBlank b)

inductive Protocol where
  | dhcp6
  | bgpLs
deriving DecidableEq, Repr

namespace Protocol

/-- Protocols go by two names each, in any case. -/
def ofName? (s : String) : Option Protocol :=
  match String.ofList (s.toList.map Char.toLower) with
  | "dhcp6" | "dhcpv6" => some dhcp6
  | "bgp-ls" | "bgpls" => some bgpLs
  | _ => none

def name : Protocol → String
  | dhcp6 => "Dhcp6"
  | bgpLs => "BgpLs"

end Protocol

inductive Error where
  | inputRead (e : FileError)
  | inputHex (e : Hex.Error)
  | inputTooLong (length : Nat)
  | dhcp6Decode (e : DecodeError)
  | bgpLsDecode (e : DecodeError)
deriving DecidableEq, Repr

namespace Error

def message : Error → String
  | inputRead _ => "failed to read input file"
  | inputHex _ => "invalid hex input"
  | inputTooLong length =>
    "input too long for an attribute: " ++ decimal length ++ " bytes"
  | dhcp6Decode _ => "failed to decode DHCPv6 message"
  | bgpLsDecode _ => "failed to decode BGP-LS attribute"

def source? : Error → Option String
  | inputRead e => some e.message
  | inputHex e => some e.message
  | inputTooLong _ => none
  | dhcp6Decode e => some e.message
  | bgpLsDecode e => some e.message

end Error

inductive Event where
  | decodingInput (protocol : Protocol) (length : Nat)
  | dhcp6 (e : Dhcp6.Event)
  | bgpLs (e : BgpLs.Event)
  | failed (e : Error)
deriving DecidableEq, Repr

def Event.record : Event → Log.Record
  | decodingInput protocol length =>
    { level := .debug
      target := "nos_decode"
      span := none
      message := "decoding input"
      fields := [("protocol", protocol.name), ("len", decimal length)] }
  | dhcp6 e => e.record
  | bgpLs e => e.record
  | failed e =>
    { level := .error
      target := "nos_decode"
      span := none
      message := e.message
      fields := match e.source? with
        | some source => [("source", source)]
        | none => [] }

def readInput (files : Files) (path : String) (format : InputFormat) : Except Error Bytes :=
  match files path with
  | .error e => .error (.inputRead e)
  | .ok content =>
    match format.decode content with
    | .error e => .error (.inputHex e)
    | .ok data => .ok data

def Protocol.decode (p : Protocol) (data : Bytes) : Except Error Json × List Event :=
  match p with
  | .dhcp6 =>
    match Dhcp6.Message.read data with
    | (.ok m, events) => (.ok m.toJson, events.map .dhcp6)
    | (.error e, events) => (.error (.dhcp6Decode e), events.map .dhcp6)
  | .bgpLs =>
    let length := data.length
    if 65535 < length then (.error (.inputTooLong length), [])
    else
      match BgpLs.AttributeSet.decode (UInt16.ofNat length) data with
      | ⟨.ok s, _, events⟩ => (.ok s.toJson, events.map .bgpLs)
      | ⟨.error e, _, events⟩ => (.error (.bgpLsDecode e), events.map .bgpLs)

def render (pretty : Bool) (v : Json) : String :=
  if pretty then v.canonical.pretty else v.canonical.compact

def decode (p : Protocol) (data : Bytes) (pretty : Bool) : Except Error String × List Event :=
  let (result, events) := p.decode data
  (result.map (render pretty), .decodingInput p data.length :: events)

end TlvCodec.Tool
