import TlvCodec.Bytes.Reader
import TlvCodec.Bytes.Basic
import TlvCodec.Bytes.Hex
import TlvCodec.Ipv6
import TlvCodec.Ieee.Decimal
import TlvCodec.Json.Basic
import TlvCodec.Json.Parse
import TlvCodec.Json.Shape
import TlvCodec.Tlv.Registry
import TlvCodec.Tlv.Script
import TlvCodec.Log.Record
import TlvCodec.Dhcp6.Message
import TlvCodec.Dhcp6.Encode
import TlvCodec.Dhcp6.Decode
import TlvCodec.Dhcp6.Json
import TlvCodec.BgpLs.Encode
import TlvCodec.BgpLs.Decode
import TlvCodec.BgpLs.Attribute
import TlvCodec.Toml.Document
import TlvCodec.Tool.Run
import TlvCodec.Main
import TlvCodec.Proofs.Bytes.Reader
import TlvCodec.Proofs.Tlv.Wire
import TlvCodec.Proofs.Tlv.Decoder
import TlvCodec.Proofs.Tlv.Sequence
import TlvCodec.Proofs.Dhcp6.Wire
import TlvCodec.Proofs.Dhcp6.Regular
import TlvCodec.Proofs.Dhcp6.Acceptance
import TlvCodec.Proofs.Dhcp6.RoundTrip
import TlvCodec.Proofs.Dhcp6.Truncation
import TlvCodec.Proofs.Tlv.Guard
import TlvCodec.Proofs.Dhcp6.Guard
import TlvCodec.Proofs.Dhcp6.Nesting
import TlvCodec.Proofs.Dhcp6.Relaying
import TlvCodec.Proofs.Tlv.Run
import TlvCodec.Proofs.BgpLs.Wire
import TlvCodec.Proofs.BgpLs.RoundTrip
import TlvCodec.Proofs.BgpLs.Budget
import TlvCodec.Proofs.Dhcp6.Rescoping
import TlvCodec.Proofs.Trap.Basic
import TlvCodec.Proofs.Trap.Tlv
import TlvCodec.Proofs.Trap.Dhcp6.Decode
import TlvCodec.Proofs.Trap.Dhcp6.Encode
import TlvCodec.Proofs.Trap.BgpLs
import TlvCodec.Proofs.Trap.Safety
import TlvCodec.Proofs.Tlv.Fault
import TlvCodec.Proofs.Tlv.Append
import TlvCodec.Proofs.Tlv.Notes
import TlvCodec.Proofs.Dhcp6.Notes
import TlvCodec.Proofs.Text
import TlvCodec.Proofs.Ipv6
import TlvCodec.Proofs.Json.Number
import TlvCodec.Proofs.Json.Parse
import TlvCodec.Proofs.Json.Rearranged
import TlvCodec.Proofs.Dhcp6.Json
import TlvCodec.Proofs.Tool.Decode
import TlvCodec.Proofs.Tlv.Consumption
import TlvCodec.Proofs.BgpLs.Sharing
import TlvCodec.Proofs.Tlv.Lossless
import TlvCodec.Proofs.Dhcp6.Values
import TlvCodec.Proofs.Trap.Dhcp6.Depth
import TlvCodec.Proofs.Bytes.Hex
import TlvCodec.Proofs.BgpLs.Bandwidth
import TlvCodec.Proofs.Tlv.Script
import TlvCodec.Proofs.Tool.Config
import TlvCodec.Proofs.Tlv.Cursor
import TlvCodec.Proofs.Tlv.Clamped
