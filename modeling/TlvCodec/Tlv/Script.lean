import TlvCodec.Ipv6
import TlvCodec.Tlv.Basic

namespace TlvCodec

/-- A value of one of the primitive wire forms. -/
inductive Field where
  | octet (n : UInt8)
  | word16 (n : UInt16)
  | word24 (n : UInt32)
  | word32 (n : UInt32)
  | address (a : Ipv6)
  | single (x : Single)
  | bytes (bs : Bytes)
deriving DecidableEq

inductive Field.Form where
  | octet
  | word16
  | word24
  | word32
  | address
  | single
  | bytes (size : Nat)
deriving DecidableEq

namespace Field

def form : Field → Form
  | octet _ => .octet
  | word16 _ => .word16
  | word24 _ => .word24
  | word32 _ => .word32
  | address _ => .address
  | single _ => .single
  | bytes bs => .bytes bs.length

def read : Form → Reader Field
  | .octet, bs => (Reader.octet bs).map fun (n, rest) => (.octet n, rest)
  | .word16, bs => (Reader.word16 bs).map fun (n, rest) => (.word16 n, rest)
  | .word24, bs => (Reader.word24 bs).map fun (n, rest) => (.word24 n, rest)
  | .word32, bs => (Reader.word32 bs).map fun (n, rest) => (.word32 n, rest)
  | .address, bs => (Ipv6.read bs).map fun (a, rest) => (.address a, rest)
  | .single, bs => (Single.read bs).map fun (x, rest) => (.single x, rest)
  | .bytes size, bs => (Reader.split size bs).map fun (part, rest) => (.bytes part, rest)

def write : Field → Buffer → Buffer
  | octet n, b => b.push n
  | word16 n, b => b.word16 n
  | word24 n, b => b.word24 n
  | word32 n, b => b.word32 n
  | address a, b => a.write b
  | single x, b => x.write b
  | bytes bs, b => b.bytes bs

end Field

/-- Output with elements still open, innermost first. -/
structure Writer where
  buffer : Buffer
  starts : List Nat

namespace Writer

inductive Step where
  | field (f : Field)
  | openTlv (code : UInt16)
  | closeTlv
deriving DecidableEq

def start : Writer := ⟨#[], []⟩

def step (w : Writer) : Step → Writer
  | .field f => { w with buffer := f.write w.buffer }
  | .openTlv code => ⟨w.buffer.openTlv code, w.buffer.size :: w.starts⟩
  | .closeTlv =>
    match w.starts with
    | [] => w
    | s :: starts => ⟨w.buffer.closeTlv s, starts⟩

def run (w : Writer) (steps : List Step) : Writer := steps.foldl step w

end Writer

end TlvCodec
