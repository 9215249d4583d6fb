import TlvCodec.Bytes.Basic
import TlvCodec.Text

namespace TlvCodec.Hex

inductive Error where
  | oddLength
  | invalidCharacter (octet : UInt8) (index : Nat)
deriving DecidableEq, Repr

def Error.message : Error → String
  | oddLength => "Odd number of digits"
  | invalidCharacter octet index =>
    "Invalid character " ++ quoteChar octet ++ " at position " ++ decimal index

def text (bs : Bytes) : String :=
  bs.foldl (fun out b => (out.push (digitChar (b.toNat / 16))).push (digitChar (b.toNat % 16))) ""

def digitAt (octet : UInt8) (index : Nat) : Except Error Nat :=
  match hexValue? (Char.ofNat octet.toNat) with
  | some d => .ok d
  | none => .error (.invalidCharacter octet index)

/-- Pairs up digits from position `index` on; `done` holds the octets found, last first. -/
def decodePairs (index : Nat) (done : Bytes) : Bytes → Except Error Bytes
  | a :: b :: rest => do
    let high ← digitAt a index
    let low ← digitAt b (index + 1)
    decodePairs (index + 2) (UInt8.ofNat (high * 16 + low) :: done) rest
  | _ => .ok done.reverse

/-- Reads digits of either case. An odd number of them is reported first. -/
def decode (text : Bytes) : Except Error Bytes :=
  if text.length % 2 = 0 then decodePairs 0 [] text else .error .oddLength

def listing (bs : Bytes) : String :=
  let items := bs.map fun b =>
    String.ofList ['0', 'x', digitChar (b.toNat / 16), digitChar (b.toNat % 16)]
  "[" ++ ", ".intercalate items ++ "]"

def difference? (left right : Bytes) : Option String :=
  if left = right then none
  else some ("assertion `left == right` failed\n  left: " ++ listing left ++
    "\n right: " ++ listing right)

end TlvCodec.Hex
