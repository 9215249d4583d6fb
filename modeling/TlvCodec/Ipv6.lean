import TlvCodec.Bytes.Reader
import TlvCodec.Text

namespace TlvCodec

/-- An IPv6 address: sixteen octets in network order. -/
structure Ipv6 where
  octets : Octets 16
deriving DecidableEq

namespace Ipv6

def read : Reader Ipv6 := fun bs =>
  (Reader.octets 16 bs).map fun (octets, rest) => (⟨octets⟩, rest)

def write (a : Ipv6) (b : Buffer) : Buffer := b.bytes a.octets.val

def pairWords : Bytes → List UInt16
  | a :: b :: rest => BigEndian.word16 a b :: pairWords rest
  | _ => []

def groups (a : Ipv6) : List UInt16 := pairWords a.octets.val

def ofGroups? (gs : List UInt16) : Option Ipv6 :=
  let octets := gs.flatMap BigEndian.octets16
  if h : octets.length = 16 then some ⟨⟨octets, h⟩⟩ else none

def zeroRun : List UInt16 → Nat
  | [] => 0
  | g :: gs => if g = 0 then zeroRun gs + 1 else 0

/-- Start and length of the first longest run of zero groups. -/
def longestZeroRun (start : Nat) : List UInt16 → Nat × Nat
  | [] => (start, 0)
  | g :: gs =>
    let here := zeroRun (g :: gs)
    let later := longestZeroRun (start + 1) gs
    if here ≠ 0 ∧ later.2 ≤ here then (start, here) else later

def groupText (g : UInt16) : List Char := digits 16 g.toNat

def joinGroups : List UInt16 → List Char
  | [] => []
  | [g] => groupText g
  | g :: gs => groupText g ++ ':' :: joinGroups gs

def dottedQuad (high low : UInt16) : List Char :=
  digits 10 (high.toNat / 256) ++ '.' :: digits 10 (high.toNat % 256) ++
    '.' :: digits 10 (low.toNat / 256) ++ '.' :: digits 10 (low.toNat % 256)

/-- The canonical text, with `::` for the first longest run of zero groups. -/
def chars (a : Ipv6) : List Char :=
  match a.groups with
  | [0, 0, 0, 0, 0, 0xffff, high, low] => "::ffff:".toList ++ dottedQuad high low
  | gs =>
    let (start, length) := longestZeroRun 0 gs
    if length < 2 then joinGroups gs
    else joinGroups (gs.take start) ++ ':' :: ':' :: joinGroups (gs.drop (start + length))

def text (a : Ipv6) : String := String.ofList a.chars

def pieces (separator : Char) : List Char → List (List Char)
  | [] => [[]]
  | c :: cs =>
    if c = separator then [] :: pieces separator cs
    else match pieces separator cs with
      | [] => [[c]]
      | p :: ps => (c :: p) :: ps

def group? (piece : List Char) : Option UInt16 := do
  let ds ← piece.mapM hexValue?
  if ds.isEmpty ∨ 4 < ds.length then none
  else some (UInt16.ofNat (ds.foldl (fun n d => n * 16 + d) 0))

def decimalOctet? (piece : List Char) : Option Nat := do
  let ds ← piece.mapM decimalValue?
  let n := ds.foldl (fun n d => n * 10 + d) 0
  if ds.isEmpty ∨ 3 < ds.length ∨ 255 < n ∨ (ds.head? = some 0 ∧ ds.length ≠ 1) then none
  else some n

def dottedQuad? (piece : List Char) : Option (List UInt16) := do
  match ← (pieces '.' piece).mapM decimalOctet? with
  | [a, b, c, d] => some [UInt16.ofNat (a * 256 + b), UInt16.ofNat (c * 256 + d)]
  | _ => none

/-- Groups between colons; a dotted quad may come last and counts as two. -/
def groupsOfPieces? : List (List Char) → Option (List UInt16)
  | [] => some []
  | [p] => ((group? p).map fun g => [g]) <|> dottedQuad? p
  | p :: ps => do return (← group? p) :: (← groupsOfPieces? ps)

def groups? (text : List Char) : Option (List UInt16) :=
  if text.isEmpty then some [] else groupsOfPieces? (pieces ':' text)

def splitGap? : List Char → Option (List Char × List Char)
  | ':' :: ':' :: rest => some ([], rest)
  | c :: cs => (splitGap? cs).map fun (front, back) => (c :: front, back)
  | [] => none

/-- Reads an address with at most one gap, and a dotted quad only at the end. -/
def parse? (text : List Char) : Option Ipv6 :=
  match splitGap? text with
  | none => do
    let gs ← groups? text
    ofGroups? gs
  | some (front, back) => do
    let before ← if front.contains '.' then none else groups? front
    let after ← groups? back
    let given := before.length + after.length
    if 7 < given then none
    else ofGroups? (before ++ List.replicate (8 - given) 0 ++ after)

end Ipv6

end TlvCodec
