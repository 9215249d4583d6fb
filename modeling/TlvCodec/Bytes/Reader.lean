import TlvCodec.Bytes.Basic

namespace TlvCodec

structure ShortRead where
  requested : Nat
  available : Nat
deriving DecidableEq, Repr

/-- Takes a value off the front of the data. A failing read takes nothing. -/
abbrev Reader (α : Type) := Bytes → Except ShortRead (α × Bytes)

namespace Reader

def octet : Reader UInt8
  | a :: rest => .ok (a, rest)
  | [] => .error ⟨1, 0⟩

def word16 : Reader UInt16
  | a :: b :: rest => .ok (BigEndian.word16 a b, rest)
  | bs => .error ⟨2, bs.length⟩

def word24 : Reader UInt32
  | a :: b :: c :: rest => .ok (BigEndian.word24 a b c, rest)
  | bs => .error ⟨3, bs.length⟩

def word32 : Reader UInt32
  | a :: b :: c :: d :: rest => .ok (BigEndian.word32 a b c d, rest)
  | bs => .error ⟨4, bs.length⟩

def octets (n : Nat) : Reader (Octets n) := fun bs =>
  let parts := bs.splitAt n
  if h : parts.1.length = n then .ok (⟨parts.1, h⟩, parts.2)
  else .error ⟨n, parts.1.length⟩

def split (n : Nat) : Reader Bytes := fun bs =>
  (octets n bs).map fun (taken, rest) => (taken.val, rest)

theorem octets_of_le {n : Nat} {bs : Bytes} (h : n ≤ bs.length) :
    octets n bs = .ok (⟨bs.take n, List.length_take_of_le h⟩, bs.drop n) := by
  simp [octets, List.splitAt_eq, h]

theorem octets_of_lt {n : Nat} {bs : Bytes} (h : bs.length < n) :
    octets n bs = .error ⟨n, bs.length⟩ := by
  have htake : bs.take n = bs := List.take_of_length_le (by omega)
  have hne : bs.length ≠ n := by omega
  simp [octets, List.splitAt_eq, htake, hne]

theorem split_of_le {n : Nat} {bs : Bytes} (h : n ≤ bs.length) :
    split n bs = .ok (bs.take n, bs.drop n) := by
  simp [split, octets_of_le h, Except.map]

theorem split_of_lt {n : Nat} {bs : Bytes} (h : bs.length < n) :
    split n bs = .error ⟨n, bs.length⟩ := by
  simp [split, octets_of_lt h, Except.map]

end Reader

/-- Raw input from which structured test values are drawn, front first. -/
structure Supply where
  left : Bytes

namespace Supply

/-- Draws a little-endian 16-bit word; octets that are missing count as zero. -/
def word16 (s : Supply) : UInt16 × Supply :=
  match s.left with
  | a :: b :: rest => (BigEndian.word16 b a, ⟨rest⟩)
  | [a] => (BigEndian.word16 0 a, ⟨[]⟩)
  | [] => (0, s)

def bytes (s : Supply) : Bytes × Supply := (s.left, ⟨[]⟩)

def takeRest (s : Supply) : Bytes := s.left

end Supply

end TlvCodec
