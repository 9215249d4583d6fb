import TlvCodec.Json.Basic

namespace TlvCodec

inductive DecodeError where
  | truncatedInput
  | malformedLength (length : UInt16)
deriving DecidableEq, Repr

namespace DecodeError

def message : DecodeError → String
  | truncatedInput => "attempt to read out of bounds"
  | malformedLength length => "malformed length: " ++ decimal length.toNat

def toJson : DecodeError → Json
  | truncatedInput => .string "TruncatedInput"
  | malformedLength length => .tagged "MalformedLength" (.nat length.toNat)

end DecodeError

/-- What limits a run of elements: an overrun is missing input or a wrong length. -/
inductive Bound where
  | buffer
  | parent
deriving DecidableEq, Repr

def Bound.overrun : Bound → UInt16 → DecodeError
  | buffer, _ => .truncatedInput
  | parent, length => .malformedLength length

/-- What a decoder leaves behind, whether it succeeds or fails. -/
structure Outcome (ε α : Type) where
  result : Except DecodeError α
  rest : Bytes
  events : List ε

def Decoder (ε α : Type) := Bytes → Outcome ε α

namespace Decoder

def pure (a : α) : Decoder ε α := fun bs => ⟨.ok a, bs, []⟩

def bind (d : Decoder ε α) (f : α → Decoder ε β) : Decoder ε β := fun bs =>
  match d bs with
  | ⟨.ok a, rest, events⟩ =>
    let o := f a rest
    ⟨o.result, o.rest, events ++ o.events⟩
  | ⟨.error e, rest, events⟩ => ⟨.error e, rest, events⟩

instance : Monad (Decoder ε) where
  pure := pure
  bind := bind

def fail (e : DecodeError) : Decoder ε α := fun bs => ⟨.error e, bs, []⟩

def read (r : Reader α) : Decoder ε α := fun bs =>
  match r bs with
  | .ok (a, rest) => ⟨.ok a, rest, []⟩
  | .error _ => ⟨.error .truncatedInput, bs, []⟩

/-- Fails with `e` unless `n` more octets are there, and takes none. -/
def need (n : Nat) (e : DecodeError) : Decoder ε Unit := fun bs =>
  if (bs.take n).length = n then ⟨.ok (), bs, []⟩ else ⟨.error e, bs, []⟩

def remainder : Decoder ε Bytes := fun bs => ⟨.ok bs, [], []⟩

/-- The words that fill the data, after those in `done`, last first. -/
def words (done : List UInt16) : Decoder ε (List UInt16)
  | [] => ⟨.ok done.reverse, [], []⟩
  | a :: b :: rest => words (BigEndian.word16 a b :: done) rest
  | [a] => ⟨.error .truncatedInput, [a], []⟩

end Decoder

end TlvCodec
