import TlvCodec.Json.Shape
import TlvCodec.Tlv.Decoder

namespace TlvCodec

def headerSize : Nat := 4

/-- An element kept as it came: a code and the octets of its value. -/
structure Tlv where
  code : UInt16
  value : Bytes
deriving DecidableEq

namespace Buffer

/-- Writes a header whose length is filled in by `closeTlv`. -/
def openTlv (code : UInt16) (b : Buffer) : Buffer := word16 0 (b.word16 code)

/-- Fills in the length at `start`, or the largest one if it does not fit. -/
def closeTlv (start : Nat) (b : Buffer) : Buffer :=
  let length := min (b.size - start - headerSize) 65535
  (b.setIfInBounds (start + 2) (UInt8.ofNat (length / 256))).setIfInBounds (start + 3)
    (UInt8.ofNat length)

def tlv (code : UInt16) (body : Buffer → Buffer) (b : Buffer) : Buffer :=
  let start := b.size
  closeTlv start (body (openTlv code b))

end Buffer

/-- An element as framed in a buffer, with its declared length. -/
structure Frame where
  code : UInt16
  length : UInt16
  value : Bytes

/-- Splits the next element off. A header is gone even if its value is missing. -/
def Frame.split (bound : Bound) : Bytes → Except DecodeError Frame × Bytes
  | a :: b :: c :: d :: rest =>
    let length := BigEndian.word16 c d
    match Reader.split length.toNat rest with
    | .ok (value, rest) => (.ok ⟨BigEndian.word16 a b, length, value⟩, rest)
    | .error _ => (.error (bound.overrun length), rest)
  | bs => (.error (bound.overrun (UInt16.ofNat bs.length)), bs)

theorem Frame.length_of_split {bound : Bound} {bs rest : Bytes} {frame : Frame}
    (h : Frame.split bound bs = (.ok frame, rest)) :
    bs.length = headerSize + frame.length.toNat + rest.length := by
  unfold Frame.split at h
  split at h
  · rename_i a b c d tail
    by_cases hle : (BigEndian.word16 c d).toNat ≤ tail.length
    · simp only [Reader.split_of_le hle, Prod.mk.injEq, Except.ok.injEq] at h
      obtain ⟨rfl, rfl⟩ := h
      simp [headerSize]
      omega
    · simp [Reader.split_of_lt (Nat.lt_of_not_le hle)] at h
  · simp at h

namespace Tlv

def valueLength (t : Tlv) : Nat := t.value.length

def length (t : Tlv) : Nat := headerSize + t.valueLength

def write (t : Tlv) (b : Buffer) : Buffer := b.tlv t.code (Buffer.bytes t.value)

def encode (t : Tlv) : Bytes := (t.write #[]).toList

def decode (bs : Bytes) : Except DecodeError Tlv × Bytes :=
  match Frame.split .buffer bs with
  | (.ok frame, rest) => (.ok ⟨frame.code, frame.value⟩, rest)
  | (.error e, rest) => (.error e, rest)

def toJson (t : Tlv) : Json :=
  .object [("tlv_type", .nat t.code.toNat), ("value", .octets t.value)]

def ofJson? (v : Json) : Option Tlv := do
  match ← v.record? ["tlv_type", "value"] with
  | [code, value] => return ⟨← code.word16?, ← value.octetsOrText?⟩
  | _ => none

end Tlv

end TlvCodec
