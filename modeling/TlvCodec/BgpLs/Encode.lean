import TlvCodec.BgpLs.Attribute

namespace TlvCodec.BgpLs

namespace Attribute

/-- What appends an attribute. Unreserved bandwidths have no encoding. -/
def writer? (a : Attribute) : Except EncodeError (Buffer → Buffer) :=
  match a with
  | adminGroup groups => .ok fun b => b.tlv a.code (Buffer.word32 groups)
  | maxLinkBandwidth bandwidth => .ok fun b => b.tlv a.code bandwidth.write
  | maxResvLinkBandwidth bandwidth => .ok fun b => b.tlv a.code bandwidth.write
  | unreservedBandwidth _ => .error (.unsupported a.code)
  | teDefaultMetric metric => .ok fun b => b.tlv a.code (Buffer.word32 metric)
  | unknown tlv => .ok tlv.write

def write? (a : Attribute) (b : Buffer) : Except EncodeError Buffer :=
  a.writer?.map fun append => append b

def write (a : Attribute) (b : Buffer) : Buffer × List Event :=
  match a.writer? with
  | .ok append => (append b, [])
  | .error e => (b, [.attributeSkipped e])

/-- Appends an attribute and counts the octets, or says why it has no encoding. -/
def append? (a : Attribute) (b : Buffer) : Except EncodeError Nat × Buffer :=
  match a.write? b with
  | .ok out => (.ok (out.size - b.size), out)
  | .error e => (.error e, b)

def append (a : Attribute) (b : Buffer) : Nat × Buffer × List Event :=
  match a.append? b with
  | (.ok n, out) => (n, out, [])
  | (.error e, out) => (0, out, [.attributeSkipped e])

end Attribute

structure Request where
  attr : Attribute
  strict : Bool

structure Reply where
  count : Except EncodeError Nat
  buffer : Buffer
  events : List Event

namespace Request

def serve (q : Request) (b : Buffer) : Reply :=
  if q.strict then
    let (count, out) := q.attr.append? b
    ⟨count, out, []⟩
  else
    let (n, out, events) := q.attr.append b
    ⟨.ok n, out, events⟩

/-- Serves requests in order, each with the output of the one before it. -/
def serveAll (b : Buffer) : List Request → List Reply
  | [] => []
  | q :: qs =>
    let reply := q.serve b
    reply :: serveAll reply.buffer qs

end Request

namespace AttributeSet

def writeFrom (b : Buffer) (noted : List Event) : List Attribute → Buffer × List Event
  | [] => (b, noted.reverse)
  | a :: as =>
    let (b, events) := a.write b
    writeFrom b (events.reverseAux noted) as

def write (s : AttributeSet) : Buffer × List Event := writeFrom #[] [] s.attributes

def encode (s : AttributeSet) : Bytes := s.write.1.toList

end AttributeSet

end TlvCodec.BgpLs
