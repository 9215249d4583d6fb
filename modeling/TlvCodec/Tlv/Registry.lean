import TlvCodec.Tlv.Basic

namespace TlvCodec

/-- The decoders of values by code, and what is made of other elements. -/
structure Registry (ε τ : Type) where
  decoders : List (UInt16 × (UInt16 → Decoder ε τ))
  unknown : Tlv → τ
  notes : Tlv → List ε

namespace Registry

variable {ε τ : Type}

def lookup (r : Registry ε τ) (code : UInt16) : Option (UInt16 → Decoder ε τ) :=
  r.decoders.lookup code

/-- Decodes the value of an element, which its decoder has to use up. -/
def element (r : Registry ε τ) (frame : Frame) : Except DecodeError τ × List ε :=
  match r.lookup frame.code with
  | none => (.ok (r.unknown ⟨frame.code, frame.value⟩), r.notes ⟨frame.code, frame.value⟩)
  | some decode =>
    match decode frame.length frame.value with
    | ⟨.ok t, [], events⟩ => (.ok t, events)
    | ⟨.ok _, _ :: _, events⟩ => (.error (.malformedLength frame.length), events)
    | ⟨.error e, _, events⟩ => (.error e, events)

def one (r : Registry ε τ) (bound : Bound) : Decoder ε τ := fun bs =>
  match Frame.split bound bs with
  | (.ok frame, rest) =>
    let (result, events) := r.element frame
    ⟨result, rest, events⟩
  | (.error e, rest) => ⟨.error e, rest, []⟩

theorem length_lt_of_one {r : Registry ε τ} {bound : Bound} {bs rest : Bytes} {t : τ}
    {events : List ε} (h : r.one bound bs = ⟨.ok t, rest, events⟩) : rest.length < bs.length := by
  unfold one at h
  split at h
  · rename_i frame tail hs
    have hl := Frame.length_of_split hs
    simp only [Outcome.mk.injEq] at h
    obtain ⟨-, rfl, -⟩ := h
    simp only [headerSize] at hl
    omega
  · simp at h

/-- The elements in `done` and the events in `noted` came before, last first. -/
def sequenceAfter (r : Registry ε τ) (bound : Bound) (done : List τ) (noted : List ε)
    (bs : Bytes) : Outcome ε (List τ) :=
  if bs.isEmpty then ⟨.ok done.reverse, bs, noted.reverse⟩
  else
    match _h : r.one bound bs with
    | ⟨.error e, rest, events⟩ => ⟨.error e, rest, (events.reverseAux noted).reverse⟩
    | ⟨.ok t, rest, events⟩ =>
      sequenceAfter r bound (t :: done) (events.reverseAux noted) rest
termination_by bs.length
decreasing_by exact length_lt_of_one _h

/-- Decodes elements until the data is used up. The first fault ends it. -/
def sequence (r : Registry ε τ) (bound : Bound) : Decoder ε (List τ) :=
  r.sequenceAfter bound [] []

/-- Decodes elements of exactly the next `budget` octets, which are gone in any case. -/
def bounded (r : Registry ε τ) (budget : UInt16) : Decoder ε (List τ) := fun bs =>
  match Reader.split budget.toNat bs with
  | .ok (part, rest) =>
    let o := r.sequence .parent part
    ⟨o.result, rest, o.events⟩
  | .error _ => ⟨.error .truncatedInput, bs, []⟩

end Registry

end TlvCodec
