import TlvCodec.Proofs.Tlv.Wire
import TlvCodec.Proofs.Trap.Basic
import TlvCodec.Tlv.Registry

namespace TlvCodec.Trapping
open BigEndian TlvCodec.Trapping.Decoder
set_option autoImplicit true

def split (bound : Bound) : Decoder ε Frame := do
  let left ← remaining
  if left < headerSize then fail (bound.overrun (UInt16.ofNat left))
  else
    let code ← read .word16
    let length ← read .word16
    if (← remaining) < length.toNat then fail (bound.overrun length)
    else return ⟨code, length, ← splitTo length.toNat⟩

theorem split_eq (bound : Bound) (bs : Bytes) :
    (split bound : Decoder ε Frame) bs =
      .ok ⟨(Frame.split bound bs).1, (Frame.split bound bs).2, []⟩ := by
  unfold split
  rw [remaining_bind]
  match bs with
  | [] | [_] | [_, _] | [_, _, _] => rfl
  | a :: b :: c :: d :: rest =>
    have hcode : (read .word16 : Decoder ε _) (a :: b :: c :: d :: rest) =
        .ok ⟨.ok (word16 a b), c :: d :: rest, []⟩ := rfl
    have hlength : (read .word16 : Decoder ε _) (c :: d :: rest) =
        .ok ⟨.ok (word16 c d), rest, []⟩ := rfl
    rw [if_neg (by simp [headerSize]), bind_of_ok hcode, bind_of_ok hlength, remaining_bind]
    unfold Frame.split
    rcases Nat.lt_or_ge rest.length (word16 c d).toNat with h | h
    · rw [if_pos h]
      simp only [Reader.split_of_lt h]
      rfl
    · have hsplit : (splitTo (word16 c d).toNat : Decoder ε _) rest =
          .ok ⟨.ok (rest.take (word16 c d).toNat), rest.drop (word16 c d).toNat, []⟩ := if_pos h
      rw [if_neg (Nat.not_lt.mpr h), bind_of_ok hsplit]
      simp only [Reader.split_of_le h]
      rfl

/-- A registry whose decoders may trap. -/
structure Registry (ε τ : Type) where
  decoders : List (UInt16 × (UInt16 → Decoder ε τ))
  unknown : Tlv → τ
  notes : Tlv → List ε

namespace Registry

variable {ε τ : Type}

def keep (r : Registry ε τ) (tlv : Tlv) : Decoder ε τ :=
  lift fun bs => ⟨.ok (r.unknown tlv), bs, r.notes tlv⟩

def element (r : Registry ε τ) (frame : Frame) : Decoder ε τ :=
  match r.decoders.lookup frame.code with
  | none => r.keep ⟨frame.code, frame.value⟩
  | some decode => apart frame.value do
    let t ← decode frame.length
    if 0 < (← remaining) then fail (.malformedLength frame.length) else return t

def one (r : Registry ε τ) (bound : Bound) : Decoder ε τ := do
  r.element (← split bound)

theorem rest_of_element {r : Registry ε τ} (h : r.element frame bs = .ok o) : o.rest = bs := by
  unfold element at h
  cases hd : r.decoders.lookup frame.code with
  | none =>
    simp only [hd] at h
    cases h
    rfl
  | some decode =>
    simp only [hd, apart] at h
    split at h
    · cases h
    · cases h
      rfl

/-- Each element makes the data shorter, so that a run ends. -/
theorem length_lt_of_one {r : Registry ε τ}
    (h : r.one bound bs = .ok ⟨.ok t, rest, events⟩) : rest.length < bs.length := by
  change Decoder.bind _ _ bs = _ at h
  simp only [Decoder.bind, split_eq] at h
  rcases hs : Frame.split bound bs with ⟨e | frame, mid⟩
  · simp [hs] at h
  · simp only [hs] at h
    split at h
    · cases h
    · rename_i o he
      simp only [Except.ok.injEq, Outcome.mk.injEq] at h
      have hl := Frame.length_of_split hs
      rw [← h.2.1, rest_of_element he]
      simp only [headerSize] at hl
      omega

def sequenceAfter (r : Registry ε τ) (bound : Bound) (done : List τ) (noted : List ε)
    (bs : Bytes) : Trapping (Outcome ε (List τ)) :=
  if bs.isEmpty then .ok ⟨.ok done.reverse, bs, noted.reverse⟩
  else
    match _h : r.one bound bs with
    | .error trap => .error trap
    | .ok ⟨.error e, rest, events⟩ => .ok ⟨.error e, rest, (events.reverseAux noted).reverse⟩
    | .ok ⟨.ok t, rest, events⟩ =>
      sequenceAfter r bound (t :: done) (events.reverseAux noted) rest
termination_by bs.length
decreasing_by exact length_lt_of_one _h

def sequence (r : Registry ε τ) (bound : Bound) : Decoder ε (List τ) :=
  r.sequenceAfter bound [] []

def bounded (r : Registry ε τ) (budget : UInt16) : Decoder ε (List τ) := do
  apart (← trySplitTo budget.toNat) (r.sequence .parent)

theorem sequence_of_trap {r : Registry ε τ} {decode : UInt16 → Decoder ε τ} {t : Tlv} {trap : Trap}
    (ht : t.Fits) (hd : r.decoders.lookup t.code = some decode)
    (h : decode t.lengthField t.value = .error trap) (bound : Bound) (rest : Bytes) :
    r.sequence bound (t.wire ++ rest) = .error trap := by
  have helement : r.element t.frame rest = .error trap := by
    unfold element
    simp only [Tlv.frame, hd, apart, bind_of_trap h]
  have hsplit : (split bound : Decoder ε Frame) (t.wire ++ rest) = .ok ⟨.ok t.frame, rest, []⟩ := by
    rw [split_eq, Frame.split_wire ht]
  have hone : r.one bound (t.wire ++ rest) = .error trap :=
    (bind_of_ok hsplit r.element).trans helement
  rw [sequence, sequenceAfter, if_neg (by simp [Tlv.wire_ne_nil])]
  split
  · rename_i hone'
    rw [hone] at hone'
    cases hone'
    rfl
  · rename_i hone'
    rw [hone] at hone'
    cases hone'
  · rename_i hone'
    rw [hone] at hone'
    cases hone'

/-- A registry none of whose decoders traps. -/
def lift (r : TlvCodec.Registry ε τ) : Registry ε τ where
  decoders := r.decoders.map fun (code, decode) => (code, fun length => .lift (decode length))
  unknown := r.unknown
  notes := r.notes

theorem lookup_lift (r : TlvCodec.Registry ε τ) (code : UInt16) :
    (lift r).decoders.lookup code =
      (r.lookup code).map fun decode length => .lift (decode length) := by
  unfold lift TlvCodec.Registry.lookup
  induction r.decoders with
  | nil => rfl
  | cons entry decoders ih =>
    rw [List.map_cons, List.lookup_cons, List.lookup_cons, ih]
    cases code == entry.1 with
    | true => rfl
    | false => rfl

theorem element_lift (r : TlvCodec.Registry ε τ) (frame : Frame) (bs : Bytes) :
    (lift r).element frame bs = .ok ⟨(r.element frame).1, bs, (r.element frame).2⟩ := by
  unfold element TlvCodec.Registry.element
  rw [lookup_lift]
  cases r.lookup frame.code with
  | none => rfl
  | some decode =>
    change apart _ (Decoder.bind _ _) bs = _
    simp only [apart, Decoder.bind, Decoder.lift, remaining_bind]
    rcases decode frame.length frame.value with ⟨e | t, _ | ⟨a, rest⟩, events⟩
    · rfl
    · rfl
    · simp [Pure.pure, Decoder.pure]
    · simp [fail, Decoder.lift, TlvCodec.Decoder.fail]

theorem one_lift (r : TlvCodec.Registry ε τ) (bound : Bound) :
    (lift r).one bound = .lift (r.one bound) := by
  funext bs
  change Decoder.bind _ _ bs = .ok _
  simp only [Decoder.bind, TlvCodec.Registry.one, split_eq]
  rcases Frame.split bound bs with ⟨e | frame, rest⟩
  · rfl
  · simp [element_lift]

theorem sequenceAfter_lift (r : TlvCodec.Registry ε τ) (bound : Bound) (done : List τ)
    (noted : List ε) (bs : Bytes) :
    (lift r).sequenceAfter bound done noted bs = .ok (r.sequenceAfter bound done noted bs) := by
  have hone := congrFun (one_lift r bound)
  fun_induction TlvCodec.Registry.sequenceAfter r bound done noted bs with
  | case1 done noted bs hempty => rw [sequenceAfter, if_pos hempty]
  | case2 done noted bs hempty e rest events h =>
    have hs := (hone bs).trans (congrArg Except.ok h)
    rw [sequenceAfter, if_neg hempty]
    split
    · rename_i he
      rw [hs] at he
      cases he
    · rename_i he
      rw [hs] at he
      cases he
      rfl
    · rename_i he
      rw [hs] at he
      cases he
  | case3 done noted bs hempty t rest events h ih =>
    have hs := (hone bs).trans (congrArg Except.ok h)
    rw [sequenceAfter, if_neg hempty]
    split
    · rename_i he
      rw [hs] at he
      cases he
    · rename_i he
      rw [hs] at he
      cases he
    · rename_i he
      rw [hs] at he
      cases he
      exact ih

theorem sequence_lift (r : TlvCodec.Registry ε τ) (bound : Bound) :
    (lift r).sequence bound = .lift (r.sequence bound) :=
  funext (sequenceAfter_lift r bound [] [])

theorem bounded_lift (r : TlvCodec.Registry ε τ) (budget : UInt16) :
    (lift r).bounded budget = .lift (r.bounded budget) := by
  unfold bounded
  rw [trySplitTo_eq, sequence_lift]
  funext bs
  change Decoder.bind _ _ bs = .ok _
  simp only [Decoder.bind, Decoder.read, Decoder.lift, TlvCodec.Decoder.read,
    TlvCodec.Registry.bounded]
  rcases Reader.split budget.toNat bs with e | ⟨part, rest⟩
  · rfl
  · simp [apart, Decoder.lift]

/-- On no data does the registry trap, and it decodes as `r₀` does. -/
structure RunsAs (r : Registry ε τ) (r₀ : TlvCodec.Registry ε τ) : Prop where
  one : ∀ bound, (r.one bound).RunsAs (r₀.one bound)
  sequence : ∀ bound, (r.sequence bound).RunsAs (r₀.sequence bound)
  bounded : ∀ budget, (r.bounded budget).RunsAs (r₀.bounded budget)

theorem runsAs_of_eq {r : Registry ε τ} {r₀ : TlvCodec.Registry ε τ} (h : r = lift r₀) :
    r.RunsAs r₀ where
  one bound := Decoder.runsAs_of_eq (h ▸ one_lift r₀ bound)
  sequence bound := Decoder.runsAs_of_eq (h ▸ sequence_lift r₀ bound)
  bounded budget := Decoder.runsAs_of_eq (h ▸ bounded_lift r₀ budget)

end Registry

def closeTlv (start : Nat) (b : Buffer) : Trapping Buffer := do
  let length ← sub (← sub b.size start) headerSize
  let octets := octets16 (UInt16.ofNat (min length 65535))
  return (← overwrite b.toList (start + 2) (start + 4) octets).toArray

def writeElement (code : UInt16) (body : Buffer → Trapping Buffer) (b : Buffer) :
    Trapping Buffer := do
  let start := b.size
  closeTlv start (← body (b.openTlv code))

theorem closeTlv_eq {b : Buffer}
    (h : b.toList = before ++ (octets16 code ++ (octets16 n ++ value))) :
    closeTlv before.length b = .ok (b.closeTlv before.length) := by
  have hsize := Buffer.size_of_element h
  have hstart : sub b.size before.length = .ok (b.size - before.length) :=
    sub_of_le (by omega)
  have hlength : sub (b.size - before.length) headerSize = .ok value.length := by
    rw [sub_of_le (by omega)]
    congr 1
    omega
  have hfield : overwrite b.toList (before.length + 2) (before.length + 4)
      (octets16 (UInt16.ofNat (min value.length 65535))) =
        .ok (before ++ (Tlv.mk code value).wire) := by
    rw [h, ← List.append_assoc]
    simpa [Tlv.wire, Tlv.lengthField] using overwrite_append (before ++ octets16 code) (octets16 n)
      (octets16 (Tlv.mk code value).lengthField) value rfl
  have hout : (before ++ (Tlv.mk code value).wire).toArray = b.closeTlv before.length := by
    rw [← Buffer.toList_closeTlv h]
  simp only [closeTlv, Bind.bind, Except.bind, hstart, hlength, hfield, hout, Pure.pure, Except.pure]

/-- A body that only appends leaves room for its length. -/
theorem writeElement_eq {body₀ : Buffer → Buffer} {body : Buffer → Trapping Buffer}
    (hbody : ∀ b, body b = .ok (body₀ b)) (happend : ∀ b, (body₀ b).toList = b.toList ++ value)
    (code : UInt16) (b : Buffer) : writeElement code body b = .ok (b.tlv code body₀) := by
  have hout : (body₀ (b.openTlv code)).toList =
      b.toList ++ (octets16 code ++ (octets16 0 ++ value)) := by
    rw [happend, Buffer.toList_openTlv]
    simp only [List.append_assoc]
  rw [writeElement, hbody]
  exact closeTlv_eq hout

example : writeElement 1 (fun _ => return #[]) #[] = .error .belowZero := rfl

def decodeTlv : Decoder ε Tlv := do
  let frame ← split .buffer
  return ⟨frame.code, frame.value⟩

def writeTlv (t : Tlv) (b : Buffer) : Trapping Buffer :=
  writeElement t.code (fun b => return b.bytes t.value) b

theorem decodeTlv_eq (bs : Bytes) :
    (decodeTlv : Decoder ε Tlv) bs = .ok ⟨(Tlv.decode bs).1, (Tlv.decode bs).2, []⟩ := by
  unfold decodeTlv
  change Decoder.bind _ _ bs = _
  simp only [Decoder.bind, split_eq, Tlv.decode]
  rcases Frame.split .buffer bs with ⟨e | frame, rest⟩
  · rfl
  · rfl

theorem writeTlv_eq (t : Tlv) (b : Buffer) : writeTlv t b = .ok (t.write b) :=
  writeElement_eq (fun _ => rfl) (Buffer.toList_bytes t.value) t.code b

end TlvCodec.Trapping
