import TlvCodec.Proofs.Tlv.Decoder

namespace TlvCodec
open BigEndian
set_option autoImplicit true

/-- What ends a program before it has a result. -/
inductive Trap where
  | splitPastEnd
  | rangeOutside
  | lengthMismatch
  | belowZero
  | pastWidth
  | tooDeep
deriving DecidableEq, Repr

/-- A computation that traps where an operation is used outside its domain. -/
abbrev Trapping (α : Type) := Except Trap α

namespace Trapping

def sub (m n : Nat) : Trapping Nat := if n ≤ m then .ok (m - n) else .error .belowZero

def sub16 (m n : UInt16) : Trapping UInt16 := if n ≤ m then .ok (m - n) else .error .belowZero

def add8 (m n : UInt8) : Trapping UInt8 :=
  if m.toNat + n.toNat < 256 then .ok (m + n) else .error .pastWidth

def range (bs : Bytes) (start stop : Nat) : Trapping Bytes :=
  if start ≤ stop ∧ stop ≤ bs.length then .ok ((bs.take stop).drop start)
  else .error .rangeOutside

def overwrite (bs : Bytes) (start stop : Nat) (new : Bytes) : Trapping Bytes := do
  let old ← range bs start stop
  if old.length = new.length then return bs.take start ++ new ++ bs.drop stop
  else throw .lengthMismatch

theorem sub_of_le {m n : Nat} (h : n ≤ m) : sub m n = .ok (m - n) := if_pos h

theorem range_of_le {start stop : Nat} {bs : Bytes} (hs : start ≤ stop) (hl : stop ≤ bs.length) :
    range bs start stop = .ok ((bs.take stop).drop start) :=
  if_pos ⟨hs, hl⟩

theorem overwrite_append (front old new back : Bytes) (h : old.length = new.length) :
    overwrite (front ++ (old ++ back)) front.length (front.length + new.length) new =
      .ok (front ++ (new ++ back)) := by
  have hrange : range (front ++ (old ++ back)) front.length (front.length + new.length) =
      .ok old := by
    rw [range_of_le (by omega) (by simp only [List.length_append]; omega), ← h]
    simp [List.take_append]
  unfold overwrite
  rw [hrange, ← h]
  simp [h, bind, Except.bind, pure, Except.pure, List.drop_append]

/-- A decoder that traps, or has an outcome. -/
def Decoder (ε α : Type) := Bytes → Trapping (Outcome ε α)

namespace Decoder

def pure (a : α) : Decoder ε α := fun bs => .ok ⟨.ok a, bs, []⟩

def bind (d : Decoder ε α) (f : α → Decoder ε β) : Decoder ε β := fun bs =>
  match d bs with
  | .error trap => .error trap
  | .ok ⟨.error e, rest, events⟩ => .ok ⟨.error e, rest, events⟩
  | .ok ⟨.ok a, rest, events⟩ =>
    match f a rest with
    | .error trap => .error trap
    | .ok o => .ok ⟨o.result, o.rest, events ++ o.events⟩

instance : Monad (Decoder ε) where
  pure := pure
  bind := bind

/-- The decoder as one that could trap and does not. -/
def lift (d : TlvCodec.Decoder ε α) : Decoder ε α := fun bs => .ok (d bs)

/-- The decoder never traps, and its outcome is that of `d₀`. -/
def RunsAs (d : Decoder ε α) (d₀ : TlvCodec.Decoder ε α) : Prop := ∀ bs, d bs = .ok (d₀ bs)

def compute (x : Trapping α) : Decoder ε α := fun bs =>
  match x with
  | .error trap => .error trap
  | .ok a => .ok ⟨.ok a, bs, []⟩

/-- Decodes data apart from the rest; what is left of it is lost. -/
def apart (part : Bytes) (d : Decoder ε α) : Decoder ε α := fun bs =>
  match d part with
  | .error trap => .error trap
  | .ok o => .ok ⟨o.result, bs, o.events⟩

def fail (e : DecodeError) : Decoder ε α := lift (.fail e)

def read (r : Reader α) : Decoder ε α := lift (.read r)

def remaining : Decoder ε Nat := fun bs => .ok ⟨.ok bs.length, bs, []⟩

def splitTo (n : Nat) : Decoder ε Bytes := fun bs =>
  if n ≤ bs.length then .ok ⟨.ok (bs.take n), bs.drop n, []⟩ else .error .splitPastEnd

def trySplitTo (n : Nat) : Decoder ε Bytes := do
  if (← remaining) < n then fail .truncatedInput else splitTo n

def splitRemaining : Decoder ε Bytes := do
  splitTo (← remaining)

def word24 : Decoder ε UInt32 := do
  let target ← compute (range [0, 0, 0, 0] 1 4)
  let octets ← read (.octets target.length)
  let word ← compute (overwrite [0, 0, 0, 0] 1 4 octets.val)
  return UInt32.ofNat (word.foldl (fun n b => n * 256 + b.toNat) 0)

theorem runsAs_of_eq {d : Decoder ε α} {d₀ : TlvCodec.Decoder ε α} (h : d = lift d₀) :
    d.RunsAs d₀ :=
  congrFun h

@[simp] theorem lift_pure (a : α) : lift (Pure.pure a : TlvCodec.Decoder ε α) = Pure.pure a := rfl

@[simp] theorem lift_bind (d : TlvCodec.Decoder ε α) (f : α → TlvCodec.Decoder ε β) :
    lift (d >>= f) = lift d >>= fun a => lift (f a) := by
  funext bs
  change Except.ok (TlvCodec.Decoder.bind d f bs) = bind (lift d) (fun a => lift (f a)) bs
  unfold TlvCodec.Decoder.bind bind lift
  rcases d bs with ⟨e | a, rest, events⟩
  · rfl
  · rfl

@[simp] theorem lift_map (d : TlvCodec.Decoder ε α) (f : α → β) :
    lift (f <$> d) = f <$> lift d :=
  lift_bind d _

@[simp] theorem lift_fail (e : DecodeError) : lift (.fail e : TlvCodec.Decoder ε α) = fail e := rfl

@[simp] theorem lift_read (r : Reader α) : lift (.read r : TlvCodec.Decoder ε α) = read r := rfl

@[simp] theorem lift_ite {p : Prop} [Decidable p] (d d' : TlvCodec.Decoder ε α) :
    lift (if p then d else d') = if p then lift d else lift d' :=
  apply_ite lift p d d'

theorem bind_of_ok {d : Decoder ε α} (h : d bs = .ok ⟨.ok a, rest, []⟩) (f : α → Decoder ε β) :
    (d >>= f) bs = f a rest := by
  change bind d f bs = _
  simp only [bind, h]
  rcases f a rest with trap | o
  · rfl
  · rfl

theorem bind_of_trap {d : Decoder ε α} (h : d bs = .error trap) (f : α → Decoder ε β) :
    (d >>= f) bs = .error trap := by
  change bind d f bs = _
  simp only [bind, h]

theorem remaining_bind (f : Nat → Decoder ε α) (bs : Bytes) :
    (remaining >>= f) bs = f bs.length bs :=
  bind_of_ok rfl f

theorem compute_bind {x : Trapping α} (h : x = .ok a) (f : α → Decoder ε β) :
    (compute x >>= f) = f a := by
  funext bs
  exact bind_of_ok (by rw [h]; rfl) f

@[simp] theorem remaining_guard (n : Nat) (e : DecodeError) (d : Decoder ε α) :
    (do if (← remaining) < n then fail e else d) = lift (.need n e) >>= fun _ => d := by
  funext bs
  rw [remaining_bind]
  rcases Nat.lt_or_ge bs.length n with h | h
  · rw [if_pos h]
    change _ = bind (lift (.need n e)) _ bs
    simp only [bind, lift, TlvCodec.Decoder.need_of_lt h]
    rfl
  · have hneed : (lift (.need n e) : Decoder ε Unit) bs = .ok ⟨.ok (), bs, []⟩ := by
      rw [lift, TlvCodec.Decoder.need_of_le h]
    rw [if_neg (Nat.not_lt.mpr h), bind_of_ok hneed]

/-- What was tested to be there can be split off. -/
@[simp] theorem trySplitTo_eq (n : Nat) : (trySplitTo n : Decoder ε Bytes) = read (.split n) := by
  funext bs
  unfold trySplitTo
  rw [remaining_bind]
  rcases Nat.lt_or_ge bs.length n with h | h
  · rw [if_pos h]
    simp only [fail, read, lift, TlvCodec.Decoder.fail, TlvCodec.Decoder.read, Reader.split_of_lt h]
  · rw [if_neg (Nat.not_lt.mpr h), splitTo, if_pos h]
    simp only [read, lift, TlvCodec.Decoder.read, Reader.split_of_le h]

example : (splitTo 3 : Decoder Unit Bytes) [1, 2] = .error .splitPastEnd := rfl

@[simp] theorem splitRemaining_eq : (splitRemaining : Decoder ε Bytes) = lift .remainder := by
  funext bs
  unfold splitRemaining
  rw [remaining_bind, splitTo, if_pos (Nat.le_refl _), List.take_length, List.drop_length]
  rfl

@[simp] theorem word24_eq : (word24 : Decoder ε UInt32) = read .word24 := by
  have htarget : range [0, 0, 0, 0] 1 4 = .ok [0, 0, 0] := rfl
  funext bs
  unfold word24
  rw [compute_bind htarget]
  match bs with
  | [] | [_] | [_, _] => rfl
  | a :: b :: c :: rest =>
    have hread : (read (.octets 3) : Decoder ε _) (a :: b :: c :: rest) =
        .ok ⟨.ok ⟨[a, b, c], rfl⟩, rest, []⟩ := by
      have hlen : 3 ≤ (a :: b :: c :: rest).length := Nat.le_add_left 3 rest.length
      rw [read, lift, TlvCodec.Decoder.read_of_ok (Reader.octets_of_le hlen)]
      rfl
    have hword : overwrite [0, 0, 0, 0] 1 4 [a, b, c] = .ok [0, a, b, c] := rfl
    have hfold : [0, a, b, c].foldl (fun n b => n * 256 + b.toNat) 0 =
        a.toNat * 65536 + b.toNat * 256 + c.toNat := by
      simp only [List.foldl, UInt8.toNat_zero]
      omega
    refine (bind_of_ok hread _).trans ?_
    rw [compute_bind hword, hfold]
    rfl

end Decoder

def writeWord24 (n : UInt32) (b : Buffer) : Trapping Buffer := do
  return b.bytes (← range (octets32 n) 1 4)

theorem writeWord24_eq (n : UInt32) (b : Buffer) : writeWord24 n b = .ok (b.word24 n) := rfl

end Trapping

end TlvCodec
