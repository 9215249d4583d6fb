import TlvCodec.Proofs.Tlv.Sequence

namespace TlvCodec
set_option autoImplicit true

namespace Decoder

variable {p : ε → Prop}

/-- Whatever becomes of it, the decoder notes nothing. -/
def Silent (d : Decoder ε α) : Prop := ∀ bs, (d bs).events = []

/-- All notes are of the kind `p`, and those of a value are `f` of it. -/
def Notes (p : ε → Prop) (f : α → List ε) (d : Decoder ε α) : Prop :=
  ∀ bs, (∀ e ∈ (d bs).events, p e) ∧ ∀ a, (d bs).result = .ok a → (d bs).events = f a

theorem silent_pure (a : α) : Silent (Pure.pure a : Decoder ε α) := fun _ => rfl

theorem silent_fail (e : DecodeError) : Silent (fail e : Decoder ε α) := fun _ => rfl

theorem silent_read (r : Reader α) : Silent (read r : Decoder ε α) := by
  intro bs
  unfold read
  split <;> rfl

theorem silent_need (n : Nat) (e : DecodeError) : Silent (need n e : Decoder ε Unit) := by
  intro bs
  unfold need
  split <;> rfl

theorem silent_remainder : Silent (remainder : Decoder ε Bytes) := fun _ => rfl

theorem silent_words (done : List UInt16) : Silent (words done : Decoder ε (List UInt16)) := by
  intro bs
  induction done, bs using words.induct with
  | case1 done => rfl
  | case2 done a b bs ih => exact ih
  | case3 done a => rfl

theorem Silent.eq {d : Decoder ε α} (hd : d.Silent) (bs : Bytes) :
    (∃ e rest, d bs = ⟨.error e, rest, []⟩) ∨ ∃ a rest, d bs = ⟨.ok a, rest, []⟩ := by
  have hevents := hd bs
  rcases ho : d bs with ⟨e | a, rest, events⟩
  · rw [ho] at hevents
    exact .inl ⟨e, rest, congrArg (Outcome.mk _ rest) hevents⟩
  · rw [ho] at hevents
    exact .inr ⟨a, rest, congrArg (Outcome.mk _ rest) hevents⟩

theorem silent_bind {d : Decoder ε α} {g : α → Decoder ε β} (hd : d.Silent)
    (hg : ∀ a, (g a).Silent) : (d >>= g).Silent := by
  intro bs
  rcases hd.eq bs with ⟨e, rest, ho⟩ | ⟨a, rest, ho⟩
  · rw [bind_of_error ho]
  · rw [bind_of_ok ho, hg a rest]

theorem silent_read_bind {r : Reader α} {g : α → Decoder ε β} (hg : ∀ a, (g a).Silent) :
    (read r >>= g).Silent :=
  silent_bind (silent_read r) hg

theorem silent_guard {c : Prop} [Decidable c] {d : Decoder ε α} {e : DecodeError}
    (hd : d.Silent) : (if c then fail e else d).Silent := by
  split
  · exact silent_fail e
  · exact hd

theorem Silent.notes {d : Decoder ε α} {f : α → List ε} (hd : d.Silent)
    (hf : ∀ bs a, (d bs).result = .ok a → f a = []) : d.Notes p f := by
  intro bs
  rw [hd bs]
  exact ⟨nofun, fun a ha => (hf bs a ha).symm⟩

theorem notes_fail (e : DecodeError) {f : α → List ε} : (fail e : Decoder ε α).Notes p f :=
  (silent_fail e).notes nofun

theorem notes_guard {c : Prop} [Decidable c] {d : Decoder ε α} {e : DecodeError} {f : α → List ε}
    (hd : d.Notes p f) : (if c then fail e else d).Notes p f := by
  split
  · exact notes_fail e
  · exact hd

theorem notes_bind {d : Decoder ε α} {g : α → Decoder ε β} {f : β → List ε} (hd : d.Silent)
    (hg : ∀ a, (g a).Notes p f) : (d >>= g).Notes p f := by
  intro bs
  rcases hd.eq bs with ⟨e, rest, ho⟩ | ⟨a, rest, ho⟩
  · rw [bind_of_error ho]
    exact ⟨nofun, nofun⟩
  · rw [bind_of_ok ho]
    exact hg a rest

theorem notes_read_bind {r : Reader α} {g : α → Decoder ε β} {f : β → List ε}
    (hg : ∀ a, (g a).Notes p f) : (read r >>= g).Notes p f :=
  notes_bind (silent_read r) hg

theorem notes_bind_pure {d : Decoder ε α} {g : α → β} {f : β → List ε}
    (hd : d.Notes p fun a => f (g a)) : (d >>= fun a => Pure.pure (g a)).Notes p f := by
  intro bs
  rw [bind_pure_apply]
  refine ⟨(hd bs).1, fun b hb => ?_⟩
  obtain ⟨a, ha, rfl⟩ := map_eq_ok_iff.mp hb
  exact (hd bs).2 a ha

end Decoder

/-- The parts that end by position `k`, where the first begins at `start`. -/
def endingBy (size : α → Nat) (k start : Nat) : List α → List α
  | [] => []
  | x :: xs => (if start + size x ≤ k then [x] else []) ++ endingBy size k (start + size x) xs

theorem endingBy_eq_nil {size : α → Nat} {k start : Nat} (h : k < start) (xs : List α) :
    endingBy size k start xs = [] := by
  induction xs generalizing start with
  | nil => rfl
  | cons x xs ih =>
    rw [endingBy, if_neg (by omega), ih (by omega)]
    rfl

namespace Registry

variable {ε τ : Type} {r : Registry ε τ} {p : ε → Prop} {f : τ → List ε}

/-- The decoders of a registry note what `f` has for what they yield. -/
structure Notes (r : Registry ε τ) (p : ε → Prop) (f : τ → List ε) : Prop where
  decoders : ∀ code decode, (code, decode) ∈ r.decoders →
    ∀ length, (decode length).Notes p f
  unknown : ∀ t, (∀ e ∈ r.notes t, p e) ∧ r.notes t = f (r.unknown t)

namespace Notes

theorem element (hr : r.Notes p f) (frame : Frame) :
    (∀ e ∈ (r.element frame).2, p e) ∧
      ∀ x, (r.element frame).1 = .ok x → (r.element frame).2 = f x := by
  unfold Registry.element
  cases hd : r.lookup frame.code with
  | none =>
    obtain ⟨hp, hf⟩ := hr.unknown ⟨frame.code, frame.value⟩
    refine ⟨hp, ?_⟩
    rintro x hx
    cases hx
    exact hf
  | some decode =>
    obtain ⟨hp, hf⟩ := hr.decoders _ _ (mem_of_lookup hd) frame.length frame.value
    rcases ho : decode frame.length frame.value with ⟨e | y, _ | ⟨a, rest⟩, events⟩
    · rw [ho] at hp
      simpa [ho] using hp
    · rw [ho] at hp
      simpa [ho] using hp
    · rw [ho] at hp hf
      simpa [ho] using And.intro hp hf
    · rw [ho] at hp
      simpa [ho] using hp

theorem sequence (hr : r.Notes p f) (bound : Bound) :
    (r.sequence bound).Notes p fun xs => xs.flatMap f := by
  intro bs
  induction bs using framing with
  | nil =>
    rw [sequence_nil]
    refine ⟨nofun, ?_⟩
    rintro xs hxs
    cases hxs
    rfl
  | cut bs n rest hne hcut =>
    rw [sequence_cut hcut hne]
    exact ⟨nofun, nofun⟩
  | wire t rest ht ih =>
    obtain ⟨hp, hf⟩ := hr.element t.frame
    rw [sequence_wire ht]
    generalize r.element t.frame = o at hp hf
    obtain ⟨e | x, events⟩ := o
    · exact ⟨hp, nofun⟩
    · refine ⟨fun e he => ?_, fun xs hxs => ?_⟩
      · rcases List.mem_append.mp he with he | he
        · exact hp e he
        · exact ih.1 e he
      · obtain ⟨ys, hs, rfl⟩ := map_eq_ok_iff.mp hxs
        have hx : events = f x := hf x rfl
        change events ++ _ = (x :: ys).flatMap f
        rw [hx, ih.2 ys hs, List.flatMap_cons]

variable {fits : τ → Prop} {tlv : τ → Tlv} {xs : List τ}

/-- A run that is cut has noted the elements that end before the cut. -/
theorem events_sequence_take (hr : r.Notes p f) (hi : r.Inverts fits tlv) (hxs : ∀ x ∈ xs, fits x)
    (bound : Bound) (k start : Nat) :
    (r.sequence bound ((xs.flatMap fun x => (tlv x).wire).take k)).events =
      (endingBy (fun x => (tlv x).wire.length) (start + k) start xs).flatMap f := by
  induction xs generalizing k start with
  | nil =>
    rw [List.flatMap_nil, List.take_nil, sequence_nil]
    rfl
  | cons x xs ih =>
    rw [List.forall_mem_cons] at hxs
    obtain ⟨ht, hx⟩ := hi.complete hxs.1
    rw [List.flatMap_cons, List.take_append, endingBy, List.flatMap_append]
    rcases Nat.lt_or_ge k (tlv x).wire.length with hlt | hle
    · rw [Nat.sub_eq_zero_of_le (Nat.le_of_lt hlt), List.take_zero, List.append_nil,
        if_neg (by omega), endingBy_eq_nil (by omega)]
      by_cases hne : (tlv x).wire.take k = []
      · rw [hne, sequence_nil]
        rfl
      · obtain ⟨n, rest, hcut⟩ := ht.cut_take hlt
        rw [sequence_cut hcut hne]
        rfl
    · obtain ⟨j, rfl⟩ := Nat.exists_eq_add_of_le hle
      have hevents := (hr.element (tlv x).frame).2 x hx
      have hj := ih hxs.2 j (start + (tlv x).wire.length)
      rw [Nat.add_assoc] at hj
      rw [List.take_of_length_le hle, Nat.add_sub_cancel_left, if_pos (by omega), sequence_wire ht,
        ← hj, List.flatMap_singleton, ← hevents]
      generalize (r.element (tlv x).frame) = o at hx
      obtain ⟨e | y, events⟩ := o
      · cases hx
      · rfl

end Notes

end Registry

end TlvCodec
