import TlvCodec.Proofs.Bytes.Reader
import TlvCodec.Tlv.Decoder

namespace TlvCodec
open BigEndian
set_option autoImplicit true

theorem map_eq_ok_iff {x : Except ε α} {f : α → β} :
    x.map f = .ok b ↔ ∃ a, x = .ok a ∧ f a = b := by
  cases x with
  | error e => simp [Except.map]
  | ok a => simp [Except.map]

theorem map_eq_error_iff {x : Except ε α} {f : α → β} :
    x.map f = .error e ↔ x = .error e := by
  cases x with
  | error e => simp [Except.map]
  | ok a => simp [Except.map]

namespace Decoder

/-- The decoder succeeds with `a` and leaves `rest`, whatever it notes. -/
def Yields (d : Decoder ε α) (bs : Bytes) (a : α) (rest : Bytes) : Prop :=
  (d bs).result = .ok a ∧ (d bs).rest = rest

variable {bs rest : Bytes}

@[simp] theorem yields_pure {a b : α} :
    (Pure.pure a : Decoder ε α).Yields bs b rest ↔ b = a ∧ rest = bs := by
  change Except.ok a = .ok b ∧ bs = rest ↔ _
  simp only [Except.ok.injEq, eq_comm]

@[simp] theorem yields_bind {d : Decoder ε α} {f : α → Decoder ε β} {b : β} :
    (d >>= f).Yields bs b rest ↔ ∃ a mid, d.Yields bs a mid ∧ (f a).Yields mid b rest := by
  change (Decoder.bind d f).Yields bs b rest ↔ _
  unfold Yields Decoder.bind
  rcases d bs with ⟨e | a, mid, events⟩
  · simp
  · constructor
    · intro h
      exact ⟨a, mid, ⟨rfl, rfl⟩, h⟩
    · rintro ⟨_, _, ⟨ha, rfl⟩, h⟩
      cases ha
      exact h

@[simp] theorem yields_map {d : Decoder ε α} {f : α → β} {b : β} :
    (f <$> d).Yields bs b rest ↔ ∃ a, d.Yields bs a rest ∧ b = f a := by
  change (d >>= fun a => Pure.pure (f a)).Yields bs b rest ↔ _
  simp only [yields_bind, yields_pure]
  constructor
  · rintro ⟨a, mid, h, rfl, rfl⟩
    exact ⟨a, h, rfl⟩
  · rintro ⟨a, h, rfl⟩
    exact ⟨a, rest, h, rfl, rfl⟩

@[simp] theorem not_yields_fail {a : α} : ¬(fail e : Decoder ε α).Yields bs a rest := by
  simp [Yields, fail]

@[simp] theorem yields_read {r : Reader α} {a : α} :
    (read r : Decoder ε α).Yields bs a rest ↔ r bs = .ok (a, rest) := by
  unfold Yields read
  rcases r bs with e | ⟨a, mid⟩
  · simp
  · simp

@[simp] theorem yields_remainder {v : Bytes} :
    (remainder : Decoder ε Bytes).Yields bs v rest ↔ v = bs ∧ rest = [] := by
  simp [Yields, remainder, eq_comm]

theorem words_flatMap (done ns : List UInt16) :
    (words done : Decoder ε (List UInt16)) (ns.flatMap octets16) =
      ⟨.ok (done.reverse ++ ns), [], []⟩ := by
  induction ns generalizing done with
  | nil => simp [words]
  | cons n ns ih =>
    simp only [List.flatMap_cons, octets16, List.cons_append, List.nil_append, words,
      word16_octets16, ih, List.reverse_cons, List.append_assoc]

theorem yields_words_sound {done : List UInt16}
    (h : (words done : Decoder ε (List UInt16)).Yields bs ns rest) :
    ∃ later, ns = done.reverse ++ later ∧ bs = later.flatMap octets16 ∧ rest = [] := by
  induction done, bs using words.induct with
  | case1 done =>
    obtain ⟨hn, hr⟩ := h
    cases hn
    exact ⟨[], by simp, rfl, hr.symm⟩
  | case2 done a b bs ih =>
    obtain ⟨later, rfl, rfl, hr⟩ := ih h
    refine ⟨word16 a b :: later, by simp, ?_, hr⟩
    rw [List.flatMap_cons, octets16_word16]
    rfl
  | case3 done a => cases h.1

@[simp] theorem yields_words :
    (words [] : Decoder ε (List UInt16)).Yields bs ns rest ↔
      bs = ns.flatMap octets16 ∧ rest = [] := by
  constructor
  · intro h
    obtain ⟨later, rfl, hb, hr⟩ := yields_words_sound h
    exact ⟨hb, hr⟩
  · rintro ⟨rfl, rfl⟩
    rw [Yields, words_flatMap]
    exact ⟨rfl, rfl⟩

theorem bind_of_ok {d : Decoder ε α} {f : α → Decoder ε β} (h : d bs = ⟨.ok a, rest, []⟩) :
    (d >>= f) bs = f a rest := by
  change Decoder.bind d f bs = _
  unfold Decoder.bind
  rw [h]
  rfl

theorem bind_of_error {d : Decoder ε α} {f : α → Decoder ε β} (h : d bs = ⟨.error e, rest, []⟩) :
    (d >>= f) bs = ⟨.error e, rest, []⟩ := by
  change Decoder.bind d f bs = _
  unfold Decoder.bind
  rw [h]

theorem bind_pure_apply (d : Decoder ε α) (f : α → β) (bs : Bytes) :
    (d >>= fun a => Pure.pure (f a)) bs =
      ⟨(d bs).result.map f, (d bs).rest, (d bs).events⟩ := by
  change Decoder.bind d (fun a => Decoder.pure (f a)) bs = _
  unfold Decoder.bind
  rcases d bs with ⟨e | a, rest, events⟩
  · rfl
  · simp [Decoder.pure, Except.map]

theorem read_of_ok {r : Reader α} (h : r bs = .ok (a, rest)) :
    (read r : Decoder ε α) bs = ⟨.ok a, rest, []⟩ := by
  simp only [read, h]

theorem need_of_le (h : n ≤ bs.length) : (need n e : Decoder ε Unit) bs = ⟨.ok (), bs, []⟩ := by
  rw [need, if_pos (List.length_take_of_le h)]

theorem need_of_lt (h : bs.length < n) : (need n e : Decoder ε Unit) bs = ⟨.error e, bs, []⟩ := by
  rw [need, if_neg]
  rw [List.length_take]
  omega

end Decoder

end TlvCodec
