import TlvCodec.Proofs.Tlv.Sequence

namespace TlvCodec
open BigEndian
set_option autoImplicit true

variable {bs rest : Bytes}

/-- The reader takes `n` octets wherever there are so many. -/
def Reader.Takes (r : Reader α) (n : Nat) : Prop :=
  ∀ bs, n ≤ bs.length → ∃ a, r bs = .ok (a, bs.drop n)

namespace Reader

theorem takes_word16 : word16.Takes 2
  | _ :: _ :: _, _ => ⟨_, rfl⟩

theorem takes_word32 : word32.Takes 4
  | _ :: _ :: _ :: _ :: _, _ => ⟨_, rfl⟩

theorem takes_octets (n : Nat) : (octets n).Takes n :=
  fun _ h => ⟨_, octets_of_le h⟩

end Reader

theorem Ipv6.takes_read : Ipv6.read.Takes 16 := by
  intro bs h
  obtain ⟨octets, he⟩ := Reader.takes_octets 16 bs h
  exact ⟨⟨octets⟩, by rw [read, he]; rfl⟩

theorem Single.takes_read : Single.read.Takes 4 := by
  intro bs h
  obtain ⟨word, he⟩ := Reader.takes_word32 bs h
  exact ⟨.ofWire word, by rw [Single.read, he]; rfl⟩

namespace Decoder

/-- No read of the decoder goes past the end of the data. -/
def HasEnough (d : Decoder ε α) (bs : Bytes) : Prop := (d bs).result ≠ .error .truncatedInput

theorem hasEnough_pure (a : α) (bs : Bytes) : (Pure.pure a : Decoder ε α).HasEnough bs := nofun

theorem hasEnough_malformed (n : UInt16) (bs : Bytes) :
    (fail (.malformedLength n) : Decoder ε α).HasEnough bs :=
  nofun

theorem hasEnough_guard {p : Prop} [Decidable p] {d : Decoder ε α} {n : UInt16}
    (hd : ¬p → d.HasEnough bs) : (if p then fail (.malformedLength n) else d).HasEnough bs := by
  split
  · exact hasEnough_malformed n bs
  · exact hd ‹_›

theorem hasEnough_bind {d : Decoder ε α} {f : α → Decoder ε β} (hd : d.HasEnough bs)
    (hf : ∀ a rest, d.Yields bs a rest → (f a).HasEnough rest) : (d >>= f).HasEnough bs := by
  change (Decoder.bind d f bs).result ≠ _
  unfold HasEnough at hd
  unfold Decoder.bind
  rcases he : d bs with ⟨e | a, rest, events⟩
  · rw [he] at hd
    exact fun h => hd (congrArg Except.error (Except.error.inj h))
  · exact hf a rest ⟨congrArg Outcome.result he, congrArg Outcome.rest he⟩

theorem hasEnough_map {d : Decoder ε α} {f : α → β} (hd : d.HasEnough bs) :
    (f <$> d).HasEnough bs :=
  hasEnough_bind hd fun _ _ _ => hasEnough_pure _ _

theorem hasEnough_read_bind {r : Reader α} {f : α → Decoder ε β} (hr : r.Takes n)
    (hn : n ≤ bs.length) (hf : ∀ a, (f a).HasEnough (bs.drop n)) :
    (read r >>= f).HasEnough bs := by
  obtain ⟨a, ha⟩ := hr bs hn
  rw [HasEnough, bind_of_ok (read_of_ok ha)]
  exact hf a

theorem hasEnough_words (done : List UInt16) (h : bs.length % 2 = 0) :
    (words done : Decoder ε (List UInt16)).HasEnough bs := by
  induction done, bs using words.induct with
  | case1 done =>
    intro h
    cases h
  | case2 done a b bs ih =>
    apply ih
    rw [List.length_cons, List.length_cons] at h
    omega
  | case3 done a => cases h

end Decoder

namespace Registry

variable {ε τ : Type} {r : Registry ε τ} {t : Tlv}

/-- A value that has its declared length is never too short to read. -/
def Guarded (r : Registry ε τ) : Prop :=
  ∀ code decode, (code, decode) ∈ r.decoders → ∀ (length : UInt16) (value : Bytes),
    value.length = length.toNat → (decode length).HasEnough value

namespace Guarded

theorem element (hr : r.Guarded) (ht : t.Fits) :
    (r.element t.frame).1 ≠ .error .truncatedInput := by
  change (r.element ⟨t.code, t.lengthField, t.value⟩).1 ≠ _
  unfold Registry.element
  cases hd : r.lookup t.code with
  | none => exact nofun
  | some decode =>
    have h := hr _ _ (mem_of_lookup hd) t.lengthField t.value ht.toNat_lengthField.symm
    unfold Decoder.HasEnough at h
    rcases ho : decode t.lengthField t.value with ⟨e | x, _ | ⟨a, rest⟩, events⟩
    · simpa only [ho] using h
    · simpa only [ho] using h
    · simp [ho]
    · simp [ho]

theorem one_parent (hr : r.Guarded) (bs : Bytes) : (r.one .parent).HasEnough bs := by
  rcases cut_or_wire bs with ⟨n, rest, hcut⟩ | ⟨t, rest, ht, rfl⟩
  · rw [Decoder.HasEnough, one_cut hcut]
    exact nofun
  · rw [Decoder.HasEnough, one_wire ht]
    exact hr.element ht

theorem sequence_parent (hr : r.Guarded) (bs : Bytes) : (r.sequence .parent).HasEnough bs := by
  unfold Decoder.HasEnough
  induction bs using framing with
  | nil =>
    rw [sequence_nil]
    exact nofun
  | cut bs n rest hne hcut =>
    rw [sequence_cut hcut hne]
    exact nofun
  | wire t rest ht ih =>
    cases he : (r.element t.frame).1 with
    | error e =>
      rw [sequence_wire_error ht he]
      exact fun h => hr.element ht (he.trans (congrArg Except.error (Except.error.inj h)))
    | ok x =>
      rw [sequence_wire_ok ht he, Ne, map_eq_error_iff]
      exact ih

/-- Input is missing only if the data ends inside an element behind sound ones. -/
theorem sequence_truncated_iff (hr : r.Guarded) :
    (r.sequence .buffer bs).result = .error .truncatedInput ↔
      ∃ front tail, bs = front ++ tail ∧ (∃ xs, (r.sequence .buffer front).result = .ok xs) ∧
        tail ≠ [] ∧ ∃ n rest, Cut tail n rest := by
  constructor
  · intro h
    induction bs using framing with
    | nil =>
      rw [sequence_nil] at h
      cases h
    | cut bs n rest hne hcut =>
      exact ⟨[], bs, rfl, ⟨[], congrArg Outcome.result (sequence_nil r .buffer)⟩, hne, n, rest, hcut⟩
    | wire t rest ht ih =>
      cases he : (r.element t.frame).1 with
      | error e =>
        rw [sequence_wire_error ht he] at h
        cases h
        exact absurd he (hr.element ht)
      | ok x =>
        rw [sequence_wire_ok ht he, map_eq_error_iff] at h
        obtain ⟨front, tail, rfl, ⟨xs, hs⟩, htail⟩ := ih h
        refine ⟨t.wire ++ front, tail, (List.append_assoc _ _ _).symm, ⟨x :: xs, ?_⟩, htail⟩
        rw [sequence_wire_ok ht he, hs]
        rfl
  · rintro ⟨front, tail, rfl, ⟨xs, hs⟩, hne, n, rest, hcut⟩
    rw [sequence_append hs, sequence_cut hcut hne]
    rfl

end Guarded

end Registry

end TlvCodec
