import TlvCodec.Proofs.Tlv.Consumption

namespace TlvCodec
set_option autoImplicit true

namespace Decoder

/-- Where the decoder succeeds, it leaves nothing. -/
def Exhausts (d : Decoder ε α) : Prop := ∀ bs a rest, d.Yields bs a rest → rest = []

theorem exhausts_remainder : (remainder : Decoder ε Bytes).Exhausts := by
  intro bs a rest h
  exact (yields_remainder.mp h).2

theorem exhausts_words : (words [] : Decoder ε (List UInt16)).Exhausts := by
  intro bs ns rest h
  exact (yields_words.mp h).2

theorem exhausts_sequence (r : Registry ε τ) (bound : Bound) : (r.sequence bound).Exhausts := by
  intro bs xs rest h
  rw [← h.2]
  exact Registry.sequence_rest h.1

theorem exhausts_bind {d : Decoder ε α} {f : α → Decoder ε β} (h : ∀ a, (f a).Exhausts) :
    (d >>= f).Exhausts := by
  intro bs b rest hy
  obtain ⟨a, mid, -, hf⟩ := yields_bind.mp hy
  exact h a mid b rest hf

theorem exhausts_guard {p : Prop} [Decidable p] {d : Decoder ε α} (h : d.Exhausts) :
    (if p then fail e else d).Exhausts := by
  intro bs a rest hy
  split at hy
  · exact absurd hy not_yields_fail
  · exact h bs a rest hy

theorem exhausts_return {d : Decoder ε α} (h : d.Exhausts) (f : α → β) :
    (do return f (← d) : Decoder ε β).Exhausts := by
  intro bs b rest hy
  simp only [yields_bind, yields_pure] at hy
  obtain ⟨a, mid, ha, -, rfl⟩ := hy
  exact h bs a rest ha

/-- What the decoder makes of data, as sent, and what it leaves are the data. -/
def Lossless (decode : UInt16 → Decoder ε α) (sent : α → Bytes) : Prop :=
  ∀ (len : UInt16) (bs : Bytes) (a : α) (rest : Bytes), (decode len).Yields bs a rest →
    sent a ++ rest = bs ∧ (len.toNat = bs.length → rest = [])

variable {decode : UInt16 → Decoder ε α} {sent : α → Bytes}

theorem lossless_of_sound
    (h : ∀ {len bs a rest}, (decode len).Yields bs a rest →
      bs = sent a ++ rest ∧ (rest = [] ∨ len.toNat = (sent a).length)) :
    Lossless decode sent := by
  intro len bs a rest hy
  obtain ⟨rfl, hrest⟩ := h hy
  refine ⟨rfl, ?_⟩
  intro hlen
  obtain hnil | hsent := hrest
  · exact hnil
  · rw [hsent, List.length_append] at hlen
    exact List.eq_nil_of_length_eq_zero (Nat.left_eq_add.mp hlen)

theorem lossless_of_exhausts
    (h : ∀ {len bs a rest}, (decode len).Yields bs a rest → bs = sent a ++ rest)
    (hex : ∀ len, (decode len).Exhausts) : Lossless decode sent :=
  lossless_of_sound fun hy => ⟨h hy, .inl (hex _ _ _ _ hy)⟩

end Decoder

namespace Registry

theorem one_of_lossless {r : Registry ε τ} {decode : UInt16 → Decoder ε τ} {sent : τ → Bytes}
    {bs : Bytes} (hd : r.lookup (declaredCode bs) = some decode)
    (hloss : Decoder.Lossless decode sent)
    (h : headerSize + (declaredLength bs).toNat ≤ bs.length) (bound : Bound) :
    (r.one bound bs).result = (decode (declaredLength bs) (declaredValue bs)).result := by
  have helement : (r.element ⟨declaredCode bs, declaredLength bs, declaredValue bs⟩).1 = _ :=
    element_of_some hd
  rw [one_of_whole h, helement]
  cases hres : (decode (declaredLength bs) (declaredValue bs)).result with
  | error e => rfl
  | ok x =>
    have hlen : (declaredLength bs).toNat = (declaredValue bs).length :=
      (declaredValue_length h).symm
    have hrest := (hloss _ _ _ _ ⟨hres, rfl⟩).2 hlen
    exact if_pos hrest

end Registry

end TlvCodec
