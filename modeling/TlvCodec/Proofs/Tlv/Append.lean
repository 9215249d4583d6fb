import TlvCodec.Proofs.Tlv.Fault

namespace TlvCodec.Registry
set_option autoImplicit true

variable {ε τ : Type} {r : Registry ε τ} {bs tail : Bytes} {xs : List τ} {e : DecodeError}

/-- An element that is there in full is settled, whatever follows it. -/
theorem one_append (h : headerSize + (declaredLength bs).toNat ≤ bs.length) (bound : Bound)
    (more : Bytes) : r.one bound (bs ++ more) =
      ⟨(r.one bound bs).result, (r.one bound bs).rest ++ more, (r.one bound bs).events⟩ := by
  obtain ⟨t, rest, ht, rfl⟩ := exists_wire_of_whole h
  rw [List.append_assoc, one_wire ht, one_wire ht]

theorem FailsAt.append (h : r.FailsAt bound bs xs tail e)
    (hl : headerSize + (declaredLength tail).toNat ≤ tail.length) (more : Bytes) :
    r.FailsAt bound (bs ++ more) xs (tail ++ more) e := by
  obtain ⟨hne, ⟨front, rfl, hs⟩, hf⟩ := h
  refine ⟨by simp [hne], ⟨front, List.append_assoc _ _ _, hs⟩, ?_⟩
  rw [one_append hl]
  exact hf

/-- Elements that are sound alone are sound together. -/
theorem sequence_flatMap {ps : List (Bytes × τ)}
    (h : ∀ p ∈ ps, (r.sequence bound p.1).result = .ok [p.2]) :
    (r.sequence bound (ps.flatMap Prod.fst)).result = .ok (ps.map Prod.snd) := by
  induction ps with
  | nil => rw [List.flatMap_nil, sequence_nil, List.map_nil]
  | cons p ps ih =>
    rw [List.forall_mem_cons] at h
    rw [List.flatMap_cons, sequence_append h.1, ih h.2]
    rfl

/-- Runs follow one another as their data does, and sound elements may change places. -/
theorem sequence_append_law (r : Registry ε τ) (bound : Bound) :
    (∀ a xs, (r.sequence bound a).result = .ok xs → ∀ b,
      (r.sequence bound (a ++ b)).result = (r.sequence bound b).result.map (xs ++ ·) ∧
        (r.sequence bound (a ++ b)).rest = (r.sequence bound b).rest) ∧
    (∀ a xs tail e, r.FailsAt bound a xs tail e →
      headerSize + (declaredLength tail).toNat ≤ tail.length →
        (r.sequence bound a).result = .error e ∧ ∀ b,
          (r.sequence bound (a ++ b)).result = .error e ∧
            (r.sequence bound (a ++ b)).rest = (r.sequence bound a).rest ++ b) ∧
    ∀ ps qs : List (Bytes × τ), ps.Perm qs →
      (∀ p ∈ ps, (r.sequence bound p.1).result = .ok [p.2]) →
        (r.sequence bound (ps.flatMap Prod.fst)).result = .ok (ps.map Prod.snd) ∧
          (r.sequence bound (qs.flatMap Prod.fst)).result = .ok (qs.map Prod.snd) ∧
          (ps.map Prod.snd).Perm (qs.map Prod.snd) := by
  refine ⟨?_, ?_, ?_⟩
  · intro a xs h b
    rw [sequence_append_eq h]
    exact ⟨rfl, rfl⟩
  · intro a xs tail e h hl
    refine ⟨h.sequence_eq.1, fun b => ?_⟩
    obtain ⟨hresult, hrest⟩ := (h.append hl b).sequence_eq
    rw [hrest, one_append hl, h.sequence_eq.2]
    exact ⟨hresult, rfl⟩
  · intro ps qs hperm h
    have h' : ∀ q ∈ qs, (r.sequence bound q.1).result = .ok [q.2] :=
      fun q hq => h q (hperm.mem_iff.mpr hq)
    exact ⟨sequence_flatMap h, sequence_flatMap h', hperm.map Prod.snd⟩

/-- A word, an element cut short, and two words that change places. -/
theorem sequence_append_law_wordRuns :
    (wordRuns.sequence .buffer (cutInside ++ [0, 1, 0, 2, 0, 8])).result = .error .truncatedInput ∧
      (wordRuns.sequence .buffer ([0, 1, 0, 2, 0, 7] ++ cutWords)).rest = [0] ∧
      (wordRuns.sequence .buffer ([0, 1, 0, 2, 0, 8] ++ [0, 1, 0, 2, 0, 7])).result =
        .ok [[8], [7]] := by
  obtain ⟨hsound, hfault, hperm⟩ := sequence_append_law wordRuns .buffer
  have hseven : (wordRuns.sequence .buffer [0, 1, 0, 2, 0, 7]).result = .ok [[7]] := by
    decide +kernel
  have height : (wordRuns.sequence .buffer [0, 1, 0, 2, 0, 8]).result = .ok [[8]] := by
    decide +kernel
  have hinside : wordRuns.FailsAt .buffer cutInside [[7]] [0, 2, 0, 5, 0, 9, 0, 2, 0, 0, 9]
      .truncatedInput := ⟨nofun, ⟨[0, 1, 0, 2, 0, 7], rfl, hseven⟩, by decide +kernel⟩
  have hrest : (wordRuns.sequence .buffer cutWords).rest = [0] := by decide +kernel
  refine ⟨((hfault _ _ _ _ hinside (by decide)).2 _).1, ?_, ?_⟩
  · rw [(hsound _ _ hseven cutWords).2, hrest]
  · have hswap := hperm [([0, 1, 0, 2, 0, 7], [7]), ([0, 1, 0, 2, 0, 8], [8])]
      [([0, 1, 0, 2, 0, 8], [8]), ([0, 1, 0, 2, 0, 7], [7])] (.swap _ _ _) (by simp [hseven, height])
    exact hswap.2.1

end TlvCodec.Registry
