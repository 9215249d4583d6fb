import Mathlib.Data.List.Forall2
import TlvCodec.Proofs.Tlv.Sequence

namespace TlvCodec
set_option autoImplicit true

/-- The data is made up of the elements `ts`, one after another. -/
def IsRun (ts : List Tlv) (bs : Bytes) : Prop := (∀ t ∈ ts, t.Fits) ∧ bs = ts.flatMap Tlv.wire

namespace Registry

variable {ε τ : Type} {r : Registry ε τ} {ts : List Tlv} {bs : Bytes} {xs : List τ}

theorem exists_isRun_of_sequence (h : (r.sequence bound bs).result = .ok xs) :
    ∃ ts, IsRun ts bs := by
  induction bs using framing generalizing xs with
  | nil => exact ⟨[], by simp, rfl⟩
  | cut bs n rest hne hcut =>
    rw [sequence_cut hcut hne] at h
    cases h
  | wire t rest ht ih =>
    rw [sequence_wire_result ht] at h
    cases he : (r.element t.frame).1 with
    | error e =>
      rw [he] at h
      cases h
    | ok x =>
      rw [he] at h
      obtain ⟨ys, hs, -⟩ := map_eq_ok_iff.mp h
      obtain ⟨ts, hts, rfl⟩ := ih hs
      exact ⟨t :: ts, List.forall_mem_cons.mpr ⟨ht, hts⟩, rfl⟩

theorem forall_mem_of_sequence {p : τ → Prop}
    (hp : ∀ {t : Tlv} {x : τ}, t.Fits → (r.element t.frame).1 = .ok x → p x)
    (h : (r.sequence bound bs).result = .ok xs) : ∀ x ∈ xs, p x := by
  induction bs using framing generalizing xs with
  | nil =>
    rw [sequence_nil] at h
    cases h
    simp
  | cut bs n rest hne hcut =>
    rw [sequence_cut hcut hne] at h
    cases h
  | wire t rest ht ih =>
    cases he : (r.element t.frame).1 with
    | error e =>
      rw [sequence_wire_error ht he] at h
      cases h
    | ok x =>
      rw [sequence_wire_ok ht he, map_eq_ok_iff] at h
      obtain ⟨ys, hs, rfl⟩ := h
      exact List.forall_mem_cons.mpr ⟨hp ht he, ih hs⟩

/-- A run decodes element by element: none bears on what another yields. -/
theorem sequence_isRun_iff (h : IsRun ts bs) :
    (r.sequence bound bs).result = .ok xs ↔
      List.Forall₂ (fun t x => (r.element t.frame).1 = .ok x) ts xs := by
  obtain ⟨hts, rfl⟩ := h
  induction ts generalizing xs with
  | nil =>
    rw [List.flatMap_nil, sequence_nil, List.forall₂_nil_left_iff]
    constructor
    · intro h
      cases h
      rfl
    · rintro rfl
      rfl
  | cons t ts ih =>
    rw [List.forall_mem_cons] at hts
    rw [List.flatMap_cons, sequence_wire_result hts.1, List.forall₂_cons_left_iff]
    cases he : (r.element t.frame).1 with
    | error e => simp [Except.bind]
    | ok x =>
      change Except.map _ _ = _ ↔ _
      rw [map_eq_ok_iff]
      constructor
      · rintro ⟨ys, hs, rfl⟩
        exact ⟨x, ys, rfl, (ih hts.2).mp hs, rfl⟩
      · rintro ⟨_, ys, hx, hys, rfl⟩
        cases hx
        exact ⟨ys, (ih hts.2).mpr hys, rfl⟩

end Registry

end TlvCodec
