import Mathlib.Algebra.GroupWithZero.Nat
import TlvCodec.Proofs.Tlv.Fault
import TlvCodec.Proofs.Tlv.Run

namespace TlvCodec
open BigEndian
set_option autoImplicit true

def declaredCode (bs : Bytes) : UInt16 := word16 (bs.getD 0 0) (bs.getD 1 0)

/-- The declared value of an element, as far as it is there. -/
def declaredValue (bs : Bytes) : Bytes := (bs.drop headerSize).take (declaredLength bs).toNat

variable {t : Tlv} {bs rest : Bytes}

theorem declaredCode_append (t : Tlv) (rest : Bytes) : declaredCode (t.wire ++ rest) = t.code :=
  word16_octets16 t.code

theorem declaredValue_append (ht : t.Fits) (rest : Bytes) :
    declaredValue (t.wire ++ rest) = t.value := by
  have hdrop : (t.wire ++ rest).drop headerSize = t.value ++ rest := rfl
  rw [declaredValue, declaredLength_append, ht.toNat_lengthField, hdrop, List.take_left]

theorem declaredValue_length (h : headerSize + (declaredLength bs).toNat ≤ bs.length) :
    (declaredValue bs).length = (declaredLength bs).toNat := by
  rw [declaredValue, List.length_take_of_le]
  rw [List.length_drop]
  omega

theorem IsRun.sum_sizes {ts : List Tlv} (h : IsRun ts bs) :
    (ts.map fun t => headerSize + t.value.length).sum = bs.length := by
  rw [h.2, List.length_flatMap]
  simp only [Tlv.wire_length]

namespace Registry

variable {ε τ : Type} {r : Registry ε τ} {x : τ} {xs : List τ} {e : DecodeError} {k : Nat}

theorem one_of_short (h : bs.length < headerSize) (bound : Bound) :
    r.one bound bs = ⟨.error (bound.overrun (UInt16.ofNat bs.length)), bs, []⟩ :=
  one_cut (.header h) bound

/-- Where the value is cut short, only the header is gone. -/
theorem one_of_cut (hl : headerSize ≤ bs.length)
    (h : bs.length - headerSize < (declaredLength bs).toNat) (bound : Bound) :
    r.one bound bs = ⟨.error (bound.overrun (declaredLength bs)), bs.drop headerSize, []⟩ := by
  obtain ⟨n, rest, hcut⟩ := exists_cut_iff.mpr (.inr h)
  rw [one_cut hcut]
  cases hcut with
  | header hshort => exact absurd hl (Nat.not_le.mpr hshort)
  | value =>
    rw [declaredLength_header]
    rfl

/-- Where the value is there in full, it is gone with the header. -/
theorem one_of_whole (h : headerSize + (declaredLength bs).toNat ≤ bs.length) (bound : Bound) :
    r.one bound bs =
      ⟨(r.element ⟨declaredCode bs, declaredLength bs, declaredValue bs⟩).1,
        bs.drop (headerSize + (declaredLength bs).toNat),
        (r.element ⟨declaredCode bs, declaredLength bs, declaredValue bs⟩).2⟩ := by
  obtain ⟨t, rest, ht, rfl⟩ := exists_wire_of_whole h
  rw [one_wire ht, declaredLength_wire ht, List.drop_left, declaredCode_append,
    declaredLength_append, declaredValue_append ht]
  rfl

theorem element_of_none {frame : Frame} (hd : r.lookup frame.code = none) :
    (r.element frame).1 = .ok (r.unknown ⟨frame.code, frame.value⟩) := by
  unfold element
  rw [hd]

theorem one_congr {other : Bytes} (h : headerSize + (declaredLength bs).toNat ≤ bs.length)
    (ho : other.take (headerSize + (declaredLength bs).toNat) =
      bs.take (headerSize + (declaredLength bs).toNat)) (bound : Bound) :
    (r.one bound other).result = (r.one bound bs).result := by
  obtain ⟨t, rest, ht, rfl⟩ := exists_wire_of_whole h
  rw [declaredLength_wire ht, List.take_left] at ho
  rw [← List.take_append_drop t.wire.length other, ho, one_wire ht, one_wire ht]

theorem whole_of_one (h : (r.one bound bs).result = .ok x) :
    headerSize + (declaredLength bs).toNat ≤ bs.length := by
  rcases cut_or_wire bs with ⟨n, rest, hcut⟩ | ⟨t, rest, ht, rfl⟩
  · rw [one_cut hcut] at h
    cases h
  · rw [declaredLength_wire ht, List.length_append]
    exact Nat.le_add_right _ _

theorem one_take (h : headerSize + (declaredLength bs).toNat ≤ bs.length)
    (hk : k < headerSize + (declaredLength bs).toNat) (bound : Bound) :
    ∃ n, (r.one bound (bs.take k)).result = .error (bound.overrun n) := by
  obtain ⟨t, rest, ht, rfl⟩ := exists_wire_of_whole h
  rw [declaredLength_wire ht] at hk
  obtain ⟨n, rest', hcut⟩ := ht.cut_take hk
  rw [List.take_append_of_le_length (Nat.le_of_lt hk), one_cut hcut]
  exact ⟨n, rfl⟩

theorem exists_run_of_bounded {budget : UInt16} (hle : budget.toNat ≤ bs.length)
    (h : (r.bounded budget bs).result = .ok xs) :
    ∃ ts, IsRun ts (bs.take budget.toNat) ∧
      List.Forall₂ (fun t x => (r.element t.frame).1 = .ok x) ts xs ∧
      (ts.map fun t => headerSize + t.value.length).sum = budget.toNat := by
  rw [bounded_of_le hle] at h
  obtain ⟨ts, hts⟩ := exists_isRun_of_sequence h
  refine ⟨ts, hts, (sequence_isRun_iff hts).mp h, ?_⟩
  rw [hts.sum_sizes, List.length_take_of_le hle]

/-- Data is taken by whole steps, whatever the decoders of the values do. -/
theorem consumption_law (r : Registry ε τ) (bound : Bound) (bs : Bytes) :
    (bs.length < headerSize →
      r.one bound bs = ⟨.error (bound.overrun (UInt16.ofNat bs.length)), bs, []⟩) ∧
    (headerSize ≤ bs.length → bs.length - headerSize < (declaredLength bs).toNat →
      r.one bound bs = ⟨.error (bound.overrun (declaredLength bs)), bs.drop headerSize, []⟩) ∧
    (headerSize + (declaredLength bs).toNat ≤ bs.length →
      (r.one bound bs).rest = bs.drop (headerSize + (declaredLength bs).toNat) ∧
      (∀ decode, r.lookup (declaredCode bs) = some decode →
        (r.one bound bs).result =
          (decode (declaredLength bs) (declaredValue bs)).result.bind fun x =>
            if (decode (declaredLength bs) (declaredValue bs)).rest = [] then .ok x
            else .error (.malformedLength (declaredLength bs))) ∧
      (r.lookup (declaredCode bs) = none →
        (r.one bound bs).result = .ok (r.unknown ⟨declaredCode bs, declaredValue bs⟩)) ∧
      ∀ other, other.take (headerSize + (declaredLength bs).toNat) =
          bs.take (headerSize + (declaredLength bs).toNat) →
        (r.one bound other).result = (r.one bound bs).result) ∧
    (∀ x, (r.one .buffer bs).result = .ok x →
      ∀ k < headerSize + (declaredLength bs).toNat,
        (r.one .buffer (bs.take k)).result = .error .truncatedInput) ∧
    (∀ xs, (r.sequence bound bs).result = .ok xs → (r.sequence bound bs).rest = []) ∧
    (∀ e, (r.sequence bound bs).result = .error e →
      ∃ xs tail, r.FailsAt bound bs xs tail e ∧
        (r.sequence bound bs).rest = (r.one bound tail).rest) ∧
    ∀ budget : UInt16,
      (bs.length < budget.toNat → r.bounded budget bs = ⟨.error .truncatedInput, bs, []⟩) ∧
      (budget.toNat ≤ bs.length →
        (r.bounded budget bs).rest = bs.drop budget.toNat ∧
        ∀ xs, (r.bounded budget bs).result = .ok xs →
          ∃ ts, IsRun ts (bs.take budget.toNat) ∧
            List.Forall₂ (fun t x => (r.element t.frame).1 = .ok x) ts xs ∧
            (ts.map fun t => headerSize + t.value.length).sum = budget.toNat) := by
  refine ⟨fun h => one_of_short h bound, fun hl h => one_of_cut hl h bound, ?_, ?_,
    fun xs => sequence_rest, ?_, ?_⟩
  · intro h
    refine ⟨?_, ?_, ?_, fun other ho => one_congr h ho bound⟩
    · rw [one_of_whole h]
    · intro decode hd
      rw [one_of_whole h]
      exact element_of_some hd
    · intro hd
      rw [one_of_whole h]
      exact element_of_none hd
  · intro x h k hk
    obtain ⟨n, hn⟩ := one_take (r := r) (whole_of_one h) hk .buffer
    exact hn
  · intro e h
    obtain ⟨xs, tail, hfails⟩ := exists_failsAt h
    exact ⟨xs, tail, hfails, hfails.sequence_eq.2⟩
  · intro budget
    refine ⟨bounded_of_lt, fun hle => ⟨?_, fun xs => exists_run_of_bounded hle⟩⟩
    rw [bounded_of_le hle]

/-- Headers, values and budgets cut short, and a run that fails inside its second element. -/
theorem consumption_law_wordRuns :
    wordRuns.one .parent [0, 1, 0] = ⟨.error (.malformedLength 3), [0, 1, 0], []⟩ ∧
      wordRuns.one .parent [0, 1, 0, 2, 7] = ⟨.error (.malformedLength 2), [7], []⟩ ∧
      (wordRuns.one .buffer [0, 1, 0, 3, 0, 7, 9, 5]).rest = [5] ∧
      (wordRuns.one .buffer [0, 1, 0, 3, 0, 7, 9, 5]).result = .error (.malformedLength 3) ∧
      (wordRuns.one .buffer [0, 1, 0, 3, 0, 7, 9, 8, 8]).result = .error (.malformedLength 3) ∧
      (wordRuns.one .buffer [0, 9, 0, 1, 4]).result = .ok [9] ∧
      (wordRuns.one .buffer [0, 9, 0, 1]).result = .error .truncatedInput ∧
      (wordRuns.sequence .parent [0, 1, 0, 2, 0, 7]).rest = [] ∧
      (∃ xs tail, wordRuns.FailsAt .buffer cutInside xs tail .truncatedInput ∧
        (wordRuns.sequence .buffer cutInside).rest = (wordRuns.one .buffer tail).rest) ∧
      wordRuns.bounded 7 [0, 1, 0, 2, 0, 7] = ⟨.error .truncatedInput, [0, 1, 0, 2, 0, 7], []⟩ ∧
      (wordRuns.bounded 6 [0, 1, 0, 2, 0, 7, 3]).rest = [3] ∧
      ∃ ts, IsRun ts [0, 1, 0, 2, 0, 7] ∧
        (ts.map fun t => headerSize + t.value.length).sum = 6 := by
  obtain ⟨hshort, -⟩ := consumption_law wordRuns .parent [0, 1, 0]
  obtain ⟨-, hcut, -⟩ := consumption_law wordRuns .parent [0, 1, 0, 2, 7]
  obtain ⟨-, -, hunread, -⟩ := consumption_law wordRuns .buffer [0, 1, 0, 3, 0, 7, 9, 5]
  obtain ⟨hrest, hdecode, -, hcongr⟩ := hunread (by decide)
  obtain ⟨-, -, hunknown, hprefix, -⟩ := consumption_law wordRuns .buffer [0, 9, 0, 1, 4]
  obtain ⟨-, -, hkept, -⟩ := hunknown (by decide)
  obtain ⟨-, -, -, -, hdone, -, hbudget⟩ := consumption_law wordRuns .parent [0, 1, 0, 2, 0, 7]
  obtain ⟨-, -, -, -, -, hfails, -⟩ := consumption_law wordRuns .buffer cutInside
  obtain ⟨-, -, -, -, -, -, hwithin⟩ := consumption_law wordRuns .parent [0, 1, 0, 2, 0, 7, 3]
  obtain ⟨hleft, hsizes⟩ := (hwithin 6).2 (by decide)
  have hword : (wordRuns.sequence .parent [0, 1, 0, 2, 0, 7]).result = .ok [[7]] := by
    decide +kernel
  have hinside : (wordRuns.sequence .buffer cutInside).result = .error .truncatedInput := by
    decide +kernel
  have hfilled : (wordRuns.bounded 6 [0, 1, 0, 2, 0, 7, 3]).result = .ok [[7]] := by
    decide +kernel
  obtain ⟨ts, hrun, -, hsum⟩ := hsizes _ hfilled
  have hwrong := hdecode _ rfl
  exact ⟨hshort (by decide), hcut (by decide) (by decide), hrest, hwrong,
    (hcongr _ (by decide)).trans hwrong, hkept rfl, hprefix _ (hkept rfl) 4 (by decide),
    hdone _ hword, hfails _ hinside, (hbudget 7).1 (by decide), hleft, ts, hrun, hsum⟩

end Registry

end TlvCodec
