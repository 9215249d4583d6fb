import Mathlib.Control.Monad.Basic
import TlvCodec.Proofs.Tlv.Sequence

namespace TlvCodec.Registry
set_option autoImplicit true

variable {ε τ : Type} {r : Registry ε τ} {bs tail : Bytes} {xs ys : List τ} {e e' : DecodeError}

/-- A sound run that yields `xs`, and then the element at fault. -/
structure FailsAt (r : Registry ε τ) (bound : Bound) (bs : Bytes) (xs : List τ) (tail : Bytes)
    (e : DecodeError) : Prop where
  nonempty : tail ≠ []
  front : ∃ front, bs = front ++ tail ∧ (r.sequence bound front).result = .ok xs
  fault : (r.one bound tail).result = .error e

theorem sequence_of_fault (hne : bs ≠ []) (h : (r.one bound bs).result = .error e) :
    r.sequence bound bs = ⟨.error e, (r.one bound bs).rest, (r.one bound bs).events⟩ := by
  rcases cut_or_wire bs with ⟨n, rest, hcut⟩ | ⟨t, rest, ht, rfl⟩
  · rw [one_cut hcut] at h ⊢
    cases h
    exact sequence_cut hcut hne bound
  · rw [one_wire ht] at h ⊢
    rw [sequence_wire ht]
    generalize r.element t.frame = o at h ⊢
    obtain ⟨_ | x, events⟩ := o
    · cases h
      rfl
    · cases h

theorem one_append_of_sequence (hne : bs ≠ []) (h : (r.sequence bound bs).result = .ok xs)
    (more : Bytes) : ∃ x, (r.one bound (bs ++ more)).result = .ok x := by
  rcases cut_or_wire bs with ⟨n, rest, hcut⟩ | ⟨t, rest, ht, rfl⟩
  · rw [sequence_cut hcut hne] at h
    cases h
  · rw [List.append_assoc, one_wire ht]
    cases he : (r.element t.frame).1 with
    | error e =>
      rw [sequence_wire_error ht he] at h
      cases h
    | ok x => exact ⟨x, rfl⟩

theorem failsAt_first (hne : bs ≠ []) (h : (r.one bound bs).result = .error e) :
    r.FailsAt bound bs [] bs e :=
  ⟨hne, ⟨[], rfl, congrArg Outcome.result (sequence_nil r bound)⟩, h⟩

theorem exists_failsAt (h : (r.sequence bound bs).result = .error e) :
    ∃ xs tail, r.FailsAt bound bs xs tail e := by
  induction bs using framing with
  | nil =>
    rw [sequence_nil] at h
    cases h
  | cut bs n rest hne hcut =>
    rw [sequence_cut hcut hne] at h
    cases h
    exact ⟨[], bs, failsAt_first hne (congrArg Outcome.result (one_cut hcut bound))⟩
  | wire t rest ht ih =>
    cases he : (r.element t.frame).1 with
    | error e' =>
      rw [sequence_wire_error ht he] at h
      cases h
      have hone := congrArg Outcome.result (one_wire (r := r) ht bound rest)
      exact ⟨[], _, failsAt_first (by simp [t.wire_ne_nil]) (hone.trans he)⟩
    | ok x =>
      rw [sequence_wire_ok ht he, map_eq_error_iff] at h
      obtain ⟨xs, tail, hne, ⟨front, rfl, hs⟩, hf⟩ := ih h
      refine ⟨x :: xs, tail, hne, ⟨t.wire ++ front, (List.append_assoc _ _ _).symm, ?_⟩, hf⟩
      rw [sequence_wire_ok ht he, hs]
      rfl

namespace FailsAt

/-- The element at fault decides how the run ends. -/
theorem sequence_eq (h : r.FailsAt bound bs xs tail e) :
    (r.sequence bound bs).result = .error e ∧
      (r.sequence bound bs).rest = (r.one bound tail).rest := by
  obtain ⟨hne, ⟨front, rfl, hs⟩, hf⟩ := h
  rw [sequence_append_eq hs, sequence_of_fault hne hf]
  exact ⟨rfl, rfl⟩

theorem tail_eq (h : r.FailsAt bound bs xs tail e) (h' : r.FailsAt bound bs ys tail' e')
    (hl : tail'.length ≤ tail.length) : tail = tail' := by
  obtain ⟨hne, ⟨front, rfl, hs⟩, hf⟩ := h
  obtain ⟨-, ⟨front', he, hs'⟩, -⟩ := h'
  obtain ⟨mid, rfl, rfl⟩ : ∃ mid, front' = front ++ mid ∧ tail = mid ++ tail' := by
    rcases List.append_eq_append_iff.mp he with ⟨mid, hfront, htail⟩ | ⟨mid, hfront, htail⟩
    · exact ⟨mid, hfront, htail⟩
    · have hmid : mid = [] := by
        rw [htail, List.length_append] at hl
        exact List.length_eq_zero_iff.mp (by omega)
      subst hmid
      exact ⟨[], by simpa using hfront.symm, by simpa using htail.symm⟩
  by_cases hmid : mid = []
  · rw [hmid, List.nil_append]
  · rw [sequence_append hs, map_eq_ok_iff] at hs'
    obtain ⟨zs, hz, -⟩ := hs'
    obtain ⟨x, hx⟩ := one_append_of_sequence hmid hz tail'
    rw [hf] at hx
    cases hx

/-- A run fails at one element only. -/
theorem unique (h : r.FailsAt bound bs xs tail e) (h' : r.FailsAt bound bs ys tail' e') :
    xs = ys ∧ tail = tail' ∧ e = e' := by
  have htail : tail = tail' := by
    rcases Nat.le_total tail'.length tail.length with hl | hl
    · exact h.tail_eq h' hl
    · exact (h'.tail_eq h hl).symm
  subst htail
  obtain ⟨-, ⟨front, rfl, hs⟩, hf⟩ := h
  obtain ⟨-, ⟨front', he, hs'⟩, hf'⟩ := h'
  rw [List.append_cancel_right he] at hs
  rw [hs] at hs'
  rw [hf] at hf'
  cases hs'
  cases hf'
  exact ⟨rfl, rfl, rfl⟩

end FailsAt

/-- What limits a run does not matter where the run succeeds. -/
theorem sequence_eq_of_ok (h : (r.sequence bound bs).result = .ok xs) (bound' : Bound) :
    r.sequence bound' bs = r.sequence bound bs := by
  induction bs using framing generalizing xs with
  | nil => rw [sequence_nil, sequence_nil]
  | cut bs n rest hne hcut =>
    rw [sequence_cut hcut hne] at h
    cases h
  | wire t rest ht ih =>
    rw [sequence_wire ht, sequence_wire ht]
    cases he : (r.element t.frame).1 with
    | error e =>
      rw [sequence_wire_error ht he] at h
      cases h
    | ok x =>
      rw [sequence_wire_ok ht he, map_eq_ok_iff] at h
      obtain ⟨ys, hs, -⟩ := h
      rw [ih hs]

theorem sequence_rest_eq (r : Registry ε τ) (bound bound' : Bound) (bs : Bytes) :
    (r.sequence bound bs).rest = (r.sequence bound' bs).rest := by
  induction bs using framing with
  | nil => rw [sequence_nil, sequence_nil]
  | cut bs n rest hne hcut => rw [sequence_cut hcut hne, sequence_cut hcut hne]
  | wire t rest ht ih =>
    rw [sequence_wire ht, sequence_wire ht]
    rcases r.element t.frame with ⟨e | x, events⟩
    · rfl
    · exact ih

/-- The errors of one fault under both limits, with the same data left. -/
inductive Reported (tail : Bytes) : Bytes → DecodeError → DecodeError → Prop where
  | header (h : tail.length < headerSize) :
    Reported tail tail .truncatedInput (.malformedLength (UInt16.ofNat tail.length))
  | value (hl : headerSize ≤ tail.length)
    (h : tail.length - headerSize < (declaredLength tail).toNat) :
    Reported tail (tail.drop headerSize) .truncatedInput (.malformedLength (declaredLength tail))
  | element (hl : headerSize + (declaredLength tail).toNat ≤ tail.length) (e : DecodeError) :
    Reported tail (tail.drop (headerSize + (declaredLength tail).toNat)) e e

theorem reported_cut {n : UInt16} {rest : Bytes} (h : Cut bs n rest) :
    Reported bs rest .truncatedInput (.malformedLength n) := by
  cases h with
  | header h => exact .header h
  | @value rest code n h =>
    have hl : headerSize ≤ (BigEndian.octets16 code ++ (BigEndian.octets16 n ++ rest)).length := by
      simp [headerSize]
      omega
    have hd := declaredLength_header code n rest
    have hv := Reported.value hl (by rw [hd]; simp [headerSize]; omega)
    rw [hd] at hv
    exact hv

theorem exists_wire_of_whole (h : headerSize + (declaredLength bs).toNat ≤ bs.length) :
    ∃ t rest, Tlv.Fits t ∧ bs = t.wire ++ rest := by
  rcases cut_or_wire bs with hcut | hwire
  · have := exists_cut_iff.mp hcut
    omega
  · exact hwire

theorem declaredLength_wire {t : Tlv} (ht : t.Fits) (rest : Bytes) :
    headerSize + (declaredLength (t.wire ++ rest)).toNat = t.wire.length := by
  rw [declaredLength_append, ht.toNat_lengthField, Tlv.wire_length]

theorem one_reported (h : (r.one .buffer bs).result = .error e) :
    ∃ e', (r.one .parent bs).result = .error e' ∧ Reported bs (r.one .buffer bs).rest e e' := by
  rcases cut_or_wire bs with ⟨n, rest, hcut⟩ | ⟨t, rest, ht, rfl⟩
  · rw [one_cut hcut] at h ⊢
    rw [one_cut hcut]
    cases h
    exact ⟨_, rfl, reported_cut hcut⟩
  · rw [one_wire ht] at h ⊢
    rw [one_wire ht]
    refine ⟨e, h, ?_⟩
    have hl := declaredLength_wire ht rest
    have hle : headerSize + (declaredLength (t.wire ++ rest)).toNat ≤ (t.wire ++ rest).length := by
      simp [hl]
    have hw := Reported.element hle e
    rw [hl, List.drop_left] at hw
    exact hw

theorem FailsAt.of_buffer (h : r.FailsAt .buffer bs xs tail e) :
    ∃ e', r.FailsAt .parent bs xs tail e' ∧ Reported tail (r.sequence .buffer bs).rest e e' := by
  have hrest := h.sequence_eq.2
  obtain ⟨hne, ⟨front, rfl, hs⟩, hf⟩ := h
  obtain ⟨e', hf', hreported⟩ := one_reported hf
  rw [← sequence_eq_of_ok hs .parent] at hs
  exact ⟨e', ⟨hne, ⟨front, rfl, hs⟩, hf'⟩, hrest ▸ hreported⟩

/-- Both limits agree on successes, on the element at fault and on the data left. -/
theorem sequence_bounds_agree (r : Registry ε τ) (bs : Bytes) :
    (∀ xs, (r.sequence .buffer bs).result = .ok xs ↔ (r.sequence .parent bs).result = .ok xs) ∧
    (r.sequence .buffer bs).rest = (r.sequence .parent bs).rest ∧
    ∀ e, (r.sequence .buffer bs).result = .error e →
      ∃ e' xs tail, (r.sequence .parent bs).result = .error e' ∧
        r.FailsAt .buffer bs xs tail e ∧ r.FailsAt .parent bs xs tail e' ∧
        (∀ bound ys tail' e'', r.FailsAt bound bs ys tail' e'' → ys = xs ∧ tail' = tail) ∧
        Reported tail (r.sequence .buffer bs).rest e e' := by
  refine ⟨?_, r.sequence_rest_eq .buffer .parent bs, ?_⟩
  · intro xs
    constructor
    · intro h
      rw [sequence_eq_of_ok h, h]
    · intro h
      rw [sequence_eq_of_ok h, h]
  · intro e h
    obtain ⟨xs, tail, hbuffer⟩ := exists_failsAt h
    obtain ⟨e', hparent, hreported⟩ := hbuffer.of_buffer
    refine ⟨e', xs, tail, hparent.sequence_eq.1, hbuffer, hparent, ?_, hreported⟩
    intro bound ys tail' e'' hfails
    cases bound with
    | buffer =>
      obtain ⟨hxs, htail, -⟩ := hfails.unique hbuffer
      exact ⟨hxs, htail⟩
    | parent =>
      obtain ⟨hxs, htail, -⟩ := hfails.unique hparent
      exact ⟨hxs, htail⟩

/-- Words under code 1, and runs of elements under code 2. -/
def wordRuns : Registry Empty (List UInt16) where
  decoders :=
    [(1, fun _ => do return [← Decoder.read .word16]),
      (2, fun _ => ({ decoders := [], unknown := Tlv.code, notes := fun _ => [] } :
        Registry Empty UInt16).sequence .buffer)]
  unknown := fun t => [t.code]
  notes := fun _ => []

def cutWords : Bytes := [0, 1, 0, 2, 0, 7, 0, 1, 0, 2, 0]

/-- A word, and behind it a run cut short inside. -/
def cutInside : Bytes := [0, 1, 0, 2, 0, 7, 0, 2, 0, 5, 0, 9, 0, 2, 0, 0, 9]

theorem sequence_bounds_agree_wordRuns :
    (∃ xs tail, wordRuns.FailsAt .buffer cutWords xs tail .truncatedInput ∧
      wordRuns.FailsAt .parent cutWords xs tail (.malformedLength 2)) ∧
    ∃ xs tail, wordRuns.FailsAt .buffer cutInside xs tail .truncatedInput ∧
      wordRuns.FailsAt .parent cutInside xs tail .truncatedInput := by
  have hwords : (wordRuns.sequence .buffer cutWords).result = .error .truncatedInput := by
    decide +kernel
  have hinside : (wordRuns.sequence .buffer cutInside).result = .error .truncatedInput := by
    decide +kernel
  have hwords' : (wordRuns.sequence .parent cutWords).result = .error (.malformedLength 2) := by
    decide +kernel
  have hinside' : (wordRuns.sequence .parent cutInside).result = .error .truncatedInput := by
    decide +kernel
  constructor
  · obtain ⟨e', xs, tail, he, hbuffer, hparent, -⟩ := (sequence_bounds_agree _ _).2.2 _ hwords
    rw [hwords'] at he
    cases he
    exact ⟨xs, tail, hbuffer, hparent⟩
  · obtain ⟨e', xs, tail, he, hbuffer, hparent, -⟩ := (sequence_bounds_agree _ _).2.2 _ hinside
    rw [hinside'] at he
    cases he
    exact ⟨xs, tail, hbuffer, hparent⟩

end TlvCodec.Registry
