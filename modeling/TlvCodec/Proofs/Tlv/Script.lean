import TlvCodec.Proofs.Trap.Tlv
import TlvCodec.Tlv.Script

namespace TlvCodec
open BigEndian
set_option autoImplicit true

def Field.octets : Field → Bytes
  | .octet n => [n]
  | .word16 n => octets16 n
  | .word24 n => octets24 n
  | .word32 n => octets32 n
  | .address a => a.octets.val
  | .single x => octets32 x.toWire
  | .bytes bs => bs

theorem Field.toList_write (f : Field) (b : Buffer) :
    (f.write b).toList = b.toList ++ f.octets := by
  cases f with
  | octet n => exact Array.toList_push
  | word16 n => exact Buffer.toList_word16 n b
  | word24 n => exact Buffer.toList_word24 n b
  | word32 n => exact Buffer.toList_word32 n b
  | address a => exact Buffer.toList_bytes a.octets.val b
  | single x => exact Buffer.toList_word32 x.toWire b
  | bytes bs => exact Buffer.toList_bytes bs b

namespace Writer

/-- What was written since an element began: fields, and elements that ended. -/
inductive Content where
  | nil
  | field (before : Content) (f : Field)
  | element (before : Content) (code : UInt16) (value : Content)

namespace Content

def wire : Content → Bytes
  | nil => []
  | field before f => before.wire ++ f.octets
  | element before code value => before.wire ++ (Tlv.mk code value.wire).wire

def script : Content → List Step
  | nil => []
  | field before f => before.script ++ [.field f]
  | element before code value =>
    before.script ++ (.openTlv code :: (value.script ++ [.closeTlv]))

end Content

/-- Output as it was written, with the elements that are open, innermost first. -/
structure Draft where
  levels : List (Content × UInt16)
  inner : Content

namespace Draft

/-- The length field of an open element is zero. -/
def wireOfLevels : List (Content × UInt16) → Bytes
  | [] => []
  | (before, code) :: levels =>
    wireOfLevels levels ++ (before.wire ++ (octets16 code ++ octets16 0))

def wire (d : Draft) : Bytes := wireOfLevels d.levels ++ d.inner.wire

def scriptOfLevels : List (Content × UInt16) → List Step
  | [] => []
  | (before, code) :: levels => scriptOfLevels levels ++ (before.script ++ [.openTlv code])

def script (d : Draft) : List Step := scriptOfLevels d.levels ++ d.inner.script

def startsOfLevels (base : Nat) : List (Content × UInt16) → List Nat
  | [] => []
  | (before, _) :: levels =>
    (base + (wireOfLevels levels ++ before.wire).length) :: startsOfLevels base levels

/-- No element can be ended where none is open. -/
def add? (d : Draft) : Step → Option Draft
  | .field f => some ⟨d.levels, d.inner.field f⟩
  | .openTlv code => some ⟨(d.inner, code) :: d.levels, .nil⟩
  | .closeTlv =>
    match d.levels with
    | [] => none
    | (before, code) :: levels => some ⟨levels, before.element code d.inner⟩

theorem script_of_add? {d d' : Draft} (h : d.add? s = some d') : d'.script = d.script ++ [s] := by
  cases s with
  | field f =>
    cases h
    simp only [script, Content.script, List.append_assoc]
  | openTlv code =>
    cases h
    simp only [script, scriptOfLevels, Content.script, List.append_assoc, List.append_nil]
  | closeTlv =>
    obtain ⟨_ | ⟨⟨before, code⟩, levels⟩, inner⟩ := d
    · cases h
    · cases h
      simp [script, scriptOfLevels, Content.script]

end Draft

/-- The writer holds `front` and the draft, with the same elements open. -/
structure Holds (w : Writer) (front : Bytes) (d : Draft) : Prop where
  toList : w.buffer.toList = front ++ d.wire
  starts : w.starts = Draft.startsOfLevels front.length d.levels

/-- No element is ended that is not open; `depth` are open at first. -/
def Bracketed : Nat → List Step → Prop
  | _, [] => True
  | depth, .field _ :: steps => Bracketed depth steps
  | depth, .openTlv _ :: steps => Bracketed (depth + 1) steps
  | 0, .closeTlv :: _ => False
  | depth + 1, .closeTlv :: steps => Bracketed depth steps

theorem toList_step_field (w : Writer) (f : Field) :
    (w.step (.field f)).buffer.toList = w.buffer.toList ++ f.octets :=
  f.toList_write w.buffer

theorem toList_step_openTlv (w : Writer) (code : UInt16) :
    (w.step (.openTlv code)).buffer.toList = w.buffer.toList ++ (octets16 code ++ octets16 0) :=
  Buffer.toList_openTlv code w.buffer

theorem Holds.innermost {w : Writer} {inner : Content}
    (h : w.Holds front ⟨(before, code) :: levels, inner⟩) :
    w.starts = (front ++ (Draft.wireOfLevels levels ++ before.wire)).length ::
        Draft.startsOfLevels front.length levels ∧
      w.buffer.toList = (front ++ (Draft.wireOfLevels levels ++ before.wire)) ++
        (octets16 code ++ (octets16 0 ++ inner.wire)) := by
  refine ⟨?_, ?_⟩
  · rw [h.starts, Draft.startsOfLevels, ← List.length_append]
  · rw [h.toList]
    simp only [Draft.wire, Draft.wireOfLevels, List.append_assoc]

theorem step_closeTlv {w : Writer} {place : Nat} {others : List Nat}
    (h : w.starts = place :: others) :
    w.step .closeTlv = ⟨w.buffer.closeTlv place, others⟩ := by
  simp only [step, h]

/-- Every step keeps output and draft together. -/
theorem Holds.step {w : Writer} {d d' : Draft} (h : w.Holds front d) (hd : d.add? s = some d') :
    (w.step s).Holds front d' := by
  cases s with
  | field f =>
    cases hd
    refine ⟨?_, h.starts⟩
    rw [toList_step_field, h.toList]
    simp only [Draft.wire, Content.wire, List.append_assoc]
  | openTlv code =>
    cases hd
    refine ⟨?_, ?_⟩
    · rw [toList_step_openTlv, h.toList]
      simp only [Draft.wire, Draft.wireOfLevels, Content.wire, List.append_assoc, List.append_nil]
    · have hsize : w.buffer.size = front.length + d.wire.length := by
        rw [← Array.length_toList, h.toList, List.length_append]
      simp only [Writer.step, hsize, h.starts]
      rfl
  | closeTlv =>
    obtain ⟨_ | ⟨⟨before, code⟩, levels⟩, inner⟩ := d
    · cases hd
    · cases hd
      -- The innermost level turns into an ended element of the one around it.
      obtain ⟨hstarts, hlist⟩ := h.innermost
      rw [step_closeTlv hstarts]
      refine ⟨?_, rfl⟩
      rw [Buffer.toList_closeTlv hlist]
      simp only [Draft.wire, Content.wire, List.append_assoc]

theorem Holds.run {w : Writer} {d d' : Draft} (h : w.Holds front d)
    (hd : steps.foldlM Draft.add? d = some d') : (w.run steps).Holds front d' := by
  induction steps generalizing w d with
  | nil =>
    cases hd
    exact h
  | cons s steps ih =>
    obtain ⟨d₁, hs, hsteps⟩ := Option.bind_eq_some_iff.mp hd
    exact ih (h.step hs) hsteps

theorem Draft.script_of_foldlM {d d' : Draft} (hd : steps.foldlM Draft.add? d = some d') :
    d'.script = d.script ++ steps := by
  induction steps generalizing d with
  | nil =>
    cases hd
    exact (List.append_nil _).symm
  | cons s steps ih =>
    obtain ⟨d₁, hs, hsteps⟩ := Option.bind_eq_some_iff.mp hd
    rw [ih hsteps, script_of_add? hs, List.append_assoc]
    rfl

/-- Bracketed steps write a draft. -/
theorem Bracketed.exists_draft {d : Draft} (h : Bracketed d.levels.length steps) :
    ∃ d', steps.foldlM Draft.add? d = some d' := by
  induction steps generalizing d with
  | nil => exact ⟨d, rfl⟩
  | cons s steps ih =>
    cases s with
    | field f => exact ih (d := ⟨d.levels, d.inner.field f⟩) h
    | openTlv code => exact ih (d := ⟨(d.inner, code) :: d.levels, .nil⟩) h
    | closeTlv =>
      obtain ⟨_ | ⟨⟨before, code⟩, levels⟩, inner⟩ := d
      · exact h.elim
      · exact ih (d := ⟨levels, before.element code inner⟩) h

def Draft.empty : Draft := ⟨[], .nil⟩

theorem holds_empty (p : Buffer) : Holds ⟨p, []⟩ p.toList .empty where
  toList := (List.append_nil _).symm
  starts := rfl

theorem Bracketed.exists_innermost (h : Bracketed 0 (before ++ .closeTlv :: after)) :
    ∃ outer code levels inner,
      before.foldlM Draft.add? .empty = some ⟨(outer, code) :: levels, inner⟩ := by
  obtain ⟨d, hd⟩ := Bracketed.exists_draft (d := .empty) h
  rw [List.foldlM_append] at hd
  obtain ⟨d₁, hbefore, hafter⟩ := Option.bind_eq_some_iff.mp hd
  obtain ⟨d₂, hclose, -⟩ := Option.bind_eq_some_iff.mp hafter
  obtain ⟨_ | ⟨⟨outer, code⟩, levels⟩, inner⟩ := d₁
  · cases hclose
  · exact ⟨outer, code, levels, inner, hbefore⟩

/-- Bracketed steps write the elements as they are sent, each end filling in its own length. -/
theorem run_bracketed (p : Buffer) (steps : List Step) (h : Bracketed 0 steps) :
    (∃ d : Draft, d.script = steps ∧
      (run ⟨p, []⟩ steps).buffer.toList = p.toList ++ d.wire) ∧
    (∀ (w : Writer) (f : Field),
      (w.step (.field f)).buffer.toList = w.buffer.toList ++ f.octets) ∧
    (∀ (w : Writer) (code : UInt16),
      (w.step (.openTlv code)).buffer.toList =
        w.buffer.toList ++ (octets16 code ++ octets16 0)) ∧
    ∀ before after, steps = before ++ .closeTlv :: after →
      ∃ (w : Writer) (front : Bytes) (code : UInt16) (value : Bytes),
        w = run ⟨p, []⟩ before ∧ p.toList <+: front ∧ w.starts.head? = some front.length ∧
        w.buffer.toList = front ++ (octets16 code ++ (octets16 0 ++ value)) ∧
        (w.step .closeTlv).buffer.toList =
          front ++ (octets16 code ++ (octets16 (UInt16.ofNat (min value.length 65535)) ++ value)) ∧
        Trapping.closeTlv front.length w.buffer = .ok (w.step .closeTlv).buffer := by
  refine ⟨?_, toList_step_field, toList_step_openTlv, ?_⟩
  · obtain ⟨d, hd⟩ := Bracketed.exists_draft (d := .empty) h
    exact ⟨d, Draft.script_of_foldlM hd, ((holds_empty p).run hd).toList⟩
  · rintro before after rfl
    obtain ⟨outer, code, levels, inner, hd⟩ := h.exists_innermost
    obtain ⟨hstarts, hlist⟩ := ((holds_empty p).run hd).innermost
    refine ⟨_, _, code, inner.wire, rfl, List.prefix_append _ _, ?_, hlist, ?_, ?_⟩
    · rw [hstarts, List.head?_cons]
    · rw [step_closeTlv hstarts]
      exact Buffer.toList_closeTlv hlist
    · rw [step_closeTlv hstarts]
      exact Trapping.closeTlv_eq hlist

/-- An element ended inside another, and one that stays open. -/
def nestedSteps : List Step :=
  [.openTlv 1, .field (.word16 7), .openTlv 2, .field (.octet 5), .closeTlv, .closeTlv, .openTlv 3,
    .field (.octet 8)]

theorem run_bracketed_nestedSteps :
    Bracketed 0 nestedSteps ∧
      (∃ d : Draft, d.script = nestedSteps ∧
        [9, 0, 1, 0, 7, 0, 7, 0, 2, 0, 1, 5, 0, 3, 0, 0, 8] = ([9] : Bytes) ++ d.wire) ∧
      ∃ (w : Writer) (front : Bytes),
        w = run ⟨#[9], []⟩ (nestedSteps.take 4) ∧ w.starts.head? = some front.length ∧
        Trapping.closeTlv front.length w.buffer = .ok (w.step .closeTlv).buffer := by
  have h : Bracketed 0 nestedSteps := by simp [nestedSteps, Bracketed]
  obtain ⟨⟨d, hscript, hlist⟩, -, -, hclose⟩ := run_bracketed #[9] nestedSteps h
  obtain ⟨w, front, code, value, hw, -, hstart, -, -, htrap⟩ := hclose (nestedSteps.take 4)
    (nestedSteps.drop 5) rfl
  exact ⟨h, ⟨d, hscript, hlist⟩, w, front, hw, hstart, htrap⟩

end Writer

end TlvCodec
