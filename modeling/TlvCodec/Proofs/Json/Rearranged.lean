import Mathlib.Data.List.Perm.Basic
import TlvCodec.Json.Shape
import TlvCodec.Proofs.Json.Scan

namespace TlvCodec.Json
set_option autoImplicit true

mutual

/-- The same value, with the fields of objects in any order. -/
inductive Rearranged : Json → Json → Prop where
  | same (v : Json) : Rearranged v v
  | array (h : RearrangedItems vs ws) : Rearranged (.array vs) (.array ws)
  | object (h : RearrangedFields fs gs) (hperm : hs.Perm gs) :
    Rearranged (.object fs) (.object hs)

inductive RearrangedItems : List Json → List Json → Prop where
  | nil : RearrangedItems [] []
  | cons (hv : Rearranged v w) (hvs : RearrangedItems vs ws) :
    RearrangedItems (v :: vs) (w :: ws)

inductive RearrangedFields : List (String × Json) → List (String × Json) → Prop where
  | nil : RearrangedFields [] []
  | cons (k : String) (hv : Rearranged v w) (hfs : RearrangedFields fs gs) :
    RearrangedFields ((k, v) :: fs) ((k, w) :: gs)

end

theorem RearrangedItems.same : ∀ vs : List Json, RearrangedItems vs vs
  | [] => .nil
  | v :: vs => .cons (.same v) (.same vs)

theorem RearrangedFields.same : ∀ fs : List (String × Json), RearrangedFields fs fs
  | [] => .nil
  | (k, v) :: fs => .cons k (.same v) (.same fs)

theorem RearrangedFields.names_eq (h : RearrangedFields fs gs) :
    gs.map Prod.fst = fs.map Prod.fst := by
  induction fs generalizing gs with
  | nil => cases h; rfl
  | cons f fs ih =>
    cases h with
    | cons k hv hfs => rw [List.map_cons, List.map_cons, ih hfs]

theorem RearrangedFields.items (h : RearrangedFields fs gs) :
    RearrangedItems (fs.map Prod.snd) (gs.map Prod.snd) := by
  induction fs generalizing gs with
  | nil => cases h; exact .nil
  | cons f fs ih =>
    cases h with
    | cons k hv hfs => exact .cons hv (ih hfs)

theorem Rearranged.string (h : Rearranged (.string s) w) : w = .string s := by
  cases h
  rfl

theorem Rearranged.number (h : Rearranged (.number n) w) : w = .number n := by
  cases h
  rfl

theorem Rearranged.items (h : Rearranged (.array vs) w) :
    ∃ ws, w = .array ws ∧ RearrangedItems vs ws := by
  cases h with
  | same => exact ⟨vs, rfl, .same vs⟩
  | array h => exact ⟨_, rfl, h⟩

theorem Rearranged.fields (h : Rearranged (.object fs) w) :
    ∃ gs hs, w = .object hs ∧ RearrangedFields fs gs ∧ hs.Perm gs := by
  cases h with
  | same => exact ⟨fs, fs, rfl, .same fs, .refl fs⟩
  | object h hperm => exact ⟨_, _, rfl, h, hperm⟩

theorem Rearranged.tagged (h : Rearranged (.tagged tag v) w) :
    ∃ v', w = .tagged tag v' ∧ Rearranged v v' := by
  obtain ⟨gs, hs, rfl, hfields, hperm⟩ := h.fields
  cases hfields with
  | cons k hv hnil =>
    cases hnil
    rw [List.perm_singleton.mp hperm]
    exact ⟨_, rfl, hv⟩

theorem lookup_of_mem {fs : List (String × Json)} (hnodup : (fs.map Prod.fst).Nodup)
    (hmem : (k, v) ∈ fs) : fs.lookup k = some v := by
  induction fs with
  | nil => cases hmem
  | cons f fs ih =>
    obtain ⟨l, w⟩ := f
    obtain ⟨hl, hfs⟩ := List.nodup_cons.mp hnodup
    rcases List.mem_cons.mp hmem with heq | hin
    · cases heq
      exact List.lookup_cons_self
    · have hne : (k == l) = false := by
        rw [beq_eq_false_iff_ne]
        rintro rfl
        exact hl (List.mem_map.mpr ⟨(k, v), hin, rfl⟩)
      rw [List.lookup_cons, hne]
      exact ih hfs hin

theorem mapM_lookup {fs gs : List (String × Json)} (hnodup : (fs.map Prod.fst).Nodup)
    (hsub : ∀ g ∈ gs, g ∈ fs) :
    ((gs.map Prod.fst).mapM fun key => fs.lookup key) = some (gs.map Prod.snd) := by
  induction gs with
  | nil => rfl
  | cons g gs ih =>
    have hg := lookup_of_mem hnodup (hsub g List.mem_cons_self)
    have hgs := ih fun h hh => hsub h (List.mem_cons_of_mem g hh)
    simp [hg, hgs]

/-- The fields of an object are found by name wherever they stand. -/
theorem Rearranged.namedFields? (h : Rearranged (.object fs) w) (keys : List String)
    (hkeys : fs.map Prod.fst = keys) (hnodup : keys.Nodup) :
    ∃ ws, w.namedFields? keys = some ws ∧ RearrangedItems (fs.map Prod.snd) ws := by
  obtain ⟨gs, hs, rfl, hfields, hperm⟩ := h.fields
  have hnames := hfields.names_eq.trans hkeys
  refine ⟨gs.map Prod.snd, ?_, hfields.items⟩
  rw [← hnames] at hnodup ⊢
  exact mapM_lookup ((hperm.map Prod.fst).nodup_iff.mpr hnodup) fun g hg => hperm.mem_iff.mpr hg

theorem Rearranged.record? (h : Rearranged (.object fs) w) (keys : List String)
    (hkeys : fs.map Prod.fst = keys) (hnodup : keys.Nodup) :
    ∃ ws, w.record? keys = some ws ∧ RearrangedItems (fs.map Prod.snd) ws := by
  obtain ⟨gs, hs, rfl, -⟩ := h.fields
  exact h.namedFields? keys hkeys hnodup

theorem Rearranged.single (h : Rearranged (.object [(k, v)]) w) :
    ∃ v', w.record? [k] = some [v'] ∧ Rearranged v v' := by
  obtain ⟨ws, hr, hws⟩ := h.record? [k] rfl (by simp)
  obtain _ | ⟨hv, _ | _⟩ := hws
  exact ⟨_, hr, hv⟩

theorem natBelow?_nat (h : n < bound) : (nat n).natBelow? bound = some n := by
  simp [natBelow?, nat, int?, h]

theorem octet?_nat (n : UInt8) : (nat n.toNat).octet? = some n := by
  rw [octet?, natBelow?_nat n.toNat_lt, Option.map_some, UInt8.ofNat_toNat]

theorem word16?_nat (n : UInt16) : (nat n.toNat).word16? = some n := by
  rw [word16?, natBelow?_nat n.toNat_lt, Option.map_some, UInt16.ofNat_toNat]

theorem word32?_nat (n : UInt32) : (nat n.toNat).word32? = some n := by
  rw [word32?, natBelow?_nat n.toNat_lt, Option.map_some, UInt32.ofNat_toNat]

theorem octets?_octets (bs : List UInt8) : (octets bs).octets? = some bs :=
  mapM_map_eq_some fun b _ => octet?_nat b

theorem Rearranged.octet? {n : UInt8} (h : Rearranged (.nat n.toNat) w) : w.octet? = some n := by
  rw [h.number]
  exact octet?_nat n

theorem Rearranged.word16? {n : UInt16} (h : Rearranged (.nat n.toNat) w) :
    w.word16? = some n := by
  rw [h.number]
  exact word16?_nat n

theorem Rearranged.word32? {n : UInt32} (h : Rearranged (.nat n.toNat) w) :
    w.word32? = some n := by
  rw [h.number]
  exact word32?_nat n

theorem RearrangedItems.numbers {ns : List α} {f : α → Nat}
    (h : RearrangedItems (ns.map fun n => .nat (f n)) ws) : ws = ns.map fun n => .nat (f n) := by
  induction ns generalizing ws with
  | nil => cases h; rfl
  | cons n ns ih =>
    cases h with
    | cons hn hns => rw [hn.number, ih hns, List.map_cons]; rfl

theorem Rearranged.numbers {ns : List α} {f : α → Nat}
    (h : Rearranged (.array (ns.map fun n => .nat (f n))) w) :
    w = .array (ns.map fun n => .nat (f n)) := by
  obtain ⟨ws, rfl, hws⟩ := h.items
  rw [hws.numbers]

theorem Rearranged.octets? {bs : List UInt8} (h : Rearranged (.octets bs) w) :
    w.octets? = some bs := by
  rw [h.numbers]
  exact octets?_octets bs

theorem Rearranged.octetsOrText? {bs : List UInt8} (h : Rearranged (.octets bs) w) :
    w.octetsOrText? = some bs := by
  rw [h.numbers]
  exact octets?_octets bs

theorem names_canonicalFields (fs : List (String × Json)) :
    (canonicalFields fs).map Prod.fst = fs.map Prod.fst := by
  induction fs with
  | nil => rfl
  | cons f fs ih => rw [canonicalFields, List.map_cons, List.map_cons, ih]

theorem exactFields_iff {fs : List (String × Json)} : ExactFields fs ↔ ∀ f ∈ fs, f.2.Exact := by
  induction fs with
  | nil => simp [ExactFields]
  | cons f fs ih => simp [ExactFields, ih]

theorem Number.widen_of_exact {n : Number} (h : n.Exact) : n.widen = n := by
  cases n with
  | int n => rfl
  | double x => rfl
  | single x => cases h

mutual

theorem Exact.canonical : ∀ {v : Json}, v.Exact → v.canonical.Exact
  | .null, _ => trivial
  | .bool _, _ => trivial
  | .number n, h => by
    rw [Json.canonical, Number.widen_of_exact h]
    exact h
  | .string _, _ => trivial
  | .array _, h => ExactItems.canonical h
  | .object fs, h => by
    have hperm := List.mergeSort_perm (canonicalFields fs) fun a b => a.1 ≤ b.1
    refine ⟨?_, ?_⟩
    · rw [(hperm.map Prod.fst).nodup_iff, names_canonicalFields]
      exact h.1
    · rw [exactFields_iff]
      intro f hf
      exact exactFields_iff.mp (ExactFields.canonical h.2) f (hperm.mem_iff.mp hf)

theorem ExactItems.canonical : ∀ {vs : List Json}, ExactItems vs → ExactItems (canonicalItems vs)
  | [], _ => trivial
  | _ :: _, h => ⟨h.1.canonical, ExactItems.canonical h.2⟩

theorem ExactFields.canonical : ∀ {fs : List (String × Json)},
    ExactFields fs → ExactFields (canonicalFields fs)
  | [], _ => trivial
  | (_, _) :: _, h => ⟨h.1.canonical, ExactFields.canonical h.2⟩

end

mutual

/-- The form shown is the value but for the order of fields. -/
theorem Exact.rearranged : ∀ {v : Json}, v.Exact → Rearranged v v.canonical
  | .null, _ => .same _
  | .bool _, _ => .same _
  | .number n, h => by
    rw [Json.canonical, Number.widen_of_exact h]
    exact .same _
  | .string _, _ => .same _
  | .array _, h => .array (ExactItems.rearranged h)
  | .object _, h => .object (ExactFields.rearranged h.2) (List.mergeSort_perm _ _)

theorem ExactItems.rearranged : ∀ {vs : List Json},
    ExactItems vs → RearrangedItems vs (canonicalItems vs)
  | [], _ => .nil
  | _ :: _, h => .cons h.1.rearranged (ExactItems.rearranged h.2)

theorem ExactFields.rearranged : ∀ {fs : List (String × Json)},
    ExactFields fs → RearrangedFields fs (canonicalFields fs)
  | [], _ => .nil
  | (k, _) :: _, h => .cons k h.1.rearranged (ExactFields.rearranged h.2)

end

end TlvCodec.Json
