import TlvCodec.Json.Parse
import TlvCodec.Proofs.Text

namespace TlvCodec.Json
set_option autoImplicit true

/-- The numbers that are read back as integers: those of 64 bits. -/
def Number.Exact : Number → Prop
  | .int n => -(UInt64.size / 2) ≤ n ∧ n < UInt64.size
  | _ => False

theorem takeDigits_map {ds : List Nat} (h : ∀ d ∈ ds, d < 10) :
    takeDigits (ds.map digitChar) = (ds, []) := by
  induction ds with
  | nil => rfl
  | cons d ds ih =>
    have hd := decimalValue?_digitChar d (h d List.mem_cons_self)
    have hds := ih fun e he => h e (List.mem_cons_of_mem d he)
    rw [List.map_cons, takeDigits, hd, hds]

theorem le_foldl (k : Nat) (ds : List Nat) : k ≤ ds.foldl (fun n d => n * 10 + d) k := by
  induction ds generalizing k with
  | nil => exact Nat.le_refl k
  | cons d ds ih =>
    have := ih (k * 10 + d)
    rw [List.foldl_cons]
    omega

theorem Kept.whole_eq {k : Nat} {ds : List Nat}
    (h : ds.foldl (fun n d => n * 10 + d) k < UInt64.size) (e : Int) :
    Kept.whole false ⟨k, e⟩ ds = (⟨ds.foldl (fun n d => n * 10 + d) k, e⟩, false) := by
  induction ds generalizing k with
  | nil => rfl
  | cons d ds ih =>
    have hle := le_foldl (k * 10 + d) ds
    have hfits : ¬(false = true ∨ UInt64.size ≤ k * 10 + d) := by
      rw [List.foldl_cons] at h
      rintro (hfull | hsize)
      · cases hfull
      · omega
    rw [Kept.whole, if_neg hfits, ih h]
    rfl

theorem digitChar_ne_minus : ∀ d < 10, digitChar d ≠ '-' := by decide

theorem Number.ofWhole?_eq {negative : Bool} (hneg : negative = true → 0 < n ∧ n ≤ UInt64.size / 2) :
    Number.ofWhole? negative false ⟨n, 0⟩ = some (.int (if negative then -n else n)) := by
  have h : ¬(false = true ∨ negative = true ∧ (n = 0 ∨ UInt64.size / 2 < n)) := by
    rintro (hfull | ⟨hnegative, hn⟩)
    · cases hfull
    · have := hneg hnegative
      omega
  rw [Number.ofWhole?, if_neg h]

theorem Number.parse?_digits {negative : Bool} (hlt : n < UInt64.size)
    (hneg : negative = true → 0 < n ∧ n ≤ UInt64.size / 2) :
    Number.parse? ((if negative then ['-'] else []) ++ digits 10 n) =
      some (.int (if negative then -n else n)) := by
  have hbase : 2 ≤ 10 := by decide
  obtain ⟨ds, hds, htext⟩ := exists_numeral hbase n
  have hvalid : ¬(ds.isEmpty = true ∨ (ds.head? = some 0 ∧ ds.length ≠ 1)) :=
    not_or.mpr ⟨hds.not_isEmpty, hds.not_padded⟩
  have hwhole := Kept.whole_eq (k := 0) (hds.value ▸ hlt) 0
  rw [hds.value] at hwhole
  have hplus : ∀ rest, ds.map digitChar ≠ '-' :: rest := by
    intro rest h
    obtain ⟨d, ds', rfl, hd, -⟩ := List.map_eq_cons_iff.mp h
    exact digitChar_ne_minus d (hds.lt d List.mem_cons_self) hd
  rw [htext]
  cases negative with
  | true =>
    show Number.parse? ('-' :: ds.map digitChar) = some (.int (-n))
    rw [Number.parse?]
    simp only [takeDigits_map hds.lt, if_neg hvalid, hwhole, Number.ofWhole?_eq hneg, if_pos]
  | false =>
    show Number.parse? (ds.map digitChar) = some (.int n)
    rw [Number.parse?]
    · simp only [takeDigits_map hds.lt, if_neg hvalid, hwhole, Number.ofWhole?_eq hneg]
      rfl
    · exact hplus

theorem Number.toList_text (n : Int) : (Number.int n).text.toList =
    (if decide (n < 0) then ['-'] else []) ++ digits 10 n.natAbs := by
  rw [Number.text, String.toList_append, decimal, String.toList_ofList]
  by_cases hn : n < 0
  · simp [hn]
  · simp [hn]

theorem Number.parse?_text {n : Number} (h : n.Exact) : Number.parse? n.text.toList = some n := by
  cases n with
  | single x => cases h
  | double x => cases h
  | int n =>
    obtain ⟨hlow, hhigh⟩ := h
    have hsign : (if decide (n < 0) = true then -(n.natAbs : Int) else n.natAbs) = n := by
      by_cases hn : n < 0
      · rw [decide_eq_true hn, if_pos rfl]
        omega
      · rw [decide_eq_false hn, if_neg Bool.false_ne_true]
        omega
    rw [Number.toList_text, Number.parse?_digits, hsign]
    · omega
    · intro hn
      have := of_decide_eq_true hn
      omega

end TlvCodec.Json
