import Mathlib.Algebra.Group.Nat.Defs
import TlvCodec.Text

namespace TlvCodec
set_option autoImplicit true

theorem mapM_map_eq_some {f : α → β} {g : β → Option α} {l : List α}
    (h : ∀ a ∈ l, g (f a) = some a) : (l.map f).mapM g = some l := by
  induction l with
  | nil => rfl
  | cons a l ih =>
    have hrest := ih fun b hb => h b (List.mem_cons_of_mem a hb)
    simp [h a List.mem_cons_self, hrest]

/-- `ds` are the digits of `n`, highest first, without a leading zero. -/
structure IsNumeral (base n : Nat) (ds : List Nat) : Prop where
  lt : ∀ d ∈ ds, d < base
  value : ds.foldl (fun n d => n * base + d) 0 = n
  ne_nil : ds ≠ []
  head : ds.head? = some 0 → ds.length = 1
  length_le : ∀ k, 0 < k → n < base ^ k → ds.length ≤ k

namespace IsNumeral

theorem single (h : d < base) : IsNumeral base d [d] where
  lt := by simpa using h
  value := by simp
  ne_nil := List.cons_ne_nil d []
  head _ := rfl
  length_le k hk _ := hk

theorem not_isEmpty (h : IsNumeral base n ds) : ¬ds.isEmpty = true := by
  rw [List.isEmpty_iff]
  exact h.ne_nil

theorem not_padded (h : IsNumeral base n ds) : ¬(ds.head? = some 0 ∧ ds.length ≠ 1) :=
  fun ⟨hhead, hlength⟩ => hlength (h.head hhead)

theorem eq_zero (h : IsNumeral base n ds) (hhead : ds.head? = some 0) : n = 0 := by
  obtain ⟨d, rfl⟩ := List.length_eq_one_iff.mp (h.head hhead)
  obtain rfl : d = 0 := by simpa using hhead
  simpa using h.value.symm

theorem snoc (h : IsNumeral base n ds) (hn : 0 < n) (hd : d < base) :
    IsNumeral base (n * base + d) (ds ++ [d]) where
  lt := by
    intro e he
    rcases List.mem_append.mp he with he | he
    · exact h.lt e he
    · rwa [List.mem_singleton.mp he]
  value := by simp [h.value]
  ne_nil := by simp
  head := by
    intro hhead
    obtain ⟨e, es, rfl⟩ := List.exists_cons_of_ne_nil h.ne_nil
    exact absurd (h.eq_zero hhead) (Nat.ne_of_gt hn)
  length_le := by
    intro k hk hlt
    match k with
    | 1 =>
      rw [Nat.pow_one] at hlt
      have : base ≤ n * base := Nat.le_mul_of_pos_left base hn
      omega
    | k + 2 =>
      rw [Nat.pow_succ] at hlt
      have hmul : n * base < base ^ (k + 1) * base := by omega
      have hle := h.length_le (k + 1) (Nat.succ_pos k) (Nat.lt_of_mul_lt_mul_right hmul)
      simpa using hle

end IsNumeral

theorem exists_numeral (hbase : 2 ≤ base) (n : Nat) :
    ∃ ds, IsNumeral base n ds ∧ digits base n = ds.map digitChar := by
  induction n using digits.induct base with
  | case1 n h =>
    have hlt : n < base := by omega
    refine ⟨[n], .single hlt, ?_⟩
    rw [digits, if_pos h]
    rfl
  | case2 n h ih =>
    obtain ⟨ds, hds, htext⟩ := ih
    have hpos : 0 < n / base := Nat.div_pos (by omega) (by omega)
    refine ⟨ds ++ [n % base], ?_, ?_⟩
    · have := hds.snoc hpos (Nat.mod_lt n (by omega))
      rwa [Nat.div_add_mod'] at this
    · rw [digits, if_neg h, htext, List.map_append]
      rfl

end TlvCodec
