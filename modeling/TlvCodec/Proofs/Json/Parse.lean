import Mathlib.Data.List.Nodup
import TlvCodec.Proofs.Json.Scan

namespace TlvCodec.Json
set_option autoImplicit true

namespace Builder

theorem step?_firstItem {t : Token} (h : t ≠ .closeArray) (stack : List Frame) :
    step? (.firstItem (.array [] :: stack)) t = step? (.value (.array [] :: stack)) t := by
  cases t with
  | closeArray => exact absurd rfl h
  | _ => rfl

theorem addField_of_nodup {done : List (String × Json)} {key : String} {later : List String}
    (h : ((done.map Prod.fst).reverse ++ key :: later).Nodup) (v : Json) :
    addField done key v = (key, v) :: done := by
  have hkey : key ∉ (done.map Prod.fst).reverse ++ later :=
    (List.nodup_cons.mp (List.nodup_middle.mp h)).1
  have hany : done.any (·.1 == key) = false := by
    rw [List.any_eq_false]
    intro f hf hname
    apply hkey
    rw [← eq_of_beq hname]
    exact List.mem_append_left later (List.mem_reverse.mpr (List.mem_map_of_mem hf))
  rw [addField, hany]
  rfl

end Builder

open Builder

theorem exists_tokens (v : Json) : ∃ t ts, v.tokens = t :: ts ∧ t ≠ .closeArray := by
  cases v with
  | array items => cases items <;> exact ⟨_, _, rfl, nofun⟩
  | object fields => cases fields <;> exact ⟨_, _, rfl, nofun⟩
  | _ => exact ⟨_, _, rfl, nofun⟩

theorem foldlM_firstItem (v : Json) (stack : List Frame) :
    v.tokens.foldlM step? (.firstItem (.array [] :: stack)) =
      v.tokens.foldlM step? (.value (.array [] :: stack)) := by
  obtain ⟨t, ts, htokens, ht⟩ := exists_tokens v
  rw [htokens, List.foldlM_cons, List.foldlM_cons, step?_firstItem ht]

mutual

/-- The tokens of a value complete it, inside whatever containers are open. -/
theorem foldlM_tokens : ∀ {v : Json}, v.Exact → ∀ stack : List Frame,
    v.tokens.foldlM step? (.value stack) = some (.after stack v)
  | .null, _, _ => rfl
  | .bool _, _, _ => rfl
  | .number _, _, _ => rfl
  | .string _, _, _ => rfl
  | .array [], _, _ => rfl
  | .array (v :: vs), hv, stack => by
    have hfirst := foldlM_tokens hv.1 (.array [] :: stack)
    have hitems := foldlM_tokensOfItems hv.2 [] stack v
    rw [← foldlM_firstItem] at hfirst
    rw [tokens, List.foldlM_cons, List.append_assoc]
    show (v.tokens ++ _).foldlM step? (.firstItem (.array [] :: stack)) = _
    rw [List.foldlM_append, hfirst]
    exact hitems
  | .object [], _, _ => rfl
  | .object ((k, v) :: fs), hv, stack => by
    have hfirst := foldlM_tokens hv.2.1 (.object [] k :: stack)
    have hfields := foldlM_tokensOfFields hv.2.2 [] k stack v hv.1
    rw [tokens, List.append_assoc]
    show (v.tokens ++ _).foldlM step? (.value (.object [] k :: stack)) = _
    rw [List.foldlM_append, hfirst]
    exact hfields

theorem foldlM_tokensOfItems : ∀ {vs : List Json}, ExactItems vs → ∀ (done : List Json)
    (stack : List Frame) (v : Json),
      (tokensOfItems vs ++ [Token.closeArray]).foldlM step? (.after (.array done :: stack) v) =
        some (.after stack (.array (done.reverse ++ v :: vs)))
  | [], _, done, stack, v => by simp [tokensOfItems, step?]
  | w :: vs, hv, done, stack, v => by
    have hfirst := foldlM_tokens hv.1 (.array (v :: done) :: stack)
    have hitems := foldlM_tokensOfItems hv.2 (v :: done) stack w
    rw [tokensOfItems, List.cons_append, List.append_assoc]
    show (w.tokens ++ _).foldlM step? (.value (.array (v :: done) :: stack)) = _
    rw [List.foldlM_append, hfirst]
    simpa using hitems

theorem foldlM_tokensOfFields : ∀ {fs : List (String × Json)}, ExactFields fs →
    ∀ (done : List (String × Json)) (k : String) (stack : List Frame) (v : Json),
      ((done.map Prod.fst).reverse ++ k :: fs.map Prod.fst).Nodup →
        (tokensOfFields fs ++ [Token.closeObject]).foldlM step?
            (.after (.object done k :: stack) v) =
          some (.after stack (.object (done.reverse ++ (k, v) :: fs)))
  | [], _, done, k, stack, v, hnodup => by
    simp [tokensOfFields, step?, addField_of_nodup hnodup]
  | (l, w) :: fs, hv, done, k, stack, v, hnodup => by
    have hfirst := foldlM_tokens hv.1 (.object ((k, v) :: done) l :: stack)
    have hfields := foldlM_tokensOfFields hv.2 ((k, v) :: done) l stack w (by simpa using hnodup)
    have hcomma : step? (.after (.object done k :: stack) v) .comma =
        some (.key stack ((k, v) :: done) false) := by
      rw [step?, addField_of_nodup hnodup]
    rw [tokensOfFields, List.cons_append, List.foldlM_cons, hcomma, List.cons_append,
      List.cons_append, List.append_assoc]
    show (w.tokens ++ _).foldlM step? (.value (.object ((k, v) :: done) l :: stack)) = _
    rw [List.foldlM_append, hfirst]
    simpa using hfields

end

/-- A value whose text says all there is to it is read back. -/
theorem parse?_write {v : Json} (hv : v.Exact) (depth : Option Nat) :
    parse? (v.write depth "") = some v := by
  simp [parse?, scan?_write hv, foldlM_tokens hv]

end TlvCodec.Json
