import TlvCodec.Proofs.Json.Number

namespace TlvCodec.Json
set_option autoImplicit true

mutual

/-- Numbers are exact, and no two fields of an object share a name. -/
def Exact : Json → Prop
  | .number n => n.Exact
  | .array items => ExactItems items
  | .object fields => (fields.map Prod.fst).Nodup ∧ ExactFields fields
  | _ => True

def ExactItems : List Json → Prop
  | [] => True
  | v :: vs => v.Exact ∧ ExactItems vs

def ExactFields : List (String × Json) → Prop
  | [] => True
  | (_, v) :: fs => v.Exact ∧ ExactFields fs

end

theorem exact_nat (h : n < UInt64.size) : (nat n).Exact := by
  constructor
  · omega
  · omega

theorem exact_nats {f : α → Nat} (h : ∀ a, f a < UInt64.size) (l : List α) :
    (array (l.map fun a => nat (f a))).Exact := by
  induction l with
  | nil => trivial
  | cons a l ih => exact ⟨exact_nat (h a), ih⟩

theorem exact_octet (n : UInt8) : (nat n.toNat).Exact :=
  exact_nat (Nat.lt_trans n.toNat_lt (by decide))

theorem exact_word16 (n : UInt16) : (nat n.toNat).Exact :=
  exact_nat (Nat.lt_trans n.toNat_lt (by decide))

theorem exact_word32 (n : UInt32) : (nat n.toNat).Exact :=
  exact_nat (Nat.lt_trans n.toNat_lt (by decide))

theorem exact_octets (bs : List UInt8) : (octets bs).Exact :=
  exact_nats (fun b => Nat.lt_trans b.toNat_lt (by decide)) bs

theorem exact_object {fs : List (String × Json)} (keys : List String)
    (hkeys : fs.map Prod.fst = keys) (hnodup : keys.Nodup) (h : ExactFields fs) :
    (object fs).Exact := by
  subst hkeys
  exact ⟨hnodup, h⟩

theorem exact_tagged {tag : String} (h : v.Exact) : (tagged tag v).Exact :=
  exact_object [tag] rfl (by simp) ⟨h, trivial⟩

mutual

def tokens : Json → List Token
  | .null => [.null]
  | .bool b => [.bool b]
  | .number n => [.number n]
  | .string s => [.string s]
  | .array [] => [.openArray, .closeArray]
  | .array (v :: vs) => .openArray :: (v.tokens ++ tokensOfItems vs ++ [.closeArray])
  | .object [] => [.openObject, .closeObject]
  | .object ((k, v) :: fs) =>
    .openObject :: .string k :: .colon :: (v.tokens ++ tokensOfFields fs ++ [.closeObject])

def tokensOfItems : List Json → List Token
  | [] => []
  | v :: vs => .comma :: (v.tokens ++ tokensOfItems vs)

def tokensOfFields : List (String × Json) → List Token
  | [] => []
  | (k, v) :: fs => .comma :: .string k :: .colon :: (v.tokens ++ tokensOfFields fs)

end

namespace Token

/-- The text, read from its start, leaves the scanner in the state `s`. -/
def Scans (out : String) (s : Scan) : Prop := out.toList.foldlM step? ⟨.blank, []⟩ = some s

/-- The text may end here, with the tokens `found`, last first. -/
def Ends (out : String) (found : List Token) : Prop :=
  ∃ s, Scans out s ∧ finish? s = some ⟨.blank, found⟩

theorem Scans.append {t : String} (h : Scans out s) (ht : t.toList.foldlM step? s = some s') :
    Scans (out ++ t) s' := by
  rw [Scans, String.toList_append, List.foldlM_append, h]
  exact ht

theorem Scans.push (h : Scans out s) (hc : step? s c = some s') : Scans (out.push c) s' := by
  rw [Scans, String.toList_push, List.foldlM_append, h]
  simpa using hc

theorem Scans.pushn (h : Scans out ⟨.blank, found⟩) (n : Nat) :
    Scans (out.pushn ' ' n) ⟨.blank, found⟩ := by
  induction n with
  | zero => exact h
  | succ n ih => exact ih.push rfl

theorem Scans.ends (h : Scans out ⟨.blank, found⟩) : Ends out found := ⟨_, h, rfl⟩

theorem step?_of_finish (h : finish? s = some ⟨.blank, found⟩) (hnumber : isNumberChar c = false)
    (hword : c.isLower = false) : step? s c = start? found c := by
  obtain ⟨mode, found'⟩ := s
  cases mode with
  | blank =>
    cases h
    rfl
  | number seen => simp [step?, hnumber, h]
  | word seen => simp [step?, hword, h]
  | _ => cases h

theorem Ends.push (h : Ends out found) (hc : start? found c = some s)
    (hnumber : isNumberChar c = false) (hword : c.isLower = false) : Scans (out.push c) s := by
  obtain ⟨s', hs, hfinish⟩ := h
  exact hs.push ((step?_of_finish hfinish hnumber hword).trans hc)

theorem Ends.line (h : Ends out found) (n : Nat) :
    Scans ((out.push '\n').pushn ' ' n) ⟨.blank, found⟩ :=
  (h.push rfl rfl rfl).pushn n

theorem Ends.newLine (h : Ends out found) (depth : Option Nat) :
    Ends (newLine depth out) found := by
  cases depth with
  | none => exact h
  | some n => exact (h.line _).ends

theorem Scans.newLine (h : Scans out ⟨.blank, found⟩) (depth : Option Nat) :
    Scans (newLine depth out) ⟨.blank, found⟩ := by
  cases depth with
  | none => exact h
  | some n => exact h.ends.line _

theorem step?_unit (seen : List Char) (found : List Token) {n : Nat} (hn : n < 256) :
    ['0', '0', digitChar (n / 16), digitChar (n % 16)].foldlM step? ⟨.unit seen none 4 0, found⟩ =
      some ⟨.text (Char.ofNat n :: seen), found⟩ := by
  have hhigh := hexValue?_digitChar (n / 16) (by omega)
  have hlow := hexValue?_digitChar (n % 16) (by omega)
  have hzero : hexValue? '0' = some 0 := by decide
  have hsurrogate : ¬(0xd800 ≤ n ∧ n < 0xdc00) ∧ ¬(0xdc00 ≤ n ∧ n < 0xe000) := by omega
  simp [step?, hzero, hhigh, hlow, Nat.div_add_mod', unit?, hsurrogate]

theorem step?_escape (seen : List Char) (found : List Token) (c : Char) :
    (escape c).foldlM step? ⟨.text seen, found⟩ = some ⟨.text (c :: seen), found⟩ := by
  unfold escape
  split
  · next h => rw [h]; rfl
  split
  · next h => rw [h]; rfl
  split
  · next h => rw [h]; rfl
  split
  · next h => rw [h]; rfl
  split
  · next h => rw [h]; rfl
  split
  · next h => rw [← Char.ofNat_toNat c, h]; rfl
  split
  · next h => rw [← Char.ofNat_toNat c, h]; rfl
  split
  · next h =>
    have hunit := step?_unit seen found (n := c.toNat) (by omega)
    rw [Char.ofNat_toNat] at hunit
    exact hunit
  · next hquote hslash _ _ _ _ _ h => simp [step?, hquote, hslash, h]

theorem step?_escaped (seen : List Char) (found : List Token) (cs : List Char) :
    (cs.flatMap escape).foldlM step? ⟨.text seen, found⟩ =
      some ⟨.text (cs.reverse ++ seen), found⟩ := by
  induction cs generalizing seen with
  | nil => rfl
  | cons c cs ih =>
    have hcs := ih (c :: seen)
    rw [List.flatMap_cons, List.foldlM_append, step?_escape, List.reverse_cons,
      List.append_assoc]
    exact hcs

theorem toList_foldl_push (cs : List Char) (out : String) :
    (cs.foldl String.push out).toList = out.toList ++ cs := by
  induction cs generalizing out with
  | nil => simp
  | cons c cs ih => simp [ih]

theorem toList_quote (s : String) :
    (quote s).toList = '"' :: (s.toList.flatMap escape ++ ['"']) := by
  have h (cs : List Char) (out : String) :
      (cs.foldl (fun out c => (escape c).foldl String.push out) out).toList =
        out.toList ++ cs.flatMap escape := by
    induction cs generalizing out with
    | nil => simp
    | cons c cs ih => simp [ih, toList_foldl_push]
  rw [quote, String.toList_push, String.foldl_eq_foldl_toList, h]
  rfl

theorem step?_quote (s : String) (found : List Token) :
    (quote s).toList.foldlM step? ⟨.blank, found⟩ = some ⟨.blank, .string s :: found⟩ := by
  have hopen : step? ⟨.blank, found⟩ '"' = some ⟨.text [], found⟩ := rfl
  rw [toList_quote, List.foldlM_cons, hopen]
  show (s.toList.flatMap escape ++ ['"']).foldlM step? ⟨.text [], found⟩ = _
  rw [List.foldlM_append, step?_escaped]
  simp [step?]

theorem Scans.writeKey (h : Scans out ⟨.blank, found⟩) (depth : Option Nat) (k : String) :
    Scans (writeKey depth k out) ⟨.blank, .colon :: .string k :: found⟩ := by
  unfold Json.writeKey
  split
  · exact (h.append (step?_quote k found)).append rfl
  · exact (h.append (step?_quote k found)).append rfl

theorem isNumberChar_digitChar : ∀ d < 10, isNumberChar (digitChar d) = true := by decide

theorem start?_digitChar (found : List Token) :
    ∀ d < 10, start? found (digitChar d) = some ⟨.number [digitChar d], found⟩ := by
  intro d hd
  match d with
  | 0 | 1 | 2 | 3 | 4 | 5 | 6 | 7 | 8 | 9 => rfl
  | d + 10 => omega

theorem step?_number (seen : List Char) (found : List Token) {cs : List Char}
    (h : ∀ c ∈ cs, isNumberChar c = true) :
    cs.foldlM step? ⟨.number seen, found⟩ = some ⟨.number (cs.reverse ++ seen), found⟩ := by
  induction cs generalizing seen with
  | nil => rfl
  | cons c cs ih =>
    have hc : step? ⟨.number seen, found⟩ c = some ⟨.number (c :: seen), found⟩ := by
      simp [step?, h c List.mem_cons_self]
    have hcs := ih (c :: seen) fun d hd => h d (List.mem_cons_of_mem c hd)
    rw [List.foldlM_cons, hc, List.reverse_cons, List.append_assoc]
    exact hcs

theorem step?_text {n : Number} (h : n.Exact) (found : List Token) :
    n.text.toList.foldlM step? ⟨.blank, found⟩ = some ⟨.number n.text.toList.reverse, found⟩ := by
  cases n with
  | single x => cases h
  | double x => cases h
  | int n =>
    have hbase : 2 ≤ 10 := by decide
    obtain ⟨ds, hds, htext⟩ := exists_numeral hbase n.natAbs
    have hnumber : ∀ c ∈ ds.map digitChar, isNumberChar c = true := by
      intro c hc
      obtain ⟨d, hd, rfl⟩ := List.mem_map.mp hc
      exact isNumberChar_digitChar d (hds.lt d hd)
    rw [Number.toList_text, htext]
    cases decide (n < 0) with
    | true =>
      have hcs := step?_number ['-'] found hnumber
      rw [← List.reverse_cons] at hcs
      exact hcs
    | false =>
      obtain ⟨d, ds', rfl⟩ := List.exists_cons_of_ne_nil hds.ne_nil
      have hd := start?_digitChar found d (hds.lt d List.mem_cons_self)
      have hcs := step?_number [digitChar d] found fun c hc =>
        hnumber c (List.mem_cons_of_mem (digitChar d) hc)
      rw [← List.reverse_cons] at hcs
      show (digitChar d :: ds'.map digitChar).foldlM step? ⟨.blank, found⟩ = _
      rw [List.foldlM_cons, step?, hd]
      exact hcs

theorem Scans.ends_text (h : Scans out ⟨.blank, found⟩) {n : Number} (hn : n.Exact) :
    Ends (out ++ n.text) (.number n :: found) := by
  refine ⟨_, h.append (step?_text hn found), ?_⟩
  rw [finish?, List.reverse_reverse, Number.parse?_text hn]
  rfl

theorem start?_openArray (found : List Token) :
    start? found '[' = some ⟨.blank, .openArray :: found⟩ := rfl

theorem start?_closeArray (found : List Token) :
    start? found ']' = some ⟨.blank, .closeArray :: found⟩ := rfl

theorem start?_openObject (found : List Token) :
    start? found (Char.ofNat 123) = some ⟨.blank, .openObject :: found⟩ := rfl

theorem start?_closeObject (found : List Token) :
    start? found (Char.ofNat 125) = some ⟨.blank, .closeObject :: found⟩ := rfl

theorem start?_comma (found : List Token) :
    start? found ',' = some ⟨.blank, .comma :: found⟩ := rfl

end Token

open Token

mutual

/-- A value that starts between tokens ends where a token may end. -/
theorem ends_write : ∀ {v : Json}, v.Exact → ∀ (depth : Option Nat) {out : String}
    {found : List Token}, Scans out ⟨.blank, found⟩ →
      Ends (v.write depth out) (v.tokens.reverse ++ found)
  | .null, _, _, _, _, h => ⟨_, h.append rfl, rfl⟩
  | .bool true, _, _, _, _, h => ⟨_, h.append rfl, rfl⟩
  | .bool false, _, _, _, _, h => ⟨_, h.append rfl, rfl⟩
  | .number n, hv, _, _, _, h => h.ends_text hv
  | .string s, _, _, _, found, h => (h.append (step?_quote s found)).ends
  | .array [], _, _, _, _, h => (h.append rfl).ends
  | .array (v :: vs), hv, depth, out, found, h => by
    have hopened := h.push (start?_openArray found)
    have hfirst := ends_write hv.1 (deeper depth) (hopened.newLine (deeper depth))
    have hitems := ends_writeItems hv.2 (deeper depth) hfirst
    have hclosed := ((hitems.newLine depth).push (start?_closeArray _) rfl rfl).ends
    simpa [write, tokens] using hclosed
  | .object [], _, _, _, _, h => (h.append rfl).ends
  | .object ((k, v) :: fs), hv, depth, out, found, h => by
    have hopened := h.push (start?_openObject found)
    have hkey := (hopened.newLine (deeper depth)).writeKey depth k
    have hfirst := ends_write hv.2.1 (deeper depth) hkey
    have hfields := ends_writeFields hv.2.2 (deeper depth) hfirst
    have hclosed := ((hfields.newLine depth).push (start?_closeObject _) rfl rfl).ends
    simpa [write, tokens] using hclosed

theorem ends_writeItems : ∀ {vs : List Json}, ExactItems vs → ∀ (depth : Option Nat)
    {out : String} {found : List Token}, Ends out found →
      Ends (writeItems depth vs out) ((tokensOfItems vs).reverse ++ found)
  | [], _, _, _, _, h => h
  | v :: vs, hv, depth, out, found, h => by
    have hcomma := h.push (start?_comma found) rfl rfl
    have hfirst := ends_write hv.1 depth (hcomma.newLine depth)
    have hitems := ends_writeItems hv.2 depth hfirst
    simpa [writeItems, tokensOfItems] using hitems

theorem ends_writeFields : ∀ {fs : List (String × Json)}, ExactFields fs →
    ∀ (depth : Option Nat) {out : String} {found : List Token}, Ends out found →
      Ends (writeFields depth fs out) ((tokensOfFields fs).reverse ++ found)
  | [], _, _, _, _, h => h
  | (k, v) :: fs, hv, depth, out, found, h => by
    have hcomma := h.push (start?_comma found) rfl rfl
    have hkey := (hcomma.newLine depth).writeKey depth k
    have hfirst := ends_write hv.1 depth hkey
    have hfields := ends_writeFields hv.2 depth hfirst
    simpa [writeFields, tokensOfFields] using hfields

end

theorem scan?_write {v : Json} (hv : v.Exact) (depth : Option Nat) :
    scan? (v.write depth "").toList = some v.tokens := by
  have hstart : Scans "" ⟨.blank, []⟩ := rfl
  obtain ⟨s, hs, hfinish⟩ := ends_write hv depth hstart
  rw [List.append_nil] at hfinish
  rw [scan?, hs]
  simp [hfinish]

end TlvCodec.Json
