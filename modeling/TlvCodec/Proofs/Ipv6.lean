import TlvCodec.Proofs.Bytes.Reader
import TlvCodec.Proofs.Text

namespace TlvCodec.Ipv6
open BigEndian
set_option autoImplicit true

theorem not_mem_digits {c : Char} (hc : ∀ d < 16, digitChar d ≠ c) (hbase : 2 ≤ base)
    (hle : base ≤ 16) (n : Nat) : c ∉ digits base n := by
  obtain ⟨ds, hds, htext⟩ := exists_numeral hbase n
  rw [htext, List.mem_map]
  rintro ⟨d, hd, hdc⟩
  exact hc d (Nat.lt_of_lt_of_le (hds.lt d hd) hle) hdc

theorem digitChar_ne_colon : ∀ d < 16, digitChar d ≠ ':' := by decide

theorem digitChar_ne_dot : ∀ d < 16, digitChar d ≠ '.' := by decide

theorem pieces_of_not_mem {p : List Char} (h : separator ∉ p) : pieces separator p = [p] := by
  induction p with
  | nil => rfl
  | cons c p ih =>
    obtain ⟨hc, hp⟩ := List.ne_and_not_mem_of_not_mem_cons h
    rw [pieces, if_neg (Ne.symm hc), ih hp]

theorem pieces_append {p : List Char} (h : separator ∉ p) (cs : List Char) :
    pieces separator (p ++ separator :: cs) = p :: pieces separator cs := by
  induction p with
  | nil => rw [List.nil_append, pieces, if_pos rfl]
  | cons c p ih =>
    obtain ⟨hc, hp⟩ := List.ne_and_not_mem_of_not_mem_cons h
    rw [List.cons_append, pieces, if_neg (Ne.symm hc), ih hp]

theorem colon_not_mem_groupText (g : UInt16) : ':' ∉ groupText g :=
  not_mem_digits digitChar_ne_colon (by decide) (Nat.le_refl 16) g.toNat

theorem dot_not_mem_groupText (g : UInt16) : '.' ∉ groupText g :=
  not_mem_digits digitChar_ne_dot (by decide) (Nat.le_refl 16) g.toNat

theorem group?_groupText (g : UInt16) : group? (groupText g) = some g := by
  have hbase : 2 ≤ 16 := by decide
  obtain ⟨ds, hds, htext⟩ := exists_numeral hbase g.toNat
  have hvalues : (ds.map digitChar).mapM hexValue? = some ds :=
    mapM_map_eq_some fun d hd => hexValue?_digitChar d (hds.lt d hd)
  have hlength : ds.length ≤ 4 := hds.length_le 4 (by decide) g.toNat_lt
  have hvalid : ¬(ds.isEmpty = true ∨ 4 < ds.length) :=
    not_or.mpr ⟨hds.not_isEmpty, Nat.not_lt.mpr hlength⟩
  simp only [group?, groupText, htext, hvalues, Option.bind_eq_bind, Option.bind_some,
    if_neg hvalid, hds.value, UInt16.ofNat_toNat]

theorem pieces_joinGroups (g : UInt16) (gs : List UInt16) :
    pieces ':' (joinGroups (g :: gs)) = (g :: gs).map groupText := by
  induction gs generalizing g with
  | nil => exact pieces_of_not_mem (colon_not_mem_groupText g)
  | cons h gs ih =>
    rw [joinGroups, pieces_append (colon_not_mem_groupText g), ih h]
    · rfl
    · simp

theorem groupsOfPieces?_groupText (gs : List UInt16) :
    groupsOfPieces? (gs.map groupText) = some gs := by
  induction gs with
  | nil => rfl
  | cons g gs ih =>
    cases gs with
    | nil => simp [groupsOfPieces?, group?_groupText]
    | cons h gs =>
      simp only [List.map_cons] at ih ⊢
      simp [groupsOfPieces?, group?_groupText, ih]

theorem exists_joinGroups (g : UInt16) (gs : List UInt16) :
    ∃ c cs, joinGroups (g :: gs) = c :: cs ∧ c ≠ ':' := by
  obtain ⟨c, cs, hg⟩ := List.exists_cons_of_ne_nil (digits_ne_nil 16 g.toNat)
  have hc : c ≠ ':' := by
    rintro rfl
    apply colon_not_mem_groupText g
    rw [groupText, hg]
    exact List.mem_cons_self
  cases gs with
  | nil => exact ⟨c, cs, hg, hc⟩
  | cons h gs =>
    refine ⟨c, cs ++ ':' :: joinGroups (h :: gs), ?_, hc⟩
    rw [joinGroups, groupText, hg]
    · rfl
    · simp

theorem groups?_joinGroups (gs : List UInt16) : groups? (joinGroups gs) = some gs := by
  cases gs with
  | nil => rfl
  | cons g gs =>
    obtain ⟨c, cs, h, -⟩ := exists_joinGroups g gs
    have hempty : (joinGroups (g :: gs)).isEmpty = false := by rw [h, List.isEmpty_cons]
    rw [groups?, hempty, pieces_joinGroups]
    exact groupsOfPieces?_groupText (g :: gs)

theorem splitGap?_cons {c : Char} (hc : c ≠ ':') (cs : List Char) :
    splitGap? (c :: cs) = (splitGap? cs).map fun (front, back) => (c :: front, back) := by
  rw [splitGap?]
  intro rest h
  exact absurd h hc

theorem splitGap?_colon {c : Char} (hc : c ≠ ':') (cs : List Char) :
    splitGap? (':' :: c :: cs) =
      (splitGap? (c :: cs)).map fun (front, back) => (':' :: front, back) := by
  rw [splitGap?]
  rintro rest - h
  exact hc (List.cons.inj h).1

theorem splitGap?_append {p : List Char} (hp : ':' ∉ p) (cs : List Char) :
    splitGap? (p ++ cs) = (splitGap? cs).map fun (front, back) => (p ++ front, back) := by
  induction p with
  | nil => simp
  | cons c p ih =>
    obtain ⟨hc, hp⟩ := List.ne_and_not_mem_of_not_mem_cons hp
    rw [List.cons_append, splitGap?_cons (Ne.symm hc), ih hp, Option.map_map]
    rfl

/-- No gap stands in groups that are joined. -/
theorem splitGap?_joinGroups (gs : List UInt16) (cs : List Char) :
    splitGap? (joinGroups gs ++ cs) =
      (splitGap? cs).map fun (front, back) => (joinGroups gs ++ front, back) := by
  induction gs with
  | nil => simp [joinGroups]
  | cons g gs ih =>
    cases gs with
    | nil => exact splitGap?_append (colon_not_mem_groupText g) cs
    | cons h gs =>
      obtain ⟨c, p, hp, hc⟩ := exists_joinGroups h gs
      rw [hp] at ih
      rw [joinGroups, hp, List.append_assoc, splitGap?_append (colon_not_mem_groupText g)]
      · rw [List.cons_append, List.cons_append, splitGap?_colon hc, ← List.cons_append, ih]
        simp [Function.comp_def]
      · simp

theorem dot_not_mem_joinGroups (gs : List UInt16) : '.' ∉ joinGroups gs := by
  induction gs with
  | nil => exact List.not_mem_nil
  | cons g gs ih =>
    cases gs with
    | nil => exact dot_not_mem_groupText g
    | cons h gs => simp [joinGroups, dot_not_mem_groupText g, ih]

theorem zeroRun_eq (gs : List UInt16) :
    gs = List.replicate (zeroRun gs) 0 ++ gs.drop (zeroRun gs) := by
  induction gs with
  | nil => rfl
  | cons g gs ih =>
    by_cases hg : g = 0
    · subst hg
      rw [zeroRun, if_pos rfl, List.replicate_succ, List.drop_succ_cons, List.cons_append, ← ih]
    · rw [zeroRun, if_neg hg]
      rfl

theorem longestZeroRun_eq (start : Nat) (gs : List UInt16) :
    ∃ front back, gs = front ++ List.replicate (longestZeroRun start gs).2 0 ++ back ∧
      (longestZeroRun start gs).1 = start + front.length := by
  induction gs generalizing start with
  | nil => exact ⟨[], [], rfl, rfl⟩
  | cons g gs ih =>
    rw [longestZeroRun]
    split
    · exact ⟨[], _, zeroRun_eq (g :: gs), rfl⟩
    · obtain ⟨front, back, hgs, hstart⟩ := ih (start + 1)
      refine ⟨g :: front, back, ?_, ?_⟩
      · rw [List.cons_append, List.cons_append, ← hgs]
      · rw [hstart, List.length_cons]
        omega

theorem flatMap_pairWords : ∀ {bs : Bytes}, 2 ∣ bs.length →
    (pairWords bs).flatMap octets16 = bs
  | [], _ => rfl
  | [_], h => by simp at h
  | a :: b :: bs, h => by
    have heven : 2 ∣ bs.length := by
      rw [List.length_cons, List.length_cons] at h
      omega
    rw [pairWords, List.flatMap_cons, octets16_word16, flatMap_pairWords heven]
    rfl

theorem flatMap_groups (a : Ipv6) : a.groups.flatMap octets16 = a.octets.val := by
  apply flatMap_pairWords
  rw [a.octets.property]
  decide

theorem length_groups (a : Ipv6) : a.groups.length = 8 := by
  have h := congrArg List.length (flatMap_groups a)
  rw [a.octets.property, flatMap_octets16_length] at h
  omega

theorem ofGroups?_groups (a : Ipv6) : ofGroups? a.groups = some a := by
  simp only [ofGroups?, flatMap_groups, a.octets.property]
  rfl

theorem parse?_joinGroups (gs : List UInt16) : parse? (joinGroups gs) = ofGroups? gs := by
  have hgap := splitGap?_joinGroups gs []
  rw [List.append_nil] at hgap
  simp [parse?, hgap, splitGap?, groups?_joinGroups]

theorem parse?_gap (front : List UInt16) {back : List UInt16} {text : List Char}
    (hback : groups? text = some back) (h : front.length + back.length ≤ 7) :
    parse? (joinGroups front ++ ':' :: ':' :: text) =
      ofGroups? (front ++ List.replicate (8 - (front.length + back.length)) 0 ++ back) := by
  have hgap := splitGap?_joinGroups front (':' :: ':' :: text)
  simp [parse?, hgap, splitGap?, groups?_joinGroups, hback, dot_not_mem_joinGroups,
    Nat.not_lt_of_le h]

theorem group?_of_dot {p : List Char} (h : '.' ∈ p) : group? p = none := by
  have hnone : p.mapM hexValue? = none := by
    induction p with
    | nil => cases h
    | cons c p ih =>
      rw [List.mapM_cons]
      rcases List.mem_cons.mp h with rfl | h
      · rfl
      · rw [ih h]
        cases hexValue? c <;> rfl
  rw [group?, hnone]
  rfl

theorem decimalOctet?_digits (h : n < 256) : decimalOctet? (digits 10 n) = some n := by
  have hbase : 2 ≤ 10 := by decide
  obtain ⟨ds, hds, htext⟩ := exists_numeral hbase n
  have hvalues : (ds.map digitChar).mapM decimalValue? = some ds :=
    mapM_map_eq_some fun d hd => decimalValue?_digitChar d (hds.lt d hd)
  have hlength : ds.length ≤ 3 := hds.length_le 3 (by decide) (by omega)
  have hvalid : ¬(ds.isEmpty = true ∨ 3 < ds.length ∨ 255 < n ∨
      (ds.head? = some 0 ∧ ds.length ≠ 1)) := by
    refine not_or.mpr ⟨hds.not_isEmpty, not_or.mpr ⟨Nat.not_lt.mpr hlength, ?_⟩⟩
    exact not_or.mpr ⟨by omega, hds.not_padded⟩
  simp only [decimalOctet?, htext, hvalues, Option.bind_eq_bind, Option.bind_some, hds.value,
    if_neg hvalid]

theorem dot_not_mem_decimal (n : Nat) : '.' ∉ digits 10 n :=
  not_mem_digits digitChar_ne_dot (by decide) (by decide) n

theorem colon_not_mem_dottedQuad (high low : UInt16) : ':' ∉ dottedQuad high low := by
  have h (n : Nat) : ':' ∉ digits 10 n :=
    not_mem_digits digitChar_ne_colon (by decide) (by decide) n
  simp [dottedQuad, h]

theorem dottedQuad?_dottedQuad (high low : UInt16) :
    dottedQuad? (dottedQuad high low) = some [high, low] := by
  have hpieces : pieces '.' (dottedQuad high low) =
      [digits 10 (high.toNat / 256), digits 10 (high.toNat % 256),
        digits 10 (low.toNat / 256), digits 10 (low.toNat % 256)] := by
    simp only [dottedQuad, List.append_assoc, List.cons_append,
      pieces_append (dot_not_mem_decimal _), pieces_of_not_mem (dot_not_mem_decimal _)]
  have hdiv (g : UInt16) : g.toNat / 256 < 256 := Nat.div_lt_of_lt_mul g.toNat_lt
  have hmod (g : UInt16) : g.toNat % 256 < 256 := Nat.mod_lt g.toNat (by decide)
  have hgroup (g : UInt16) : UInt16.ofNat (g.toNat / 256 * 256 + g.toNat % 256) = g := by
    rw [Nat.div_add_mod', UInt16.ofNat_toNat]
  simp only [dottedQuad?, hpieces, List.mapM_cons, List.mapM_nil, decimalOctet?_digits, hdiv,
    hmod, Option.bind_eq_bind, Option.bind_some, Option.pure_def, hgroup]

theorem parse?_embedded (high low : UInt16) :
    parse? ("::ffff:".toList ++ dottedQuad high low) =
      ofGroups? [0, 0, 0, 0, 0, 0xffff, high, low] := by
  have hquad : groupsOfPieces? [dottedQuad high low] = some [high, low] := by
    have hdot : '.' ∈ dottedQuad high low := by simp [dottedQuad]
    rw [groupsOfPieces?, group?_of_dot hdot, dottedQuad?_dottedQuad]
    rfl
  have hpieces : pieces ':' ("ffff:".toList ++ dottedQuad high low) =
      ["ffff".toList, dottedQuad high low] := by
    rw [← pieces_of_not_mem (colon_not_mem_dottedQuad high low)]
    exact pieces_append (p := "ffff".toList) (by decide) (dottedQuad high low)
  have hgroups : groups? ("ffff:".toList ++ dottedQuad high low) = some [0xffff, high, low] := by
    have hffff : group? "ffff".toList = some 0xffff := by decide
    rw [groups?, hpieces, if_neg (by simp), groupsOfPieces?, hquad, hffff]
    · rfl
    · simp
  exact parse?_gap [] hgroups (by simp)

/-- Every address is read back from its canonical text. -/
theorem parse?_chars (a : Ipv6) : parse? a.chars = some a := by
  have ha := ofGroups?_groups a
  rw [chars]
  split
  · next high low h => rw [parse?_embedded, ← h, ha]
  · -- the zero groups behind the gap are as many as make up eight
    obtain ⟨front, back, hgs, hstart⟩ := longestZeroRun_eq 0 a.groups
    have hlength := congrArg List.length hgs
    generalize longestZeroRun 0 a.groups = run at *
    obtain ⟨start, length⟩ := run
    dsimp only at *
    simp only [length_groups, List.length_append, List.length_replicate] at hlength
    obtain rfl : start = front.length := by omega
    split
    · rw [parse?_joinGroups, ha]
    · have hgiven : 8 - (front.length + back.length) = length := by omega
      have hfront : a.groups.take front.length = front := by simp [hgs]
      have hback : a.groups.drop (front.length + length) = back := by simp [hgs]
      rw [hfront, hback, parse?_gap front (groups?_joinGroups back) (by omega), hgiven, ← hgs, ha]

end TlvCodec.Ipv6
