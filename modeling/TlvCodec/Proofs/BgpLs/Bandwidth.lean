import TlvCodec.Proofs.BgpLs.RoundTrip

namespace TlvCodec
open BigEndian
set_option autoImplicit true

theorem BigEndian.exists_words {bs : Bytes} (h : bs.length = 4 * n) :
    ∃ ws : Vector UInt32 n, bs = ws.toList.flatMap octets32 := by
  induction n generalizing bs with
  | zero => exact ⟨#v[], List.length_eq_zero_iff.mp h⟩
  | succ n ih =>
    match bs, h with
    | a :: b :: c :: d :: rest, h =>
      have hrest : rest.length = 4 * n := by
        simp only [List.length_cons] at h
        omega
      obtain ⟨ws, rfl⟩ := ih hrest
      refine ⟨⟨(word32 a b c d :: ws.toList).toArray, by simp⟩, ?_⟩
      change _ = octets32 (word32 a b c d) ++ _
      rw [octets32_word32]
      rfl

theorem BigEndian.flatMap_octets32_length (ws : List UInt32) :
    (ws.flatMap octets32).length = 4 * ws.length := by
  induction ws with
  | nil => rfl
  | cons w ws ih =>
    rw [List.flatMap_cons, List.length_append, ih, octets32_length, List.length_cons]
    omega

theorem BigEndian.take_drop_flatMap_octets32 (ws : List UInt32) (hi : i < ws.length) :
    ((ws.flatMap octets32).drop (4 * i)).take 4 = octets32 ws[i] := by
  induction ws generalizing i with
  | nil => exact absurd hi (Nat.not_lt_zero i)
  | cons w ws ih =>
    cases i with
    | zero => rfl
    | succ i => exact ih (Nat.lt_of_succ_lt_succ hi)

theorem exists_forall₂_iff {R : α → β → Prop} {as : List α} :
    (∃ bs, List.Forall₂ R as bs) ↔ ∀ a ∈ as, ∃ b, R a b := by
  induction as with
  | nil => exact iff_of_true ⟨[], .nil⟩ nofun
  | cons a as ih =>
    rw [List.forall_mem_cons, ← ih]
    constructor
    · rintro ⟨_, _ | ⟨hb, hbs⟩⟩
      exact ⟨⟨_, hb⟩, _, hbs⟩
    · rintro ⟨⟨b, hb⟩, bs, hbs⟩
      exact ⟨b :: bs, .cons hb hbs⟩

theorem getElem?_of_forall₂ {R : α → β → Prop} {as : List α} {bs : List β} {k : Nat}
    (h : List.Forall₂ R as bs) (ha : as[k]? = some a) : ∃ b, bs[k]? = some b ∧ R a b := by
  obtain ⟨hk, rfl⟩ := List.getElem?_eq_some_iff.mp ha
  have hk' : k < bs.length := by rwa [← h.length_eq]
  exact ⟨bs[k], List.getElem?_eq_getElem hk', h.get hk hk'⟩

end TlvCodec

namespace TlvCodec.BgpLs
open BigEndian Decoder
set_option autoImplicit true

namespace Attribute

variable {a : Attribute} {t : Tlv}

/-- The bandwidth in bits a second that a word stands for. -/
def bitsOfWord (w : UInt32) : Single := (Single.ofWire w).timesEight

theorem single_read_octets32 (w : UInt32) (rest : Bytes) :
    Single.read (octets32 w ++ rest) = .ok (.ofWire w, rest) := by
  rw [Single.read_eq_ok_iff, Single.toWire_ofWire]

theorem readBits_octets32 (w : UInt32) (rest : Bytes) :
    readBits (octets32 w ++ rest) = ⟨.ok (bitsOfWord w), rest, []⟩ := by
  rw [readBits, bind_of_ok (read_of_ok (single_read_octets32 w rest))]
  rfl

theorem decodeUnreservedBandwidth_words (ws : Vector UInt32 8) :
    decodeUnreservedBandwidth 32 (ws.toList.flatMap octets32) =
      ⟨.ok (.unreservedBandwidth (ws.map bitsOfWord)), [], []⟩ := by
  obtain ⟨⟨ws⟩, h⟩ := ws
  match ws, h with
  | [w₀, w₁, w₂, w₃, w₄, w₅, w₆, w₇], h =>
    change decodeUnreservedBandwidth 32 (octets32 w₀ ++ (octets32 w₁ ++ (octets32 w₂ ++
      (octets32 w₃ ++ (octets32 w₄ ++ (octets32 w₅ ++ (octets32 w₆ ++ (octets32 w₇ ++ [])))))))) = _
    rw [decodeUnreservedBandwidth, if_neg (by simp)]
    rw [bind_of_ok (readBits_octets32 w₀ _), bind_of_ok (readBits_octets32 w₁ _),
      bind_of_ok (readBits_octets32 w₂ _), bind_of_ok (readBits_octets32 w₃ _),
      bind_of_ok (readBits_octets32 w₄ _), bind_of_ok (readBits_octets32 w₅ _),
      bind_of_ok (readBits_octets32 w₆ _), bind_of_ok (readBits_octets32 w₇ _)]
    have hmap : (Vector.mk #[w₀, w₁, w₂, w₃, w₄, w₅, w₆, w₇] h).map bitsOfWord =
        #v[bitsOfWord w₀, bitsOfWord w₁, bitsOfWord w₂, bitsOfWord w₃, bitsOfWord w₄,
          bitsOfWord w₅, bitsOfWord w₆, bitsOfWord w₇] := by simp
    rw [hmap]
    rfl

/-- Each of the eight words is taken for a bandwidth of its own. -/
theorem element_unreservedBandwidth (ws : Vector UInt32 8) :
    (registry.element (Tlv.mk 1091 (ws.toList.flatMap octets32)).frame).1 =
      .ok (.unreservedBandwidth (ws.map bitsOfWord)) := by
  have hlength : (ws.toList.flatMap octets32).length = 32 := by
    rw [flatMap_octets32_length, Vector.length_toList]
  have hfield : (Tlv.mk 1091 (ws.toList.flatMap octets32)).lengthField = 32 := by
    rw [Tlv.lengthField, hlength]
    rfl
  refine Registry.element_eq_ok_iff.mpr (.inr ⟨decodeUnreservedBandwidth, rfl, ?_⟩)
  rw [hfield, Yields, decodeUnreservedBandwidth_words]
  exact ⟨rfl, rfl⟩

theorem element_maxLinkBandwidth (w : UInt32) :
    (registry.element (Tlv.mk 1089 (octets32 w)).frame).1 =
      .ok (.maxLinkBandwidth (.ofWire w)) := by
  have h := element_tlv (a := .maxLinkBandwidth (.ofWire w)) rfl trivial
  rwa [tlv, value, Single.toWire_ofWire] at h

theorem element_maxResvLinkBandwidth (w : UInt32) :
    (registry.element (Tlv.mk 1090 (octets32 w)).frame).1 =
      .ok (.maxResvLinkBandwidth (.ofWire w)) := by
  have h := element_tlv (a := .maxResvLinkBandwidth (.ofWire w)) rfl trivial
  rwa [tlv, value, Single.toWire_ofWire] at h

theorem decode_wire (ht : t.Fits) : (decode t.wire).result = (registry.element t.frame).1 := by
  rw [← List.append_nil t.wire, decode, Registry.one_wire ht]

theorem yields_decode (ht : t.Fits) (h : (registry.element t.frame).1 = .ok a) (rest : Bytes) :
    decode.Yields (t.wire ++ rest) a rest := by
  rw [Yields, decode, Registry.one_wire ht]
  exact ⟨h, rfl⟩

theorem priorities_eq (bandwidths : Vector Single 8) :
    (unreservedBandwidth bandwidths).priorities = (List.range 8).filterMap fun i =>
      ((unreservedBandwidth bandwidths).unreserved? i).map fun x => (i, x) := by
  obtain ⟨⟨xs⟩, h⟩ := bandwidths
  match xs, h with
  | [x₀, x₁, x₂, x₃, x₄, x₅, x₆, x₇], h => rfl

end Attribute

namespace AttributeSet

variable {n : UInt16} {data : Bytes} {ts : List Tlv} {s : AttributeSet} {k : Nat} {t : Tlv}
  {a : Attribute}

/-- A set is decoded if each of its elements is on its own. -/
theorem exists_decode_iff (hle : n.toNat ≤ data.length) (hrun : IsRun ts (data.take n.toNat)) :
    (∃ s, (decode n data).result = .ok s) ↔
      ∀ t ∈ ts, ∃ a, (Attribute.decode t.wire).result = .ok a := by
  have helements : (∃ s, (decode n data).result = .ok s) ↔
      ∀ t ∈ ts, ∃ a, (Attribute.registry.element t.frame).1 = .ok a := by
    simp only [decode_eq_ok_iff, Registry.sequence_isRun_iff hrun, ← exists_forall₂_iff]
    constructor
    · rintro ⟨s, -, hs⟩
      exact ⟨s.attributes, hs⟩
    · rintro ⟨as, has⟩
      exact ⟨⟨as⟩, hle, has⟩
  rw [helements]
  refine forall₂_congr fun t ht => ?_
  rw [Attribute.decode_wire (hrun.1 t ht)]

theorem getElem?_of_decode (hrun : IsRun ts (data.take n.toNat))
    (h : (decode n data).result = .ok s) (ht : ts[k]? = some t) (ha : (Attribute.registry.element t.frame).1 = .ok a) :
    s.attributes[k]? = some a := by
  obtain ⟨-, hs⟩ := decode_eq_ok_iff.mp h
  obtain ⟨b, hb, hsame⟩ := getElem?_of_forall₂ ((Registry.sequence_isRun_iff hrun).mp hs) ht
  rw [hb, Except.ok.inj (hsame.symm.trans ha)]

end AttributeSet

namespace Attribute

/-- Each unreserved bandwidth is what an element of one bandwidth gives for its octets. -/
theorem bandwidth_paths_agree (v : Bytes) (hv : v.length = 32) :
    ∃ bandwidths : Vector Single 8,
      (∀ rest,
        decode.Yields ((Tlv.mk 1091 v).wire ++ rest) (.unreservedBandwidth bandwidths) rest) ∧
      (∀ (n : UInt16) (data : Bytes) (ts : List Tlv), n.toNat ≤ data.length →
        IsRun ts (data.take n.toNat) →
        ((∃ s, (AttributeSet.decode n data).result = .ok s) ↔
          ∀ t ∈ ts, ∃ a, (decode t.wire).result = .ok a) ∧
        ∀ (s : AttributeSet) (k : Nat), (AttributeSet.decode n data).result = .ok s →
          ts[k]? = some ⟨1091, v⟩ →
          s.attributes[k]? = some (.unreservedBandwidth bandwidths)) ∧
      (∀ i < 8, ∃ link resv : Single,
        decode.Yields (Tlv.mk 1089 ((v.drop (4 * i)).take 4)).wire (.maxLinkBandwidth link) [] ∧
        decode.Yields (Tlv.mk 1090 ((v.drop (4 * i)).take 4)).wire
          (.maxResvLinkBandwidth resv) [] ∧
        (unreservedBandwidth bandwidths).unreserved? i = (maxLinkBandwidth link).bitsPerSecond? ∧
        (unreservedBandwidth bandwidths).unreserved? i =
          (maxResvLinkBandwidth resv).bitsPerSecond?) ∧
      (∀ i, 8 ≤ i → (unreservedBandwidth bandwidths).unreserved? i = none) ∧
      (unreservedBandwidth bandwidths).priorities = (List.range 8).filterMap fun i =>
        ((unreservedBandwidth bandwidths).unreserved? i).map fun x => (i, x) := by
  obtain ⟨ws, rfl⟩ := exists_words (n := 8) hv
  have helement := element_unreservedBandwidth ws
  have hfits : (Tlv.mk 1091 (ws.toList.flatMap octets32)).Fits := by
    rw [Tlv.Fits, hv]
    decide
  refine ⟨ws.map bitsOfWord, yields_decode hfits helement, ?_, ?_, ?_, priorities_eq _⟩
  · intro n data ts hle hrun
    refine ⟨AttributeSet.exists_decode_iff hle hrun, ?_⟩
    intro s k hs hk
    exact AttributeSet.getElem?_of_decode hrun hs hk helement
  · intro i hi
    have hw : i < ws.toList.length := by rwa [Vector.length_toList]
    have hfits (code : UInt16) : (Tlv.mk code (octets32 ws[i])).Fits := by
      rw [Tlv.Fits, octets32_length]
      decide
    have hlink := yields_decode (hfits 1089) (element_maxLinkBandwidth ws[i]) []
    have hresv := yields_decode (hfits 1090) (element_maxResvLinkBandwidth ws[i]) []
    have hbits : (unreservedBandwidth (ws.map bitsOfWord)).unreserved? i =
        some (bitsOfWord ws[i]) := by
      simp [unreserved?, hi]
    rw [List.append_nil] at hlink hresv
    rw [take_drop_flatMap_octets32 ws.toList hw, Vector.getElem_toList]
    exact ⟨_, _, hlink, hresv, hbits, hbits⟩
  · intro i hi
    simp [unreserved?, hi]

/-- Eight bandwidths in bytes a second, a NaN and infinity among them. -/
def priorityValue : Bytes :=
  [0x00, 0x00, 0x80, 0x3f, 0x00, 0x00, 0x00, 0x40, 0x00, 0x00, 0x00, 0x3f, 0x00, 0x24, 0xf4, 0x47,
    0x00, 0x00, 0x00, 0x00, 0x80, 0x96, 0x98, 0x49, 0x01, 0x00, 0xc0, 0x7f, 0x00, 0x00, 0x80, 0x7f]

def priorityElements : List Tlv := [⟨1092, [0, 0, 0, 10]⟩, ⟨1091, priorityValue⟩]

theorem bandwidth_paths_agree_priorities :
    ∃ bandwidths : Vector Single 8,
      decode.Yields ((Tlv.mk 1091 priorityValue).wire ++ [7]) (.unreservedBandwidth bandwidths)
        [7] ∧
      (∃ s, (AttributeSet.decode 44 (priorityElements.flatMap Tlv.wire)).result = .ok s ∧
        s.attributes[1]? = some (.unreservedBandwidth bandwidths)) ∧
      (∃ link, decode.Yields (Tlv.mk 1089 [0x00, 0x24, 0xf4, 0x47]).wire
          (.maxLinkBandwidth link) [] ∧
        (unreservedBandwidth bandwidths).unreserved? 3 = some link.timesEight) ∧
      (unreservedBandwidth bandwidths).unreserved? 8 = none := by
  have hrun : IsRun priorityElements
      ((priorityElements.flatMap Tlv.wire).take (44 : UInt16).toNat) :=
    ⟨by simp [priorityElements, priorityValue, Tlv.Fits], by decide⟩
  obtain ⟨bandwidths, halone, hset, hlinks, hnone, -⟩ := bandwidth_paths_agree priorityValue rfl
  obtain ⟨hexists, hplace⟩ := hset 44 (priorityElements.flatMap Tlv.wire) priorityElements
    (by decide) hrun
  have hdecode : ∀ t ∈ priorityElements, ∃ a, (decode t.wire).result = .ok a := by
    simp only [priorityElements, List.forall_mem_cons, List.not_mem_nil, false_implies,
      implies_true, and_true]
    exact ⟨⟨.teDefaultMetric 10, by decide +kernel⟩, _, (halone []).1⟩
  obtain ⟨s, hs⟩ := hexists.mpr hdecode
  obtain ⟨link, -, hlink, -, hbits, -⟩ := hlinks 3 (by decide)
  exact ⟨bandwidths, halone [7], ⟨s, hs, hplace s 1 hs rfl⟩, ⟨link, hlink, hbits⟩,
    hnone 8 (Nat.le_refl 8)⟩

end Attribute

end TlvCodec.BgpLs
