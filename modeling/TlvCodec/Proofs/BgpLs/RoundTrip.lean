import TlvCodec.Proofs.BgpLs.Wire

namespace TlvCodec.BgpLs
open BigEndian Decoder
set_option autoImplicit true

namespace Attribute

variable {a : Attribute} {as : List Attribute} {t : Tlv}

def isUnreservedBandwidth : Attribute → Bool
  | unreservedBandwidth _ => true
  | _ => false

/-- A code with a form of its own comes in that form. -/
def Regular : Attribute → Prop
  | unknown tlv => tlv.code ∉ LinkAttrType.all.map LinkAttrType.number
  | _ => True

example : LinkAttrType.all.map LinkAttrType.number = [1088, 1089, 1090, 1091, 1092] := rfl

theorem wire_of_isUnreservedBandwidth (h : a.isUnreservedBandwidth = true) : a.wire = [] := by
  cases a with
  | unreservedBandwidth => rfl
  | _ => cases h

theorem wire_of_not_isUnreservedBandwidth (h : a.isUnreservedBandwidth = false) :
    a.wire = a.tlv.wire := by
  cases a with
  | unreservedBandwidth => cases h
  | _ => rfl

theorem yields_field {r : Reader α} {value : Bytes} (form : α → Attribute) (x : α)
    (hread : r value = .ok (x, [])) :
    (do
      if (4 : UInt16) ≠ 4 then Decoder.fail (.malformedLength 4)
      else return form (← Decoder.read r) : Decoder Event Attribute).Yields value (form x) [] :=
  (yields_field_iff form).mpr ⟨rfl, x, rfl, hread⟩

theorem element_tlv (hs : a.isUnreservedBandwidth = false) (ha : a.Regular) :
    (registry.element a.tlv.frame).1 = .ok a := by
  rw [Registry.element_eq_ok_iff]
  cases a with
  | adminGroup groups =>
    exact .inr ⟨decodeAdminGroup, rfl, yields_field adminGroup groups
      (Reader.word32_eq_ok_iff.mpr (List.append_nil _).symm)⟩
  | maxLinkBandwidth bandwidth =>
    exact .inr ⟨decodeMaxLinkBandwidth, rfl, yields_field maxLinkBandwidth bandwidth
      (Single.read_eq_ok_iff.mpr (List.append_nil _).symm)⟩
  | maxResvLinkBandwidth bandwidth =>
    exact .inr ⟨decodeMaxResvLinkBandwidth, rfl, yields_field maxResvLinkBandwidth bandwidth
      (Single.read_eq_ok_iff.mpr (List.append_nil _).symm)⟩
  | unreservedBandwidth => cases hs
  | teDefaultMetric metric =>
    exact .inr ⟨decodeTeDefaultMetric, rfl, yields_field teDefaultMetric metric
      (Reader.word32_eq_ok_iff.mpr (List.append_nil _).symm)⟩
  | unknown tlv => exact .inl ⟨Registry.lookup_eq_none_iff.mpr ha, rfl⟩

theorem regular_of_element (h : (registry.element t.frame).1 = .ok a) : a.Regular := by
  obtain ⟨hc, rfl⟩ | ⟨decode, hd, hy⟩ := Registry.element_eq_ok_iff.mp h
  · exact Registry.lookup_eq_none_iff.mp hc
  · have hmem := Registry.mem_of_lookup hd
    simp only [registry, List.mem_cons, Prod.mk.injEq, List.not_mem_nil, or_false] at hmem
    rcases hmem with ⟨-, rfl⟩ | ⟨-, rfl⟩ | ⟨-, rfl⟩ | ⟨-, rfl⟩ | ⟨-, rfl⟩
    · obtain ⟨-, groups, rfl, -⟩ := (yields_field_iff adminGroup).mp hy
      trivial
    · obtain ⟨-, bandwidth, rfl, -⟩ := (yields_field_iff maxLinkBandwidth).mp hy
      trivial
    · obtain ⟨-, bandwidth, rfl, -⟩ := (yields_field_iff maxResvLinkBandwidth).mp hy
      trivial
    · obtain ⟨-, bandwidths, rfl⟩ := decodeUnreservedBandwidth_sound hy
      trivial
    · obtain ⟨-, metric, rfl, -⟩ := (yields_field_iff teDefaultMetric).mp hy
      trivial

theorem sequence_flatMap_wire (ha : ∀ a ∈ as, a.Regular) (hl : (as.flatMap wire).length ≤ 65535) :
    (registry.sequence bound (as.flatMap wire)).result =
      .ok (as.filter fun a => !a.isUnreservedBandwidth) := by
  induction as with
  | nil => rw [List.flatMap_nil, Registry.sequence_nil, List.filter_nil]
  | cons a as ih =>
    rw [List.forall_mem_cons] at ha
    rw [List.flatMap_cons, List.length_append] at hl
    have hs := ih ha.2 (Nat.le_of_add_left_le hl)
    rw [List.flatMap_cons]
    cases hu : a.isUnreservedBandwidth with
    | true =>
      rw [wire_of_isUnreservedBandwidth hu, List.nil_append, hs, List.filter_cons_of_neg]
      simp [hu]
    | false =>
      have hw := wire_of_not_isUnreservedBandwidth hu
      have ht : a.tlv.Fits := by
        rw [hw, Tlv.wire_length] at hl
        rw [Tlv.Fits]
        omega
      rw [hw, Registry.sequence_wire_ok ht (element_tlv hu ha.1), hs, List.filter_cons_of_pos]
      · rfl
      · simp [hu]

end Attribute

namespace AttributeSet

variable {n : UInt16} {data : Bytes} {s : AttributeSet}

theorem regular_of_decode (h : (decode n data).result = .ok s) :
    ∀ a ∈ s.attributes, a.Regular := by
  obtain ⟨-, hs⟩ := decode_eq_ok_iff.mp h
  exact Registry.forall_mem_of_sequence (fun _ => Attribute.regular_of_element) hs

theorem yields_decode_encode (hl : s.length ≤ 65535) (ha : ∀ a ∈ s.attributes, a.Regular) :
    (decode (UInt16.ofNat s.length)).Yields s.encode
      ⟨s.attributes.filter fun a => !a.isUnreservedBandwidth⟩ [] := by
  have hn : (UInt16.ofNat s.length).toNat = s.encode.length := by
    rw [s.length_encode, UInt16.toNat_ofNat']
    omega
  have hw : (s.attributes.flatMap Attribute.wire).length ≤ 65535 := by
    rw [← s.encode_eq, s.length_encode]
    exact hl
  rw [Yields, decode_of_le (Nat.le_of_eq hn), hn, List.take_length, List.drop_length, s.encode_eq,
    Attribute.sequence_flatMap_wire ha hw]
  exact ⟨rfl, rfl⟩

/-- Attributes come back from the wire as sent exactly if all are sent and regular. -/
theorem yields_decode_encode_iff (s : AttributeSet) (hl : s.length ≤ 65535) :
    ((decode (UInt16.ofNat s.length)).Yields s.encode s [] ↔
      ∀ a ∈ s.attributes, a.isUnreservedBandwidth = false ∧ a.Regular) ∧
    ((∀ a ∈ s.attributes, a.Regular) →
      (decode (UInt16.ofNat s.length)).Yields s.encode
        ⟨s.attributes.filter fun a => !a.isUnreservedBandwidth⟩ []) := by
  refine ⟨⟨?_, ?_⟩, yields_decode_encode hl⟩
  · intro h
    have ha := regular_of_decode h.1
    -- the same octets cannot come back both with the unreserved bandwidths and without
    have hfilter : s.attributes = s.attributes.filter fun a => !a.isUnreservedBandwidth :=
      congrArg attributes (Except.ok.inj (h.1.symm.trans (yields_decode_encode hl ha).1))
    intro a hmem
    rw [hfilter, List.mem_filter] at hmem
    exact ⟨by simpa using hmem.2, ha a hmem.1⟩
  · intro h
    have hfilter : (s.attributes.filter fun a => !a.isUnreservedBandwidth) = s.attributes :=
      List.filter_eq_self.mpr fun a hmem => by simp [(h a hmem).1]
    have hy := yields_decode_encode hl fun a hmem => (h a hmem).2
    rw [hfilter] at hy
    exact hy

/-- A number that is none, and codes next to the known ones. -/
def plainAttributes : AttributeSet where
  attributes :=
    [.unknown ⟨1087, [1]⟩, .maxResvLinkBandwidth ⟨0xffc00001⟩, .teDefaultMetric 7,
      .unknown ⟨1093, []⟩]

theorem yields_decode_encode_iff_attributes :
    (decode 25).Yields plainAttributes.encode plainAttributes [] ∧
      ¬(decode 15).Yields linkAttributes.encode linkAttributes [] ∧
      (decode 15).Yields linkAttributes.encode
        ⟨[.maxLinkBandwidth (.ofWire 0x0100c07f), .unknown ⟨9, [1, 2, 3]⟩]⟩ [] := by
  have hplain : ∀ a ∈ plainAttributes.attributes, a.isUnreservedBandwidth = false ∧ a.Regular := by
    simp [plainAttributes, Attribute.isUnreservedBandwidth, Attribute.Regular, LinkAttrType.all,
      LinkAttrType.number]
  have hlink : ∀ a ∈ linkAttributes.attributes, a.Regular := by
    simp [linkAttributes, Attribute.Regular, LinkAttrType.all, LinkAttrType.number]
  obtain ⟨hall, -⟩ := yields_decode_encode_iff plainAttributes (by decide)
  obtain ⟨hnone, hsome⟩ := yields_decode_encode_iff linkAttributes (by decide)
  refine ⟨hall.mpr hplain, ?_, hsome hlink⟩
  intro h
  have hsent := (hnone.mp h _ (List.mem_cons_of_mem _ List.mem_cons_self)).1
  cases hsent

end AttributeSet

end TlvCodec.BgpLs
