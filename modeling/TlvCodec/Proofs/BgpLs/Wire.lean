import TlvCodec.BgpLs.Decode
import TlvCodec.BgpLs.Encode
import TlvCodec.Proofs.Tlv.Run

namespace TlvCodec.BgpLs
open BigEndian Decoder
set_option autoImplicit true

variable {bs rest : Bytes} {len : UInt16}

theorem LinkAttrType.number_ne (k : LinkAttrType) (hk : k ≠ .unreservedBandwidth) :
    k.number ≠ LinkAttrType.unreservedBandwidth.number := by
  cases k with
  | unreservedBandwidth => exact absurd rfl hk
  | _ => decide

namespace Attribute

variable {a : Attribute} {t : Tlv}

def value : Attribute → Bytes
  | adminGroup groups => octets32 groups
  | maxLinkBandwidth bandwidth => octets32 bandwidth.toWire
  | maxResvLinkBandwidth bandwidth => octets32 bandwidth.toWire
  | unreservedBandwidth _ => []
  | teDefaultMetric metric => octets32 metric
  | unknown tlv => tlv.value

def tlv (a : Attribute) : Tlv := ⟨a.code, a.value⟩

/-- An attribute as it is sent; unreserved bandwidths leave no trace. -/
def wire : Attribute → Bytes
  | unreservedBandwidth _ => []
  | a => a.tlv.wire

theorem toList_write (a : Attribute) (b : Buffer) : (a.write b).1.toList = b.toList ++ a.wire := by
  cases a with
  | adminGroup groups => exact Buffer.toList_tlv (Buffer.toList_word32 groups)
  | maxLinkBandwidth bandwidth => exact Buffer.toList_tlv (Buffer.toList_word32 bandwidth.toWire)
  | maxResvLinkBandwidth bandwidth =>
    exact Buffer.toList_tlv (Buffer.toList_word32 bandwidth.toWire)
  | unreservedBandwidth => exact (List.append_nil _).symm
  | teDefaultMetric metric => exact Buffer.toList_tlv (Buffer.toList_word32 metric)
  | unknown tlv => exact tlv.toList_write b

theorem wire_length (a : Attribute) : a.wire.length = a.encodedLength := by
  cases a with
  | unreservedBandwidth => rfl
  | _ => exact Tlv.wire_length _

theorem size_write (a : Attribute) (b : Buffer) :
    (a.write b).1.size = b.size + a.encodedLength := by
  rw [← Array.length_toList, toList_write, List.length_append, wire_length, Array.length_toList]

/-- The attributes of one field differ in its reader and in their form. -/
theorem yields_field_iff {r : Reader α} (form : α → Attribute) :
    (do
      if len ≠ 4 then Decoder.fail (.malformedLength len)
      else return form (← Decoder.read r) : Decoder Event Attribute).Yields bs a rest ↔
        len = 4 ∧ ∃ x, a = form x ∧ r bs = .ok (x, rest) := by
  split
  · rename_i hl
    simp [hl]
  · rename_i hl
    simp only [yields_bind, yields_read, yields_pure]
    constructor
    · rintro ⟨x, _, hx, rfl, rfl⟩
      exact ⟨Decidable.not_not.mp hl, x, rfl, hx⟩
    · rintro ⟨-, x, rfl, hx⟩
      exact ⟨x, rest, hx, rfl, rfl⟩

theorem wire_of_field {k : LinkAttrType} {r : Reader α} {value : Bytes} (form : α → Attribute)
    (hcode : ∀ x, (form x).code = k.number) (hsent : ∀ x, (form x).wire = (form x).tlv.wire)
    (hread : ∀ {x bs rest}, r bs = .ok (x, rest) ↔ bs = (form x).value ++ rest)
    (hy : (do
      if len ≠ 4 then Decoder.fail (.malformedLength len)
      else return form (← Decoder.read r) : Decoder Event Attribute).Yields value a []) :
    a.wire = (Tlv.mk k.number value).wire := by
  obtain ⟨-, x, rfl, hx⟩ := (yields_field_iff form).mp hy
  rw [hread, List.append_nil] at hx
  rw [hsent, tlv, hcode, hx]

theorem decodeUnreservedBandwidth_sound
    (h : (decodeUnreservedBandwidth len).Yields bs a rest) :
    len = 32 ∧ ∃ bandwidths, a = unreservedBandwidth bandwidths := by
  unfold decodeUnreservedBandwidth at h
  split at h
  · simp at h
  · rename_i hl
    simp only [yields_bind, yields_pure] at h
    obtain ⟨_, _, -, _, _, -, _, _, -, _, _, -, _, _, -, _, _, -, _, _, -, _, _, -, rfl, -⟩ := h
    exact ⟨Decidable.not_not.mp hl, _, rfl⟩

/-- An element is sent again as it came, but for unreserved bandwidths. -/
theorem wire_of_element (ht : t.Fits) (h : (registry.element t.frame).1 = .ok a) :
    t.code = LinkAttrType.unreservedBandwidth.number ∧ t.wire.length = 36 ∧ a.wire = [] ∨
      t.code ≠ LinkAttrType.unreservedBandwidth.number ∧ a.wire = t.wire := by
  obtain ⟨hc, rfl⟩ | ⟨decode, hd, hy⟩ := Registry.element_eq_ok_iff.mp h
  · refine .inr ⟨?_, rfl⟩
    rw [Registry.lookup_eq_none_iff] at hc
    intro he
    exact hc (he ▸ by decide)
  · have hmem := Registry.mem_of_lookup hd
    obtain ⟨code, value⟩ := t
    simp only [registry, List.mem_cons, Prod.mk.injEq, List.not_mem_nil, or_false] at hmem
    rcases hmem with ⟨rfl, rfl⟩ | ⟨rfl, rfl⟩ | ⟨rfl, rfl⟩ | ⟨rfl, rfl⟩ | ⟨rfl, rfl⟩
    · exact .inr ⟨LinkAttrType.number_ne .adminGroup nofun,
        wire_of_field adminGroup (fun _ => rfl) (fun _ => rfl) Reader.word32_eq_ok_iff hy⟩
    · exact .inr ⟨LinkAttrType.number_ne .maxLinkBandwidth nofun,
        wire_of_field maxLinkBandwidth (fun _ => rfl) (fun _ => rfl) Single.read_eq_ok_iff hy⟩
    · exact .inr ⟨LinkAttrType.number_ne .maxResvLinkBandwidth nofun,
        wire_of_field maxResvLinkBandwidth (fun _ => rfl) (fun _ => rfl) Single.read_eq_ok_iff hy⟩
    · obtain ⟨hl, bandwidths, rfl⟩ := decodeUnreservedBandwidth_sound hy
      refine .inl ⟨rfl, ?_, rfl⟩
      rw [Tlv.wire_length, ← ht.toNat_lengthField, hl]
      rfl
    · exact .inr ⟨LinkAttrType.number_ne .teDefaultMetric nofun,
        wire_of_field teDefaultMetric (fun _ => rfl) (fun _ => rfl) Reader.word32_eq_ok_iff hy⟩

/-- The elements that leave a trace when a run is sent again. -/
def isSent (t : Tlv) : Bool := t.code ≠ LinkAttrType.unreservedBandwidth.number

theorem flatMap_wire_of_run {ts : List Tlv} {as : List Attribute} (hts : ∀ t ∈ ts, t.Fits)
    (h : List.Forall₂ (fun t a => (registry.element t.frame).1 = .ok a) ts as) :
    as.flatMap wire = (ts.filter isSent).flatMap Tlv.wire ∧
      ∀ t ∈ ts, t.code = LinkAttrType.unreservedBandwidth.number → t.wire.length = 36 := by
  induction h with
  | nil => exact ⟨rfl, by simp⟩
  | @cons t a ts as he hes ih =>
    rw [List.forall_mem_cons] at hts
    obtain ⟨hw, hl⟩ := ih hts.2
    rw [List.flatMap_cons, List.forall_mem_cons, hw]
    rcases wire_of_element hts.1 he with ⟨hc, ht, ha⟩ | ⟨hc, ha⟩
    · refine ⟨?_, fun _ => ht, hl⟩
      rw [ha, List.filter_cons_of_neg (by simp [isSent, hc]), List.nil_append]
    · refine ⟨?_, fun h => absurd h hc, hl⟩
      rw [ha, List.filter_cons_of_pos (by simp [isSent, hc]), List.flatMap_cons]

end Attribute

namespace AttributeSet

variable {n : UInt16} {data : Bytes} {s : AttributeSet}

theorem toList_writeFrom (b : Buffer) (noted : List Event) (as : List Attribute) :
    (writeFrom b noted as).1.toList = b.toList ++ as.flatMap Attribute.wire := by
  induction as generalizing b noted with
  | nil => exact (List.append_nil _).symm
  | cons a as ih =>
    rw [writeFrom, ih, a.toList_write, List.append_assoc, List.flatMap_cons]

theorem encode_eq (s : AttributeSet) : s.encode = s.attributes.flatMap Attribute.wire :=
  toList_writeFrom #[] [] s.attributes

theorem length_encode (s : AttributeSet) : s.encode.length = s.length := by
  obtain ⟨as⟩ := s
  rw [encode_eq, length]
  induction as with
  | nil => rfl
  | cons a as ih =>
    rw [List.flatMap_cons, List.length_append, a.wire_length, ih, encodedLengthOf]

theorem decode_apply (n : UInt16) (data : Bytes) :
    decode n data =
      ⟨(Attribute.registry.bounded n data).result.map AttributeSet.mk,
        (Attribute.registry.bounded n data).rest, (Attribute.registry.bounded n data).events⟩ :=
  bind_pure_apply (Attribute.registry.bounded n) AttributeSet.mk data

theorem decode_of_lt (h : data.length < n.toNat) :
    decode n data = ⟨.error .truncatedInput, data, []⟩ := by
  rw [decode_apply, Registry.bounded_of_lt h]
  rfl

theorem decode_of_le (h : n.toNat ≤ data.length) :
    decode n data =
      ⟨(Attribute.registry.sequence .parent (data.take n.toNat)).result.map AttributeSet.mk,
        data.drop n.toNat, (Attribute.registry.sequence .parent (data.take n.toNat)).events⟩ := by
  rw [decode_apply, Registry.bounded_of_le h]

theorem decode_eq_ok_iff : (decode n data).result = .ok s ↔
    n.toNat ≤ data.length ∧
      (Attribute.registry.sequence .parent (data.take n.toNat)).result = .ok s.attributes := by
  rcases Nat.lt_or_ge data.length n.toNat with hlt | hle
  · rw [decode_of_lt hlt]
    simp [Nat.not_le_of_lt hlt]
  · obtain ⟨as⟩ := s
    rw [decode_of_le hle, map_eq_ok_iff]
    simp [hle]

/-- What is decoded is sent again as it came, without the unreserved bandwidths. -/
theorem encode_of_decode (h : (decode n data).result = .ok s) :
    n.toNat ≤ data.length ∧ (∃ ts, IsRun ts (data.take n.toNat)) ∧
      (∀ ts, IsRun ts (data.take n.toNat) →
        s.encode = (ts.filter Attribute.isSent).flatMap Tlv.wire ∧
          (∀ t ∈ ts, t.code = LinkAttrType.unreservedBandwidth.number → t.wire.length = 36) ∧
          ((∀ t ∈ ts, t.code ≠ LinkAttrType.unreservedBandwidth.number) →
            s.encode = data.take n.toNat)) ∧
      s.length = s.encode.length := by
  obtain ⟨hle, hs⟩ := decode_eq_ok_iff.mp h
  refine ⟨hle, Registry.exists_isRun_of_sequence hs, ?_, s.length_encode.symm⟩
  intro ts hrun
  have helements := (Registry.sequence_isRun_iff hrun).mp hs
  obtain ⟨hw, hl⟩ := Attribute.flatMap_wire_of_run hrun.1 helements
  rw [encode_eq, hw]
  refine ⟨rfl, hl, ?_⟩
  intro hnone
  rw [hrun.2, List.filter_eq_self.mpr]
  intro t ht
  simpa [Attribute.isSent] using hnone t ht

/-- A bandwidth that is no number, unreserved bandwidths, and an unknown element. -/
def linkElements : List Tlv :=
  [⟨1089, [0x01, 0x00, 0xc0, 0x7f]⟩, ⟨1091, List.replicate 32 0⟩, ⟨9, [1, 2, 3]⟩]

def linkAttributes : AttributeSet where
  attributes :=
    [.maxLinkBandwidth (.ofWire 0x0100c07f), .unreservedBandwidth (.replicate 8 ⟨0⟩),
      .unknown ⟨9, [1, 2, 3]⟩]

theorem encode_of_decode_linkElements :
    (decode 51 (linkElements.flatMap Tlv.wire ++ [4, 68])).result = .ok linkAttributes ∧
      linkAttributes.encode =
        [0x04, 0x41, 0x00, 0x04, 0x01, 0x00, 0xc0, 0x7f, 0x00, 0x09, 0x00, 0x03, 1, 2, 3] := by
  have hdecode : (decode 51 (linkElements.flatMap Tlv.wire ++ [4, 68])).result =
      .ok linkAttributes := by decide +kernel
  have hrun : IsRun linkElements ((linkElements.flatMap Tlv.wire ++ [4, 68]).take 51) :=
    ⟨by simp [linkElements, Tlv.Fits], by decide⟩
  obtain ⟨-, -, hsent, -⟩ := encode_of_decode hdecode
  exact ⟨hdecode, (hsent linkElements hrun).1⟩

end AttributeSet

end TlvCodec.BgpLs
