import TlvCodec.Proofs.Dhcp6.Header

namespace TlvCodec.Dhcp6
open BigEndian Decoder
set_option autoImplicit true

variable {bs rest : Bytes} {len : UInt16}

namespace RelayDepth

theorem left_of_enter?_none {d : RelayDepth} (h : d.enter? = none) : d.left = 0 := by
  unfold enter? at h
  split at h
  · rename_i hd
    exact Nat.sub_eq_zero_of_le (UInt8.le_iff_toNat_le.mp hd)
  · cases h

end RelayDepth

namespace DhcpOption

variable {o : DhcpOption} {duid : Duid} {options : List DhcpOption}

theorem yields_ofDuid (form : Duid → DhcpOption) :
    (do return form (← Duid.decode len) : Decoder Event DhcpOption).Yields bs o rest ↔
      ∃ duid, o = form duid ∧ (Duid.decode len : Decoder Event Duid).Yields bs duid rest := by
  simp only [yields_bind, yields_pure]
  constructor
  · rintro ⟨duid, _, h, rfl, rfl⟩
    exact ⟨duid, rfl, h⟩
  · rintro ⟨duid, rfl, h⟩
    exact ⟨duid, rest, h, rfl, rfl⟩

theorem decodeOptionRequest_sound (h : (decodeOptionRequest len).Yields bs o rest) :
    ∃ codes, o = optionRequest codes ∧ bs = o.value ++ rest := by
  unfold decodeOptionRequest at h
  split at h
  · simp at h
  · simp only [yields_bind, yields_words, yields_pure] at h
    obtain ⟨codes, _, ⟨rfl, rfl⟩, rfl, rfl⟩ := h
    exact ⟨codes, rfl, (List.append_nil _).symm⟩

theorem decodeOptionRequest_complete (hl : len.toNat = (optionRequest codes).valueLength) :
    (decodeOptionRequest len).Yields (optionRequest codes).value (optionRequest codes) [] := by
  have h : len % 2 = 0 := by
    apply UInt16.toNat_inj.mp
    rw [UInt16.toNat_mod, hl]
    exact Nat.mul_mod_left _ _
  simp only [decodeOptionRequest, h, ne_eq, not_true_eq_false, if_false, yields_bind,
    yields_words, yields_pure]
  exact ⟨codes, [], ⟨rfl, rfl⟩, rfl, rfl⟩

theorem decodeElapsedTime_sound (h : (decodeElapsedTime len).Yields bs o rest) :
    ∃ time, o = elapsedTime time ∧ bs = o.value ++ rest := by
  unfold decodeElapsedTime at h
  split at h
  · simp at h
  · simp only [yields_bind, yields_read, Reader.word16_eq_ok_iff, yields_pure] at h
    obtain ⟨time, _, rfl, rfl, rfl⟩ := h
    exact ⟨time, rfl, rfl⟩

theorem decodeElapsedTime_complete (hl : len.toNat = (elapsedTime time).valueLength) :
    (decodeElapsedTime len).Yields (elapsedTime time).value (elapsedTime time) [] := by
  have h : len = 2 := UInt16.toNat_inj.mp hl
  simp only [decodeElapsedTime, h, ne_eq, not_true_eq_false, if_false, yields_bind, yields_read,
    Reader.word16_eq_ok_iff, yields_pure]
  exact ⟨time, [], (List.append_nil _).symm, rfl, rfl⟩

theorem allowedIn_of_mem (hne : ∀ t, o ≠ unknown t) (h : o.code ∈ scope.codes) :
    o.AllowedIn scope := by
  cases o with
  | unknown t => exact absurd rfl (hne t)
  | _ => exact h

/-- A registry accepts what is regular if its decoders read their own values. -/
theorem inverts_of_decoders {r : Registry Event DhcpOption}
    (hcodes : r.decoders.map Prod.fst = scope.codes) (hunknown : r.unknown = unknown)
    (hsound : ∀ {code decode len bs o}, (code, decode) ∈ r.decoders →
      (decode len).Yields bs o [] →
        (∀ t, o ≠ unknown t) ∧ o.Regular ∧ o.nesting ≤ n ∧ o.code = code ∧ bs = o.value ++ [])
    (hcomplete : ∀ {o}, o.code ∈ scope.codes → o.AllowedIn scope → o.Regular → o.nesting ≤ n →
      ∃ decode, r.lookup o.code = some decode ∧
        ∀ {len}, len.toNat = o.valueLength → (decode len).Yields o.value o []) :
    r.Inverts (FitsIn scope n) tlv where
  sound {t o} ht h := by
    obtain ⟨hc, rfl⟩ | ⟨decode, hd, hy⟩ := Registry.element_eq_ok_iff.mp h
    · rw [Registry.lookup_eq_none_iff, hcodes] at hc
      rw [hunknown]
      exact ⟨⟨⟨hc, ht, trivial⟩, Nat.zero_le n⟩, rfl⟩
    · have hmem := Registry.mem_of_lookup hd
      obtain ⟨hne, ho, hn, hc, hv⟩ := hsound hmem hy
      rw [List.append_nil] at hv
      have ha : o.AllowedIn scope := by
        apply allowedIn_of_mem hne
        rw [hc, ← hcodes]
        exact List.mem_map_of_mem hmem
      have hl : o.valueLength ≤ 65535 := by
        rw [← o.value_length, ← hv]
        exact ht
      exact ⟨⟨⟨ha, hl, ho⟩, hn⟩, congrArg₂ Tlv.mk hc hv.symm⟩
  complete {o} ho := by
    obtain ⟨⟨ha, hl, ho⟩, hn⟩ := ho
    have ht : o.tlv.Fits := by
      rw [Tlv.Fits, tlv, o.value_length]
      exact hl
    refine ⟨ht, Registry.element_eq_ok_iff.mpr ?_⟩
    by_cases hc : o.code ∈ scope.codes
    · obtain ⟨decode, hd, hy⟩ := hcomplete hc ha ho hn
      exact .inr ⟨decode, hd, hy (ht.toNat_lengthField.trans o.value_length)⟩
    · refine .inl ⟨?_, ?_⟩
      · rw [Registry.lookup_eq_none_iff, hcodes]
        exact hc
      · rw [hunknown]
        cases o with
        | unknown t => rfl
        | _ => exact absurd ha hc

theorem inverts_inIaAddr (n : Nat) : inIaAddr.Inverts (FitsIn .iaAddr n) tlv :=
  inverts_of_decoders rfl rfl (fun h => absurd h List.not_mem_nil)
    (fun h => absurd h List.not_mem_nil)

theorem decodeIaAddr_sound (n : Nat) (h : (decodeIaAddr len).Yields bs o rest) :
    ∃ address preferred valid options, o = iaAddr address preferred valid options ∧
      (RegularOptions .iaAddr options ∧ nestingOfOptions options ≤ n) ∧ bs = o.value ++ rest := by
  unfold decodeIaAddr at h
  split at h
  · simp at h
  · simp only [yields_bind, yields_read, Ipv6.read_eq_ok_iff, Reader.word32_eq_ok_iff,
      (inverts_inIaAddr n).yields_sequence, yields_pure] at h
    obtain ⟨address, _, rfl, preferred, _, rfl, valid, _, rfl, options, _, ⟨ho, rfl, rfl⟩, rfl,
      rfl⟩ := h
    refine ⟨address, preferred, valid, options, rfl, fitsIn_options_iff.mpr ho, ?_⟩
    simp [value, fixed, wireOfOptions_eq_flatMap]

theorem decodeIaAddr_complete (ho : RegularOptions .iaAddr options)
    (hn : nestingOfOptions options ≤ n)
    (hl : len.toNat = (iaAddr address preferred valid options).valueLength) :
    (decodeIaAddr len).Yields (iaAddr address preferred valid options).value
      (iaAddr address preferred valid options) [] := by
  have h : ¬len < 24 := not_lt_of_toNat_le (hl ▸ Nat.le_add_right 24 _)
  simp only [decodeIaAddr, h, if_false, yields_bind, yields_read, Ipv6.read_eq_ok_iff,
    Reader.word32_eq_ok_iff, (inverts_inIaAddr n).yields_sequence, yields_pure]
  refine ⟨address, _, ?_, preferred, _, rfl, valid, _, rfl, options, [],
    ⟨fitsIn_options_iff.mp ⟨ho, hn⟩, rfl, rfl⟩, rfl, rfl⟩
  simp [value, fixed, wireOfOptions_eq_flatMap]

theorem inverts_inIaNa (n : Nat) : inIaNa.Inverts (FitsIn .iaNa n) tlv := by
  apply inverts_of_decoders rfl rfl
  · intro code decode len bs o hd h
    cases List.mem_singleton.mp hd
    obtain ⟨address, preferred, valid, options, rfl, ⟨ho, hn⟩, hv⟩ := decodeIaAddr_sound n h
    exact ⟨nofun, ho, hn, rfl, hv⟩
  · intro o hc ha ho hn
    cases o with
    | iaAddr address preferred valid options =>
      exact ⟨decodeIaAddr, rfl, decodeIaAddr_complete ho hn⟩
    | unknown t => exact absurd hc ha
    | _ => simp [Scope.codes, code, OptionCode.number] at hc

theorem decodeIaNa_sound (n : Nat) (h : (decodeIaNa len).Yields bs o rest) :
    ∃ id t1 t2 options, o = iaNa id t1 t2 options ∧
      (RegularOptions .iaNa options ∧ nestingOfOptions options ≤ n) ∧ bs = o.value ++ rest := by
  unfold decodeIaNa at h
  split at h
  · simp at h
  · simp only [yields_bind, yields_read, Reader.word32_eq_ok_iff,
      (inverts_inIaNa n).yields_sequence, yields_pure] at h
    obtain ⟨id, _, rfl, t1, _, rfl, t2, _, rfl, options, _, ⟨ho, rfl, rfl⟩, rfl, rfl⟩ := h
    refine ⟨id, t1, t2, options, rfl, fitsIn_options_iff.mpr ho, ?_⟩
    simp [value, fixed, wireOfOptions_eq_flatMap]

theorem decodeIaNa_complete {id t1 t2 : UInt32} (ho : RegularOptions .iaNa options)
    (hn : nestingOfOptions options ≤ n)
    (hl : len.toNat = (iaNa id t1 t2 options).valueLength) :
    (decodeIaNa len).Yields (iaNa id t1 t2 options).value (iaNa id t1 t2 options) [] := by
  have h : ¬len < 12 := not_lt_of_toNat_le (hl ▸ Nat.le_add_right 12 _)
  simp only [decodeIaNa, h, if_false, yields_bind, yields_read, Reader.word32_eq_ok_iff,
    (inverts_inIaNa n).yields_sequence, yields_pure]
  refine ⟨id, _, ?_, t1, _, rfl, t2, _, rfl, options, [],
    ⟨fitsIn_options_iff.mp ⟨ho, hn⟩, rfl, rfl⟩, rfl, rfl⟩
  simp [value, fixed, wireOfOptions_eq_flatMap]

theorem inMessage_eq (depth : RelayDepth) :
    inMessage depth =
      { decoders :=
          [(OptionCode.clientId.number, decodeClientId),
            (OptionCode.serverId.number, decodeServerId),
            (OptionCode.iaNa.number, decodeIaNa),
            (OptionCode.oro.number, decodeOptionRequest),
            (OptionCode.elapsedTime.number, decodeElapsedTime),
            (OptionCode.relayMsg.number, decodeRelayMsg depth)]
        unknown := .unknown
        notes := noteUnknown } := by
  rw [inMessage]
  unfold decodeRelayMsg
  congr
  cases depth.enter? <;> rfl

theorem yields_decodeRelayMsg {depth : RelayDepth}
    (ih : ∀ inner, depth.enter? = some inner →
      (inMessage inner).Inverts (FitsIn .message inner.left) tlv) :
    (decodeRelayMsg depth len).Yields bs o rest ↔
      ∃ m, o = relayMsg m ∧ m.Regular ∧ m.nesting < depth.left ∧ bs = m.wire ∧ rest = [] := by
  unfold decodeRelayMsg decodeRelayed
  cases he : depth.enter? with
  | none =>
    have hl := RelayDepth.left_of_enter?_none he
    simp [hl]
  | some inner =>
    have hl := RelayDepth.left_of_enter?_some he
    simp only [Option.map_some, yields_map, Message.yields_decodeWith (ih inner he), hl,
      Nat.lt_succ_iff]
    constructor
    · rintro ⟨m, ⟨⟨hm, hn⟩, hb, hr⟩, rfl⟩
      exact ⟨m, rfl, hm, hn, hb, hr⟩
    · rintro ⟨m, rfl, hm, hn, hb, hr⟩
      exact ⟨m, ⟨⟨hm, hn⟩, hb, hr⟩, rfl⟩

theorem inverts_inMessage (depth : RelayDepth) :
    (inMessage depth).Inverts (FitsIn .message depth.left) tlv := by
  -- on the levels that are left: a relayed message is read by the registry one level down
  induction depth using inMessage.induct with
  | case1 depth ih =>
    rw [inMessage_eq]
    apply inverts_of_decoders rfl rfl
    · intro code decode len bs o hd h
      simp only [List.mem_cons, Prod.mk.injEq, List.not_mem_nil, or_false] at hd
      rcases hd with ⟨rfl, rfl⟩ | ⟨rfl, rfl⟩ | ⟨rfl, rfl⟩ | ⟨rfl, rfl⟩ | ⟨rfl, rfl⟩ | ⟨rfl, rfl⟩
      · obtain ⟨duid, rfl, hd⟩ := (yields_ofDuid clientId).mp h
        obtain ⟨ho, hv⟩ := Duid.decode_sound hd
        exact ⟨nofun, ho, Nat.zero_le _, rfl, hv⟩
      · obtain ⟨duid, rfl, hd⟩ := (yields_ofDuid serverId).mp h
        obtain ⟨ho, hv⟩ := Duid.decode_sound hd
        exact ⟨nofun, ho, Nat.zero_le _, rfl, hv⟩
      · obtain ⟨id, t1, t2, options, rfl, ⟨ho, hn⟩, hv⟩ := decodeIaNa_sound depth.left h
        exact ⟨nofun, ho, hn, rfl, hv⟩
      · obtain ⟨codes, rfl, hv⟩ := decodeOptionRequest_sound h
        exact ⟨nofun, trivial, Nat.zero_le _, rfl, hv⟩
      · obtain ⟨time, rfl, hv⟩ := decodeElapsedTime_sound h
        exact ⟨nofun, trivial, Nat.zero_le _, rfl, hv⟩
      · obtain ⟨m, rfl, ho, hn, rfl, -⟩ := (yields_decodeRelayMsg ih).mp h
        exact ⟨nofun, ho, hn, rfl, (List.append_nil _).symm⟩
    · intro o hc ha ho hn
      cases o with
      | clientId duid =>
        exact ⟨decodeClientId, rfl, fun hl =>
          (yields_ofDuid clientId).mpr ⟨duid, rfl, Duid.decode_complete ho hl⟩⟩
      | serverId duid =>
        exact ⟨decodeServerId, rfl, fun hl =>
          (yields_ofDuid serverId).mpr ⟨duid, rfl, Duid.decode_complete ho hl⟩⟩
      | iaNa id t1 t2 options => exact ⟨decodeIaNa, rfl, decodeIaNa_complete ho hn⟩
      | iaAddr => simp [Scope.codes, code, OptionCode.number] at hc
      | optionRequest codes => exact ⟨decodeOptionRequest, rfl, decodeOptionRequest_complete⟩
      | elapsedTime time => exact ⟨decodeElapsedTime, rfl, decodeElapsedTime_complete⟩
      | relayMsg m =>
        exact ⟨decodeRelayMsg depth, rfl, fun _ =>
          (yields_decodeRelayMsg ih).mpr ⟨m, rfl, ho, hn, rfl, rfl⟩⟩
      | unknown t => exact absurd hc ha

end DhcpOption

end TlvCodec.Dhcp6
