import TlvCodec.Proofs.Dhcp6.RoundTrip

namespace TlvCodec.Dhcp6
set_option autoImplicit true

variable {o : DhcpOption} {os : List DhcpOption}

mutual

/-- The options in a message at any level, with the number of relayed messages around each. -/
def Message.within (n : Nat) : Message → List (Nat × DhcpOption)
  | .client _ _ options => withinOptions n options
  | .relay _ _ _ _ options => withinOptions n options

def DhcpOption.within (n : Nat) : DhcpOption → List (Nat × DhcpOption)
  | .iaNa _ _ _ options => withinOptions n options
  | .iaAddr _ _ _ options => withinOptions n options
  | .relayMsg message => message.within (n + 1)
  | .clientId _ | .serverId _ | .optionRequest _ | .elapsedTime _ | .unknown _ => []

def withinOptions (n : Nat) : List DhcpOption → List (Nat × DhcpOption)
  | [] => []
  | o :: os => (n, o) :: (o.within n ++ withinOptions n os)

end

def DhcpOption.isRelayMsg : DhcpOption → Bool
  | relayMsg _ => true
  | _ => false

def isRelayAt (n : Nat) (x : Nat × DhcpOption) : Bool := x.1 = n && x.2.isRelayMsg

/-- The failure due to the first option that relays a message inside `n` others. -/
def FailsAtDepth (n : Nat) (xs : List (Nat × DhcpOption)) (result : Except DecodeError α) : Prop :=
  ∃ o len, xs.find? (isRelayAt n) = some (n, o) ∧ len.toNat = o.valueLength ∧
    result = .error (.malformedLength len)

theorem RelayDepth.left_le (d : RelayDepth) : d.left ≤ 32 := Nat.sub_le _ _

mutual

theorem Message.find?_within_eq_none : ∀ (m : Message) {k n : Nat}, m.nesting ≤ n →
    (m.within k).find? (isRelayAt (k + n)) = none
  | .client _ _ options, _, _, h => find?_withinOptions_eq_none options h
  | .relay _ _ _ _ options, _, _, h => find?_withinOptions_eq_none options h

theorem DhcpOption.find?_within_eq_none : ∀ (o : DhcpOption) {k n : Nat}, o.nesting ≤ n →
    (o.within k).find? (isRelayAt (k + n)) = none
  | .iaNa _ _ _ options, _, _, h => find?_withinOptions_eq_none options h
  | .iaAddr _ _ _ options, _, _, h => find?_withinOptions_eq_none options h
  | .relayMsg message, k, n, h => by
    obtain ⟨j, rfl⟩ := Nat.exists_eq_add_of_le' (Nat.le_of_add_left_le h)
    rw [DhcpOption.within, ← Nat.succ_add_eq_add_succ]
    exact message.find?_within_eq_none (Nat.le_of_add_le_add_right h)
  | .clientId _, _, _, _ | .serverId _, _, _, _ | .optionRequest _, _, _, _
  | .elapsedTime _, _, _, _ | .unknown _, _, _, _ => rfl

theorem find?_withinOptions_eq_none : ∀ (os : List DhcpOption) {k n : Nat},
    nestingOfOptions os ≤ n → (withinOptions k os).find? (isRelayAt (k + n)) = none
  | [], _, _, _ => rfl
  | o :: os, k, n, h => by
    obtain ⟨ho, hos⟩ := Nat.max_le.mp h
    have hne : isRelayAt (k + n) (k, o) = false := by
      cases o with
      | relayMsg message =>
        have hpos : k ≠ k + n := by
          rw [DhcpOption.nesting] at ho
          omega
        simp only [isRelayAt, hpos, decide_false, Bool.false_and]
      | _ => simp [isRelayAt, DhcpOption.isRelayMsg]
    rw [withinOptions, List.find?_cons_of_neg (by simp [hne]), List.find?_append,
      o.find?_within_eq_none ho, find?_withinOptions_eq_none os hos]
    rfl

end

theorem withinOptions_cons (k : Nat) (o : DhcpOption) (os : List DhcpOption) :
    withinOptions k (o :: os) = (k, o) :: o.within k ++ withinOptions k os := rfl

theorem nesting_iaAddr_eq_zero (h : RegularOptions .iaAddr os) : nestingOfOptions os = 0 := by
  rw [← Nat.le_zero, nestingOfOptions_le_iff]
  intro o ho
  have ha := (regularOptions_iff.mp h o ho).1
  cases o with
  | unknown => exact Nat.le_refl 0
  | _ => exact absurd ha List.not_mem_nil

theorem nesting_iaNa_eq_zero (h : RegularOptions .iaNa os) : nestingOfOptions os = 0 := by
  rw [← Nat.le_zero, nestingOfOptions_le_iff]
  intro o ho
  obtain ⟨ha, -, hr⟩ := regularOptions_iff.mp h o ho
  cases o with
  | unknown => exact Nat.le_refl 0
  | iaAddr => exact Nat.le_of_eq (nesting_iaAddr_eq_zero hr)
  | _ => simp [DhcpOption.AllowedIn, Scope.codes, DhcpOption.code, OptionCode.number] at ha

theorem exists_relayMsg_of_nesting (h : o.RegularIn .message) (hn : 0 < o.nesting) :
    ∃ m, o = .relayMsg m := by
  obtain ⟨ha, -, hr⟩ := h
  cases o with
  | relayMsg m => exact ⟨m, rfl⟩
  | iaNa =>
    rw [DhcpOption.nesting, nesting_iaNa_eq_zero hr] at hn
    cases hn
  | iaAddr => simp [DhcpOption.AllowedIn, Scope.codes, DhcpOption.code, OptionCode.number] at ha
  | clientId | serverId | optionRequest | elapsedTime | unknown => cases hn

theorem Message.within_eq (m : Message) (k : Nat) : m.within k = withinOptions k m.options := by
  cases m <;> rfl

namespace DhcpOption

variable {depth inner : RelayDepth} {len : UInt16} {value : Bytes} {m : Message} {k : Nat}

theorem lookup_relayMsg (depth : RelayDepth) :
    (inMessage depth).lookup OptionCode.relayMsg.number = some (decodeRelayMsg depth) := by
  rw [inMessage_eq]
  rfl

theorem element_relayMsg_of_none (h : depth.enter? = none) :
    ((inMessage depth).element ⟨OptionCode.relayMsg.number, len, value⟩).1 =
      .error (.malformedLength len) := by
  have hd : decodeRelayMsg depth len value = ⟨.error (.malformedLength len), value, []⟩ := by
    rw [decodeRelayMsg, h]
    rfl
  rw [Registry.element_of_lookup (lookup_relayMsg depth) (by simp [hd]), hd]

theorem element_relayMsg_of_some (h : depth.enter? = some inner) :
    ((inMessage depth).element ⟨OptionCode.relayMsg.number, len, value⟩).1 =
      (Message.decodeWith (inMessage inner) .parent value).result.map relayMsg := by
  have hd : decodeRelayMsg depth len value =
      ⟨(Message.decodeWith (inMessage inner) .parent value).result.map relayMsg,
        (Message.decodeWith (inMessage inner) .parent value).rest,
        (Message.decodeWith (inMessage inner) .parent value).events⟩ := by
    rw [decodeRelayMsg, h]
    exact Decoder.bind_pure_apply _ relayMsg value
  rw [Registry.element_of_lookup (lookup_relayMsg depth), hd]
  simp only [hd]
  intro o ho
  obtain ⟨m, hm, -⟩ := map_eq_ok_iff.mp ho
  exact ((Message.yields_decodeWith (inverts_inMessage inner)).mp ⟨hm, rfl⟩).2.2

/-- What is relayed too deep fails the options around it in the same way. -/
theorem element_tooDeep
    (ih : ∀ inner, depth.enter? = some inner → RegularOptions .message m.options →
      inner.left < nestingOfOptions m.options →
        FailsAtDepth (k + 1 + inner.left) (withinOptions (k + 1) m.options)
          ((inMessage inner).sequence .parent (wireOfOptions m.options)).result)
    (hm : (relayMsg m).RegularIn .message) (hn : depth.left < (relayMsg m).nesting) :
    FailsAtDepth (k + depth.left) ((k, relayMsg m) :: (relayMsg m).within k)
      ((inMessage depth).element (relayMsg m).tlv.frame).1 := by
  obtain ⟨-, hl, hm⟩ := hm
  cases he : depth.enter? with
  | none =>
    have hv : (relayMsg m).tlv.lengthField.toNat = (relayMsg m).valueLength := by
      rw [Tlv.lengthField_toNat, tlv, value_length]
      exact Nat.min_eq_left hl
    refine ⟨relayMsg m, _, ?_, hv, element_relayMsg_of_none he⟩
    rw [RelayDepth.left_of_enter?_none he, Nat.add_zero]
    exact List.find?_cons_of_pos (by simp [isRelayAt, isRelayMsg])
  | some inner =>
    have hd := RelayDepth.left_of_enter?_some he
    obtain ⟨hheader, hos⟩ := m.regular_iff.mp hm
    rw [nesting, hd, Nat.succ_lt_succ_iff, m.nesting_eq] at hn
    obtain ⟨o, n, hf, hv, hs⟩ := ih inner he hos hn
    have hk : k + depth.left = k + 1 + inner.left := by omega
    have hne : k ≠ k + 1 + inner.left := by omega
    refine ⟨o, n, ?_, hv, ?_⟩
    · rw [hk, List.find?_cons_of_neg (by simp [isRelayAt, hne]), within, m.within_eq]
      exact hf
    · refine (element_relayMsg_of_some he).trans ?_
      change Except.map relayMsg (Message.decodeWith (inMessage inner) .parent m.wire).result = _
      rw [m.wire_eq, Message.decodeWith_header hheader, hs]
      rfl

theorem sequence_tooDeep (depth : RelayDepth) (k : Nat) (os : List DhcpOption) (bound : Bound)
    (hr : RegularOptions .message os) (hn : depth.left < nestingOfOptions os) :
    FailsAtDepth (k + depth.left) (withinOptions k os)
      ((inMessage depth).sequence bound (wireOfOptions os)).result := by
  induction depth using inMessage.induct generalizing k os bound with
  | case1 depth ih =>
    induction os with
    | nil => exact absurd hn (Nat.not_lt_zero _)
    | cons o os ihos =>
      obtain ⟨ho, hos⟩ := hr
      rw [withinOptions_cons, wireOfOptions]
      rcases Nat.lt_or_ge depth.left o.nesting with hdeep | hle
      · obtain ⟨m, rfl⟩ := exists_relayMsg_of_nesting ho (Nat.zero_lt_of_lt hdeep)
        obtain ⟨x, n, hf, hv, he⟩ := element_tooDeep
          (fun inner h => ih inner h (k + 1) m.options .parent) ho hdeep
        have hfits : (relayMsg m).tlv.Fits := by
          rw [Tlv.Fits, tlv, value_length]
          exact ho.2.1
        refine ⟨x, n, ?_, hv, Registry.sequence_wire_error hfits he _ _⟩
        rw [List.find?_append, hf]
        rfl
      · -- the first option is sound, and holds no option at the level that fails
        have hnone := find?_withinOptions_eq_none [o] (k := k)
          (Nat.max_le.mpr ⟨hle, Nat.zero_le _⟩)
        rw [withinOptions_cons, withinOptions, List.append_nil] at hnone
        have hdeep : depth.left < nestingOfOptions os := by
          rw [nestingOfOptions] at hn
          omega
        obtain ⟨x, n, hf, hv, hs⟩ := ihos hos hdeep
        refine ⟨x, n, ?_, hv, ?_⟩
        · rw [List.find?_append, hnone]
          exact hf
        · refine ((inverts_inMessage depth).sequence_wire ⟨ho, hle⟩ bound _).trans ?_
          rw [hs]
          rfl

theorem sequence_eq_ok_iff_outermost :
    ((inMessage depth).sequence bound bs).result = .ok os ↔
      ((inMessage .outermost).sequence bound bs).result = .ok os ∧
        nestingOfOptions os ≤ depth.left := by
  rw [(inverts_inMessage depth).sequence_eq_ok_iff,
    (inverts_inMessage .outermost).sequence_eq_ok_iff, ← fitsIn_options_iff, ← fitsIn_options_iff]
  constructor
  · rintro ⟨⟨hr, hn⟩, hb⟩
    exact ⟨⟨⟨hr, Nat.le_trans hn depth.left_le⟩, hb⟩, hn⟩
  · rintro ⟨⟨⟨hr, -⟩, hb⟩, hn⟩
    exact ⟨⟨hr, hn⟩, hb⟩

end DhcpOption

namespace Message

theorem decode_tooDeep {m : Message} (hm : m.Regular) (hn : 32 < m.nesting) :
    FailsAtDepth 32 (m.within 0) (decode m.encode) := by
  obtain ⟨hheader, hos⟩ := m.regular_iff.mp hm
  rw [m.nesting_eq] at hn
  obtain ⟨o, len, hf, hv, hs⟩ := DhcpOption.sequence_tooDeep .outermost 0 m.options .buffer hos hn
  refine ⟨o, len, ?_, hv, ?_⟩
  · rw [m.within_eq]
    exact hf
  · rw [m.encode_eq_wire, m.wire_eq, decode_eq, decodeWith_header hheader, hs]
    rfl

/-- Relayed messages nest 32 deep; the first one deeper is reported by its option's length. -/
theorem relay_nesting_limit :
    (∀ (depth : RelayDepth) (bound : Bound) (bs : Bytes) (os : List DhcpOption),
      ((DhcpOption.inMessage depth).sequence bound bs).result = .ok os ↔
        ((DhcpOption.inMessage .outermost).sequence bound bs).result = .ok os ∧
          nestingOfOptions os ≤ 32 - depth.depth.toNat) ∧
    (∀ depth deeper : RelayDepth, depth.depth ≤ deeper.depth →
      ∀ (bound : Bound) (bs : Bytes) (os : List DhcpOption),
        ((DhcpOption.inMessage deeper).sequence bound bs).result = .ok os →
          ((DhcpOption.inMessage depth).sequence bound bs).result = .ok os) ∧
    (∀ depth inner : RelayDepth, depth.enter? = some inner →
      inner.depth.toNat = depth.depth.toNat + 1 ∧ inner.depth.toNat ≤ 32) ∧
    ∀ m : Message, m.Regular → 32 < m.nesting → FailsAtDepth 32 (m.within 0) (decode m.encode) := by
  refine ⟨fun _ _ _ _ => DhcpOption.sequence_eq_ok_iff_outermost, ?_,
    fun _ _ => RelayDepth.toNat_of_enter?, fun _ => decode_tooDeep⟩
  intro depth deeper hd bound bs os h
  have hleft : deeper.left ≤ depth.left := Nat.sub_le_sub_left (UInt8.le_iff_toNat_le.mp hd) 32
  rw [DhcpOption.sequence_eq_ok_iff_outermost] at h ⊢
  exact ⟨h.1, Nat.le_trans h.2 hleft⟩

def agent : Ipv6 := ⟨⟨List.replicate 16 5, rfl⟩⟩

/-- A message inside `n` messages of relay agents. -/
def relayed (m : Message) : Nat → Message
  | 0 => m
  | n + 1 => wrap 12 0 agent agent (m.relayed n)

/-- A message that just fits and one two levels too deep, side by side. -/
def relayedTwice : Message :=
  .relay 13 0 agent agent
    [.relayMsg (relayed (.client 1 1 []) 31), .relayMsg (relayed (.client 1 1 []) 33)]

theorem relay_nesting_limit_relayedTwice :
    decode relayedTwice.encode = .error (.malformedLength 42) ∧
      (relayedTwice.within 0).find? (isRelayAt 32) =
        some (32, .relayMsg (relayed (.client 1 1 []) 1)) ∧
      ((DhcpOption.inMessage ⟨0⟩).sequence .parent [0, 9, 0, 4, 1, 0, 0, 1]).result =
        .ok [.relayMsg (.client 1 1 [])] ∧
      (⟨32⟩ : RelayDepth).depth.toNat = (⟨31⟩ : RelayDepth).depth.toNat + 1 := by
  obtain ⟨-, hdepth, henter, hlimit⟩ := relay_nesting_limit
  have hinner : ((DhcpOption.inMessage ⟨31⟩).sequence .parent [0, 9, 0, 4, 1, 0, 0, 1]).result =
      .ok [.relayMsg (.client 1 1 [])] := by decide +kernel
  have hfirst : (relayedTwice.within 0).find? (isRelayAt 32) =
      some (32, .relayMsg (relayed (.client 1 1 []) 1)) := by decide +kernel
  obtain ⟨o, len, hf, hv, he⟩ := hlimit relayedTwice (by decide +kernel) (by decide +kernel)
  rw [hfirst] at hf
  cases hf
  have hlen : len = 42 := UInt16.toNat_inj.mp hv
  exact ⟨hlen ▸ he, hfirst, hdepth ⟨0⟩ ⟨31⟩ (by decide) .parent _ _ hinner,
    (henter ⟨31⟩ ⟨32⟩ (by decide)).1⟩

end Message

end TlvCodec.Dhcp6
