import TlvCodec.Proofs.Dhcp6.RoundTrip

namespace TlvCodec.Dhcp6
open BigEndian
set_option autoImplicit true

/-- The option as one whose form is not known. -/
def DhcpOption.asUnknown (o : DhcpOption) : DhcpOption := .unknown ⟨o.code, o.encode.drop headerSize⟩

mutual

/-- The message as it is read: misplaced options are kept as they came. -/
def Message.rescope : Message → Message
  | .client type transaction options =>
    .client type (transaction % 16777216) (rescopeOptions .message options)
  | .relay type hops link peer options =>
    .relay type hops link peer (rescopeOptions .message options)

def DhcpOption.rescope : DhcpOption → DhcpOption
  | .iaNa id t1 t2 options => .iaNa id t1 t2 (rescopeOptions .iaNa options)
  | .iaAddr address preferred valid options =>
    .iaAddr address preferred valid (rescopeOptions .iaAddr options)
  | .relayMsg message => .relayMsg message.rescope
  | .clientId duid => .clientId duid
  | .serverId duid => .serverId duid
  | .optionRequest codes => .optionRequest codes
  | .elapsedTime time => .elapsedTime time
  | .unknown tlv => .unknown tlv

def rescopeOptions (scope : Scope) : List DhcpOption → List DhcpOption
  | [] => []
  | o :: os =>
    (if o.AllowedIn scope then o.rescope else o.asUnknown) :: rescopeOptions scope os

end

/-- Only options kept as they came are restricted: their codes are unknown here. -/
def DhcpOption.ReadableIn (scope : Scope) : DhcpOption → Prop
  | unknown tlv => tlv.code ∉ scope.codes
  | _ => True

mutual

/-- Types, codes and lengths are representable at every level that is understood. -/
def Message.Readable : Message → Prop
  | .client type _ options =>
    MessageType.isRelay type = false ∧ ReadableOptions .message options
  | .relay type _ _ _ options =>
    MessageType.isRelay type = true ∧ ReadableOptions .message options

def DhcpOption.Readable : DhcpOption → Prop
  | .clientId duid => duid.Regular
  | .serverId duid => duid.Regular
  | .iaNa _ _ _ options => ReadableOptions .iaNa options
  | .iaAddr _ _ _ options => ReadableOptions .iaAddr options
  | .relayMsg message => message.Readable
  | .optionRequest _ | .elapsedTime _ | .unknown _ => True

def ReadableOptions (scope : Scope) : List DhcpOption → Prop
  | [] => True
  | o :: os =>
    (o.ReadableIn scope ∧ o.valueLength ≤ 65535 ∧ (o.AllowedIn scope → o.Readable)) ∧
      ReadableOptions scope os

end

mutual

/-- The nesting of a message, without what is not understood. -/
def Message.readNesting : Message → Nat
  | .client _ _ options => readNestingOfOptions .message options
  | .relay _ _ _ _ options => readNestingOfOptions .message options

def DhcpOption.readNesting : DhcpOption → Nat
  | .iaNa _ _ _ options => readNestingOfOptions .iaNa options
  | .iaAddr _ _ _ options => readNestingOfOptions .iaAddr options
  | .relayMsg message => message.readNesting + 1
  | .clientId _ | .serverId _ | .optionRequest _ | .elapsedTime _ | .unknown _ => 0

def readNestingOfOptions (scope : Scope) : List DhcpOption → Nat
  | [] => 0
  | o :: os =>
    max (if o.AllowedIn scope then o.readNesting else 0) (readNestingOfOptions scope os)

end

variable {o : DhcpOption} {os : List DhcpOption} {scope : Scope}

namespace DhcpOption

theorem drop_encode (o : DhcpOption) : o.encode.drop headerSize = o.value := by
  rw [encode, o.toList_write]
  rfl

theorem asUnknown_eq (o : DhcpOption) : o.asUnknown = .unknown ⟨o.code, o.value⟩ := by
  rw [asUnknown, drop_encode]

theorem tlv_asUnknown (o : DhcpOption) : o.asUnknown.tlv = o.tlv := by
  rw [asUnknown_eq]
  rfl

theorem code_rescope (o : DhcpOption) : o.rescope.code = o.code := by
  cases o <;> rfl

end DhcpOption

mutual

theorem Message.wire_rescope : ∀ m : Message, m.rescope.wire = m.wire
  | .client type transaction options => by
    rw [Message.rescope, Message.wire, Message.wire, Message.header, Message.header, octets24_mod,
      wireOfOptions_rescope .message options]
  | .relay type hops link peer options => by
    rw [Message.rescope, Message.wire, Message.wire, wireOfOptions_rescope .message options]
    rfl

theorem DhcpOption.value_rescope : ∀ o : DhcpOption, o.rescope.value = o.value
  | .iaNa id t1 t2 options => by
    rw [DhcpOption.rescope, DhcpOption.value, DhcpOption.value, wireOfOptions_rescope .iaNa options]
    rfl
  | .iaAddr address preferred valid options => by
    rw [DhcpOption.rescope, DhcpOption.value, DhcpOption.value,
      wireOfOptions_rescope .iaAddr options]
    rfl
  | .relayMsg message => message.wire_rescope
  | .clientId _ | .serverId _ | .optionRequest _ | .elapsedTime _ | .unknown _ => rfl

/-- What an option is taken for does not show on the wire. -/
theorem wireOfOptions_rescope : ∀ (scope : Scope) (os : List DhcpOption),
    wireOfOptions (rescopeOptions scope os) = wireOfOptions os
  | _, [] => rfl
  | scope, o :: os => by
    have ho : (if o.AllowedIn scope then o.rescope else o.asUnknown).tlv = o.tlv := by
      split
      · rw [DhcpOption.tlv, o.code_rescope, o.value_rescope]
        rfl
      · exact o.tlv_asUnknown
    rw [rescopeOptions, wireOfOptions, wireOfOptions, wireOfOptions_rescope scope os]
    exact congrArg (·.wire ++ wireOfOptions os) ho

end

mutual

theorem Message.nesting_rescope : ∀ m : Message, m.rescope.nesting = m.readNesting
  | .client _ _ options => nestingOfOptions_rescope .message options
  | .relay _ _ _ _ options => nestingOfOptions_rescope .message options

theorem DhcpOption.nesting_rescope : ∀ o : DhcpOption, o.rescope.nesting = o.readNesting
  | .iaNa _ _ _ options => nestingOfOptions_rescope .iaNa options
  | .iaAddr _ _ _ options => nestingOfOptions_rescope .iaAddr options
  | .relayMsg message => congrArg (· + 1) message.nesting_rescope
  | .clientId _ | .serverId _ | .optionRequest _ | .elapsedTime _ | .unknown _ => rfl

theorem nestingOfOptions_rescope : ∀ (scope : Scope) (os : List DhcpOption),
    nestingOfOptions (rescopeOptions scope os) = readNestingOfOptions scope os
  | _, [] => rfl
  | scope, o :: os => by
    rw [rescopeOptions, nestingOfOptions, readNestingOfOptions, nestingOfOptions_rescope scope os]
    split
    · rw [o.nesting_rescope]
    · rfl

end

namespace DhcpOption

theorem allowedIn_rescope : o.rescope.AllowedIn scope ↔ o.AllowedIn scope := by
  cases o <;> rfl

theorem readableIn_of_allowedIn (h : o.AllowedIn scope) : o.ReadableIn scope := by
  cases o with
  | unknown tlv => exact h
  | _ => trivial

theorem allowedIn_asUnknown (h : ¬o.AllowedIn scope) :
    o.asUnknown.AllowedIn scope ↔ o.ReadableIn scope := by
  cases o with
  | unknown tlv => rfl
  | _ => exact iff_of_true h trivial

theorem valueLength_congr {o p : DhcpOption} (h : o.value = p.value) :
    o.valueLength = p.valueLength := by
  rw [← o.value_length, ← p.value_length, h]

end DhcpOption

mutual

theorem Message.regular_rescope : ∀ m : Message, m.rescope.Regular ↔ m.Readable
  | .client type transaction options => by
    rw [Message.rescope, Message.Regular, Message.Readable,
      regularOptions_rescope .message options, and_iff_right (toNat_mod_lt transaction)]
  | .relay type hops link peer options => by
    rw [Message.rescope, Message.Regular, Message.Readable,
      regularOptions_rescope .message options]

theorem DhcpOption.regular_rescope : ∀ o : DhcpOption, o.rescope.Regular ↔ o.Readable
  | .iaNa _ _ _ options => regularOptions_rescope .iaNa options
  | .iaAddr _ _ _ options => regularOptions_rescope .iaAddr options
  | .relayMsg message => message.regular_rescope
  | .clientId _ | .serverId _ | .optionRequest _ | .elapsedTime _ | .unknown _ => Iff.rfl

theorem regularOptions_rescope : ∀ (scope : Scope) (os : List DhcpOption),
    RegularOptions scope (rescopeOptions scope os) ↔ ReadableOptions scope os
  | _, [] => Iff.rfl
  | scope, o :: os => by
    rw [rescopeOptions, RegularOptions, ReadableOptions, regularOptions_rescope scope os]
    refine and_congr_left' ?_
    split
    · rename_i ha
      have hl : o.rescope.valueLength = o.valueLength :=
        DhcpOption.valueLength_congr o.value_rescope
      rw [DhcpOption.allowedIn_rescope, hl, o.regular_rescope, imp_iff_right ha,
        and_iff_right ha, and_iff_right (DhcpOption.readableIn_of_allowedIn ha)]
    · rename_i ha
      have hl : o.asUnknown.valueLength = o.valueLength :=
        DhcpOption.valueLength_congr (congrArg Tlv.value o.tlv_asUnknown)
      rw [DhcpOption.allowedIn_asUnknown ha, hl]
      exact and_congr_right' (and_congr_right' (iff_of_true trivial fun h => absurd h ha))

end

namespace Message

variable {m : Message}

theorem representable_rescope (m : Message) :
    m.rescope.Representable ↔ m.Readable ∧ m.readNesting ≤ 32 := by
  rw [Representable, m.regular_rescope, m.nesting_rescope]

/-- Misplaced options come back as unknown ones, and all else as it was sent. -/
theorem decode_encode_rescope (m : Message) :
    decode m.encode = .ok m.rescope ↔ m.Readable ∧ m.readNesting ≤ 32 := by
  rw [decode_eq_ok_iff, m.encode_eq_wire, m.wire_rescope, m.representable_rescope]
  exact and_iff_left rfl

/-- Misplaced options at several levels, under a transaction of more than 24 bits. -/
def misplaced : Message :=
  .client 1 0xff123456
    [.iaAddr ⟨⟨List.replicate 16 3, rfl⟩⟩ 10 20 [.elapsedTime 5],
      .iaNa 7 0 0 [.relayMsg (.client 12 0 [.clientId (.unknown 1 [])])],
      .iaNa 8 0 0 [.iaAddr ⟨⟨List.replicate 16 8, rfl⟩⟩ 10 20 [.elapsedTime 6]]]

def misplacedRead : Message :=
  .client 1 0x123456
    [.unknown ⟨5, List.replicate 16 3 ++ [0, 0, 0, 10, 0, 0, 0, 20, 0, 8, 0, 2, 0, 5]⟩,
      .iaNa 7 0 0 [.unknown ⟨9, [12, 0, 0, 0, 0, 1, 0, 2, 0, 1]⟩],
      .iaNa 8 0 0 [.iaAddr ⟨⟨List.replicate 16 8, rfl⟩⟩ 10 20 [.unknown ⟨8, [0, 6]⟩]]]

theorem decode_encode_rescope_misplaced : decode misplaced.encode = .ok misplacedRead := by
  have hrescope : misplaced.rescope = misplacedRead := by decide +kernel
  have hread : misplaced.Readable ∧ misplaced.readNesting ≤ 32 := by
    rw [← representable_rescope, hrescope]
    decide +kernel
  rw [← hrescope]
  exact (decode_encode_rescope misplaced).mpr hread

end Message

end TlvCodec.Dhcp6
