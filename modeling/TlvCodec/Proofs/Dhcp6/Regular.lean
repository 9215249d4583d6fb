import TlvCodec.Dhcp6.Decode
import TlvCodec.Dhcp6.Encode
import TlvCodec.Proofs.Dhcp6.Duid

namespace TlvCodec.Dhcp6
set_option autoImplicit true

/-- What an option is held by. -/
inductive Scope where
  | message
  | iaNa
  | iaAddr
deriving DecidableEq

/-- The codes that have a form of their own in a scope. -/
def Scope.codes : Scope → List UInt16
  | message =>
    [OptionCode.clientId.number, OptionCode.serverId.number, OptionCode.iaNa.number,
      OptionCode.oro.number, OptionCode.elapsedTime.number, OptionCode.relayMsg.number]
  | iaNa => [OptionCode.iaAddr.number]
  | iaAddr => []

example : Scope.message.codes = [1, 2, 3, 6, 8, 9] ∧ Scope.iaNa.codes = [5] := by decide

/-- What reads the options in a scope, at a depth. -/
def Scope.registry (depth : RelayDepth) : Scope → Registry Event DhcpOption
  | message => DhcpOption.inMessage depth
  | iaNa => DhcpOption.inIaNa
  | iaAddr => DhcpOption.inIaAddr

/-- A code comes in its own form where the scope has one. -/
def DhcpOption.AllowedIn (scope : Scope) : DhcpOption → Prop
  | unknown tlv => tlv.code ∉ scope.codes
  | o => o.code ∈ scope.codes

instance : (o : DhcpOption) → Decidable (o.AllowedIn scope)
  | .unknown _ => inferInstanceAs (Decidable (_ ∉ _))
  | .clientId _ | .serverId _ | .iaNa .. | .iaAddr .. | .optionRequest _ | .elapsedTime _
  | .relayMsg _ => inferInstanceAs (Decidable (_ ∈ _))

mutual

/-- At every level types, transactions, scopes and lengths are what the wire can hold. -/
def Message.Regular : Message → Prop
  | .client type transaction options =>
    MessageType.isRelay type = false ∧ transaction.toNat < 2 ^ 24 ∧
      RegularOptions .message options
  | .relay type _ _ _ options =>
    MessageType.isRelay type = true ∧ RegularOptions .message options

def DhcpOption.Regular : DhcpOption → Prop
  | .clientId duid => duid.Regular
  | .serverId duid => duid.Regular
  | .iaNa _ _ _ options => RegularOptions .iaNa options
  | .iaAddr _ _ _ options => RegularOptions .iaAddr options
  | .relayMsg message => message.Regular
  | .optionRequest _ | .elapsedTime _ | .unknown _ => True

def RegularOptions (scope : Scope) : List DhcpOption → Prop
  | [] => True
  | o :: os =>
    (o.AllowedIn scope ∧ o.valueLength ≤ 65535 ∧ o.Regular) ∧ RegularOptions scope os

end

mutual

/-- The greatest number of relayed messages around a message within this one. -/
def Message.nesting : Message → Nat
  | .client _ _ options => nestingOfOptions options
  | .relay _ _ _ _ options => nestingOfOptions options

def DhcpOption.nesting : DhcpOption → Nat
  | .iaNa _ _ _ options => nestingOfOptions options
  | .iaAddr _ _ _ options => nestingOfOptions options
  | .relayMsg message => message.nesting + 1
  | .clientId _ | .serverId _ | .optionRequest _ | .elapsedTime _ | .unknown _ => 0

def nestingOfOptions : List DhcpOption → Nat
  | [] => 0
  | o :: os => max o.nesting (nestingOfOptions os)

end

mutual

def Message.decRegular : (m : Message) → Decidable m.Regular
  | .client _ _ options =>
    have := decRegularOptions .message options
    inferInstanceAs (Decidable (_ ∧ _ ∧ _))
  | .relay _ _ _ _ options =>
    have := decRegularOptions .message options
    inferInstanceAs (Decidable (_ ∧ _))

def DhcpOption.decRegular : (o : DhcpOption) → Decidable o.Regular
  | .clientId duid => inferInstanceAs (Decidable duid.Regular)
  | .serverId duid => inferInstanceAs (Decidable duid.Regular)
  | .iaNa _ _ _ options => decRegularOptions .iaNa options
  | .iaAddr _ _ _ options => decRegularOptions .iaAddr options
  | .relayMsg message => message.decRegular
  | .optionRequest _ | .elapsedTime _ | .unknown _ => inferInstanceAs (Decidable True)

def decRegularOptions (scope : Scope) : (os : List DhcpOption) → Decidable (RegularOptions scope os)
  | [] => inferInstanceAs (Decidable True)
  | o :: os =>
    have := o.decRegular
    have := decRegularOptions scope os
    inferInstanceAs (Decidable ((_ ∧ _ ∧ _) ∧ _))

end

instance : DecidablePred Message.Regular := Message.decRegular

/-- The messages that have a form on the wire. -/
def Message.Representable (m : Message) : Prop := m.Regular ∧ m.nesting ≤ 32

instance : DecidablePred Message.Representable := fun _ => inferInstanceAs (Decidable (_ ∧ _))

def DhcpOption.RegularIn (scope : Scope) (o : DhcpOption) : Prop :=
  o.AllowedIn scope ∧ o.valueLength ≤ 65535 ∧ o.Regular

/-- Regular, with at most `n` messages relayed one in another in it. -/
def DhcpOption.FitsIn (scope : Scope) (n : Nat) (o : DhcpOption) : Prop :=
  o.RegularIn scope ∧ o.nesting ≤ n

theorem regularOptions_iff {os : List DhcpOption} :
    RegularOptions scope os ↔ ∀ o ∈ os, o.RegularIn scope := by
  induction os with
  | nil => simp [RegularOptions]
  | cons o os ih => rw [RegularOptions, ih, List.forall_mem_cons, DhcpOption.RegularIn]

theorem nestingOfOptions_le_iff {os : List DhcpOption} :
    nestingOfOptions os ≤ n ↔ ∀ o ∈ os, o.nesting ≤ n := by
  induction os with
  | nil => simp [nestingOfOptions]
  | cons o os ih => rw [nestingOfOptions, Nat.max_le, ih, List.forall_mem_cons]

theorem fitsIn_options_iff {os : List DhcpOption} :
    RegularOptions scope os ∧ nestingOfOptions os ≤ n ↔ ∀ o ∈ os, o.FitsIn scope n := by
  rw [regularOptions_iff, nestingOfOptions_le_iff]
  constructor
  · intro h o ho
    exact ⟨h.1 o ho, h.2 o ho⟩
  · intro h
    exact ⟨fun o ho => (h o ho).1, fun o ho => (h o ho).2⟩

namespace Message

def RegularHeader : Message → Prop
  | client type transaction _ =>
    MessageType.isRelay type = false ∧ transaction.toNat < 2 ^ 24
  | relay type .. => MessageType.isRelay type = true

theorem regular_iff (m : Message) :
    m.Regular ↔ m.RegularHeader ∧ RegularOptions .message m.options := by
  cases m with
  | client => simp only [Regular, RegularHeader, options, and_assoc]
  | relay => rfl

theorem nesting_eq (m : Message) : m.nesting = nestingOfOptions m.options := by
  cases m <;> rfl

theorem regular_and_nesting_le_iff (m : Message) (n : Nat) :
    m.Regular ∧ m.nesting ≤ n ↔ m.RegularHeader ∧ ∀ o ∈ m.options, o.FitsIn .message n := by
  rw [regular_iff, nesting_eq, and_assoc, fitsIn_options_iff]

end Message

end TlvCodec.Dhcp6
