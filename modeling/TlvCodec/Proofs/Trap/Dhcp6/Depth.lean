import TlvCodec.Proofs.Dhcp6.Nesting
import TlvCodec.Proofs.Trap.Dhcp6.Decode

namespace TlvCodec.Dhcp6.Trapping
namespace Limited
open TlvCodec.Trapping TlvCodec.Trapping.Decoder
set_option autoImplicit true

/-- Decodes the options inside a value, if one more run may be nested. -/
def nested (known : Nat → Trapping.Registry Event DhcpOption) :
    Nat → Trapping.Decoder Event (List DhcpOption)
  | 0 => compute (.error .tooDeep)
  | runs + 1 => (known runs).sequence .parent

def decodeIaAddr (runs : Nat) : UInt16 → Trapping.Decoder Event DhcpOption :=
  decodeIaAddrWith (nested (fun _ => inIaAddr) runs)

def inIaNa (runs : Nat) : Trapping.Registry Event DhcpOption := inIaNaWith (decodeIaAddr runs)

def decodeIaNa (runs : Nat) : UInt16 → Trapping.Decoder Event DhcpOption :=
  decodeIaNaWith (nested inIaNa runs)

def inMessage (runs : Nat) (relayed : RelayDepth → Trapping.Decoder Event Message)
    (depth : RelayDepth) : Trapping.Registry Event DhcpOption :=
  inMessageWith (decodeIaNa runs) (decodeRelayMsgWith relayed depth)

/-- Decodes a message if one more may be nested, each with the same `runs`. -/
def message (runs : Nat) : Nat → Bound → RelayDepth → Trapping.Decoder Event Message
  | 0, _, _ => compute (.error .tooDeep)
  | messages + 1, bound, depth =>
    decodeMessage (inMessage runs (message runs messages .parent) depth) bound

/-- At most `messages` are decoded one in another, with `runs` runs in each. -/
def decodeData (messages runs : Nat) :
    Bytes → Trapping (Except DecodeError Message × List Event) :=
  decodeDataWith (message runs messages .buffer .outermost)

variable {depth : RelayDepth} {runs messages : Nat}

theorem nested_eq {known : Nat → Trapping.Registry Event DhcpOption}
    {known₀ : Registry Event DhcpOption} (h : known runs = .lift known₀) :
    nested known (runs + 1) = lift (known₀.sequence .parent) := by
  rw [nested, h, Registry.sequence_lift]

theorem decodeIaAddr_eq (runs : Nat) (length : UInt16) :
    decodeIaAddr (runs + 1) length = lift (DhcpOption.decodeIaAddr length) :=
  decodeIaAddrWith_eq (nested_eq inIaAddr_eq) length

theorem inIaNa_eq (runs : Nat) : inIaNa (runs + 1) = .lift DhcpOption.inIaNa :=
  inIaNaWith_eq (decodeIaAddr_eq runs)

theorem decodeIaNa_eq (runs : Nat) (length : UInt16) :
    decodeIaNa (runs + 2) length = lift (DhcpOption.decodeIaNa length) :=
  decodeIaNaWith_eq (nested_eq (inIaNa_eq runs)) length

theorem inMessage_eq {relayed : RelayDepth → Trapping.Decoder Event Message}
    (h : ∀ inner, depth.enter? = some inner →
      relayed inner = lift (Message.decodeWith (DhcpOption.inMessage inner) .parent))
    (runs : Nat) : inMessage (runs + 2) relayed depth = .lift (DhcpOption.inMessage depth) :=
  inMessageWith_eq (decodeIaNa_eq runs) (decodeRelayMsgWith_eq h)

theorem inMessage_message (runs : Nat) (h : depth.left ≤ messages) :
    inMessage (runs + 2) (message (runs + 2) messages .parent) depth =
      .lift (DhcpOption.inMessage depth) := by
  induction messages generalizing depth with
  | zero =>
    apply inMessage_eq
    intro inner he
    rw [RelayDepth.left_of_enter?_some he] at h
    exact absurd h (Nat.not_succ_le_zero _)
  | succ messages ih =>
    apply inMessage_eq
    intro inner he
    rw [RelayDepth.left_of_enter?_some he] at h
    rw [message, ih (Nat.le_of_succ_le_succ h), decodeMessage_lift]

/-- No message goes too deep if more are allowed than levels are left. -/
theorem message_eq (runs : Nat) (bound : Bound) (h : depth.left < messages) :
    message (runs + 2) messages bound depth =
      lift (Message.decodeWith (DhcpOption.inMessage depth) bound) := by
  cases messages with
  | zero => exact absurd h (Nat.not_lt_zero _)
  | succ messages =>
    rw [message, inMessage_message runs (Nat.le_of_lt_succ h), decodeMessage_lift]

theorem sequence_eq (runs : Nat) (h : depth.left ≤ messages) (bound : Bound) :
    (inMessage (runs + 2) (message (runs + 2) messages .parent) depth).sequence bound =
      lift ((DhcpOption.inMessage depth).sequence bound) := by
  rw [inMessage_message runs h, Registry.sequence_lift]

theorem decodeData_eq (runs : Nat) (h : 32 < messages) (data : Bytes) :
    decodeData messages (runs + 2) data = .ok (Message.read data) := by
  have hleft : RelayDepth.outermost.left < messages := h
  exact decodeDataWith_eq (message_eq runs .buffer hleft) data

theorem length_relayed (m : Message) (n : Nat) : (m.relayed n).length = m.length + 38 * n := by
  induction n with
  | zero => rfl
  | succ n ih =>
    have hwrap : (m.relayed (n + 1)).length = 34 + (headerSize + (m.relayed n).length + 0) := rfl
    rw [hwrap, ih, headerSize]
    omega

theorem read_ipv6 (a : Ipv6) (bs : Bytes) :
    (read Ipv6.read : Trapping.Decoder Event Ipv6) (a.octets.val ++ bs) = .ok ⟨.ok a, bs, []⟩ :=
  congrArg Except.ok (TlvCodec.Decoder.read_of_ok (Ipv6.read_eq_ok_iff.mpr rfl))

theorem decodeMessage_of_trap {known : Trapping.Registry Event DhcpOption}
    {type hops : UInt8} {link peer : Ipv6} {options : List DhcpOption}
    (htype : MessageType.isRelay type = true)
    (h : known.sequence bound (wireOfOptions options) = .error trap) :
    decodeMessage known bound (Message.relay type hops link peer options).wire = .error trap := by
  let addresses := link.octets.val ++ (peer.octets.val ++ wireOfOptions options)
  have hwire : (Message.relay type hops link peer options).wire = type :: hops :: addresses := by
    rw [Message.wire, Message.header, List.cons_append, List.cons_append, List.append_assoc]
  have hsize : 32 ≤ addresses.length := by
    simp [addresses, link.octets.property, peer.octets.property]
    omega
  have hread (x : UInt8) (bs : Bytes) :
      (read .octet : Trapping.Decoder Event UInt8) (x :: bs) = .ok ⟨.ok x, bs, []⟩ := rfl
  have hneeded : sub16 34 1 = .ok 33 := rfl
  have hheader : ¬(hops :: addresses).length < (33 : UInt16).toNat := by
    rw [List.length_cons]
    exact Nat.not_lt.mpr (Nat.succ_le_succ hsize)
  have htypeOctet : ¬(type :: hops :: addresses).length < 1 :=
    Nat.not_lt.mpr (Nat.le_add_left 1 _)
  unfold decodeMessage
  rw [hwire, remaining_bind, if_neg htypeOctet, bind_of_ok (hread _ _)]
  simp only [htype, if_true, compute_bind hneeded]
  rw [remaining_bind, if_neg hheader, bind_of_ok (hread _ _), bind_of_ok (read_ipv6 _ _),
    bind_of_ok (read_ipv6 _ _), bind_of_trap h]

theorem sequence_tooDeep {m : Message} {inner : RelayDepth}
    {relayed : RelayDepth → Trapping.Decoder Event Message} (he : depth.enter? = some inner)
    (hl : m.length ≤ 65535) (h : relayed inner m.wire = .error .tooDeep) (bound : Bound) :
    (inMessage runs relayed depth).sequence bound (wireOfOptions [.relayMsg m]) =
      .error .tooDeep := by
  have ht : (DhcpOption.relayMsg m).tlv.Fits := by
    rw [Tlv.Fits, DhcpOption.tlv, DhcpOption.value_length]
    exact hl
  have hdecode : decodeRelayMsgWith relayed depth (DhcpOption.relayMsg m).tlv.lengthField m.wire =
      .error .tooDeep := by
    rw [decodeRelayMsgWith_some he]
    exact bind_of_trap h _
  exact Registry.sequence_of_trap ht rfl hdecode bound []

/-- A message that takes up all the levels goes too deep. -/
theorem message_tooDeep {m : Message} {n : Nat} (hl : (m.relayed n).length ≤ 65535)
    (hd : depth.left = n) (bound : Bound) :
    message runs n bound depth (m.relayed n).wire = .error .tooDeep := by
  induction n generalizing depth bound with
  | zero => rfl
  | succ n ih =>
    have hshort : (m.relayed n).length ≤ 65535 := by
      rw [length_relayed] at hl ⊢
      omega
    cases he : depth.enter? with
    | none =>
      rw [RelayDepth.left_of_enter?_none he] at hd
      cases hd
    | some inner =>
      rw [RelayDepth.left_of_enter?_some he] at hd
      have hinner := ih hshort (Nat.succ.inj hd) .parent
      exact decodeMessage_of_trap rfl (sequence_tooDeep he hshort hinner bound)

def addressed : Message := .client 1 1 [.iaNa 0 0 0 [.iaAddr Message.agent 0 0 []]]

theorem decodeData_tooDeep : decodeData 33 1 addressed.encode = .error .tooDeep := by
  decide +kernel

/-- No more than 33 messages nest, each with two runs of options, and no fewer will do. -/
theorem calls_bounded :
    (∀ data, decodeData 33 2 data = .ok (Message.read data)) ∧
    (∀ (depth : RelayDepth) (bound : Bound),
      ((inMessage 2 (message 2 (32 - depth.depth.toNat) .parent) depth).sequence bound).RunsAs
        ((DhcpOption.inMessage depth).sequence bound)) ∧
    (∃ data, decodeData 32 2 data = .error .tooDeep) ∧
    (∃ data, decodeData 33 1 data = .error .tooDeep) ∧
    ∀ depth : RelayDepth, depth.depth < 32 → ∀ bound, ∃ bs,
      (inMessage 2 (message 2 (31 - depth.depth.toNat) .parent) depth).sequence bound bs =
        .error .tooDeep := by
  have hfits {n : Nat} (hn : n ≤ 32) : ((Message.client 1 1 []).relayed n).length ≤ 65535 := by
    have hclient : (Message.client 1 1 []).length = 4 := rfl
    rw [length_relayed, hclient]
    omega
  refine ⟨decodeData_eq 0 (Nat.lt_succ_self 32), ?_, ?_, ⟨_, decodeData_tooDeep⟩, ?_⟩
  · intro depth bound
    exact runsAs_of_eq (sequence_eq 0 (Nat.le_refl _) bound)
  · refine ⟨((Message.client 1 1 []).relayed 32).encode, ?_⟩
    rw [Message.encode_eq_wire, decodeData, decodeDataWith,
      message_tooDeep (hfits (Nat.le_refl 32)) rfl]
    rfl
  · intro depth hd bound
    have hlt : depth.depth.toNat < 32 := UInt8.lt_iff_toNat_lt.mp hd
    have hleft : depth.left = 31 - depth.depth.toNat + 1 := by
      change 32 - depth.depth.toNat = _
      omega
    cases he : depth.enter? with
    | none =>
      rw [RelayDepth.left_of_enter?_none he] at hleft
      cases hleft
    | some inner =>
      rw [RelayDepth.left_of_enter?_some he] at hleft
      have hn : 31 - depth.depth.toNat ≤ 32 := Nat.le_succ_of_le (Nat.sub_le 31 _)
      refine ⟨_, sequence_tooDeep he (hfits hn) ?_ bound⟩
      exact message_tooDeep (hfits hn) (Nat.succ.inj hleft) .parent

end Limited
end TlvCodec.Dhcp6.Trapping
