import TlvCodec.Proofs.Dhcp6.Truncation
import TlvCodec.Proofs.Tlv.Notes

namespace TlvCodec.Dhcp6
open Decoder
set_option autoImplicit true

def Event.IsUnknownOption (e : Event) : Prop := ∃ code length, e = .unknownOption code length

def Event.ofUnknown (t : Tlv) : Event := .unknownOption t.code t.valueLength

mutual

/-- The unknown options in a message at any level, in wire order. -/
def Message.unknowns : Message → List Tlv
  | .client _ _ options => unknownsOfOptions options
  | .relay _ _ _ _ options => unknownsOfOptions options

def DhcpOption.unknowns : DhcpOption → List Tlv
  | .iaNa _ _ _ options => unknownsOfOptions options
  | .iaAddr _ _ _ options => unknownsOfOptions options
  | .relayMsg message => message.unknowns
  | .unknown tlv => [tlv]
  | .clientId _ | .serverId _ | .optionRequest _ | .elapsedTime _ => []

def unknownsOfOptions : List DhcpOption → List Tlv
  | [] => []
  | o :: os => o.unknowns ++ unknownsOfOptions os

end

def DhcpOption.notes (o : DhcpOption) : List Event := o.unknowns.map .ofUnknown

theorem flatMap_notes (os : List DhcpOption) :
    os.flatMap DhcpOption.notes = (unknownsOfOptions os).map .ofUnknown := by
  induction os with
  | nil => rfl
  | cons o os ih => rw [List.flatMap_cons, ih, unknownsOfOptions, List.map_append, DhcpOption.notes]

theorem notes_unknown (t : Tlv) :
    (∀ e ∈ noteUnknown t, e.IsUnknownOption) ∧ noteUnknown t = (DhcpOption.unknown t).notes := by
  refine ⟨?_, rfl⟩
  intro e he
  exact ⟨_, _, List.mem_singleton.mp he⟩

theorem Duid.silent_decode (len : UInt16) : (decode len : Decoder ε Duid).Silent := by
  unfold decode decodeContents
  refine silent_guard (silent_read_bind fun type => ?_)
  split
  · exact silent_guard (silent_read_bind fun _ => silent_read_bind fun _ =>
      silent_bind silent_remainder fun _ => silent_pure _)
  split
  · exact silent_guard (silent_read_bind fun _ => silent_bind silent_remainder fun _ =>
      silent_pure _)
  split
  · exact silent_guard (silent_read_bind fun _ => silent_bind silent_remainder fun _ =>
      silent_pure _)
  split
  · exact silent_guard (silent_read_bind fun _ => silent_pure _)
  · exact silent_bind silent_remainder fun _ => silent_pure _

theorem notes_options {known : Registry Event DhcpOption} (form : List DhcpOption → α)
    {f : α → List Event} (hk : known.Notes Event.IsUnknownOption DhcpOption.notes)
    (hf : ∀ os, f (form os) = (unknownsOfOptions os).map .ofUnknown) (bound : Bound) :
    (do return form (← known.sequence bound) : Decoder Event α).Notes Event.IsUnknownOption f := by
  apply notes_bind_pure
  simp only [hf, ← flatMap_notes]
  exact hk.sequence bound

theorem Message.notes_decodeWith {known : Registry Event DhcpOption}
    (hk : known.Notes Event.IsUnknownOption DhcpOption.notes) (bound : Bound) :
    (decodeWith known bound).Notes Event.IsUnknownOption fun m => m.unknowns.map .ofUnknown := by
  unfold decodeWith
  refine notes_bind (silent_need _ _) fun _ => notes_read_bind fun type => ?_
  split
  · refine notes_bind (silent_need _ _) fun _ => notes_read_bind fun hops => ?_
    refine notes_read_bind fun link => notes_read_bind fun peer => ?_
    exact notes_options (relay type hops link peer) hk (fun _ => rfl) bound
  · refine notes_bind (silent_need _ _) fun _ => notes_read_bind fun transaction => ?_
    exact notes_options (client type transaction) hk (fun _ => rfl) bound

namespace DhcpOption

theorem notes_ofDuid (form : Duid → DhcpOption) (hform : ∀ duid, (form duid).notes = [])
    (len : UInt16) :
    (do return form (← Duid.decode len) : Decoder Event DhcpOption).Notes
      Event.IsUnknownOption notes := by
  apply notes_bind (Duid.silent_decode len)
  intro duid
  apply (silent_pure _).notes
  intro bs o ho
  cases ho
  exact hform duid

theorem notes_inIaAddr : inIaAddr.Notes Event.IsUnknownOption notes where
  decoders _ _ h := absurd h List.not_mem_nil
  unknown := notes_unknown

theorem notes_decodeIaAddr (len : UInt16) :
    (decodeIaAddr len).Notes Event.IsUnknownOption notes := by
  unfold decodeIaAddr
  refine notes_guard (notes_read_bind fun address => ?_)
  refine notes_read_bind fun preferred => notes_read_bind fun valid => ?_
  exact notes_options (iaAddr address preferred valid) notes_inIaAddr (fun _ => rfl) .parent

theorem notes_inIaNa : inIaNa.Notes Event.IsUnknownOption notes where
  decoders code decode h := by
    cases List.mem_singleton.mp h
    exact notes_decodeIaAddr
  unknown := notes_unknown

theorem notes_decodeIaNa (len : UInt16) : (decodeIaNa len).Notes Event.IsUnknownOption notes := by
  unfold decodeIaNa
  refine notes_guard (notes_read_bind fun id => ?_)
  refine notes_read_bind fun t1 => notes_read_bind fun t2 => ?_
  exact notes_options (iaNa id t1 t2) notes_inIaNa (fun _ => rfl) .parent

theorem notes_decodeOptionRequest (len : UInt16) :
    (decodeOptionRequest len).Notes Event.IsUnknownOption notes := by
  unfold decodeOptionRequest
  refine notes_guard (notes_bind (silent_words []) fun codes => (silent_pure _).notes ?_)
  rintro bs o ho
  cases ho
  rfl

theorem notes_decodeElapsedTime (len : UInt16) :
    (decodeElapsedTime len).Notes Event.IsUnknownOption notes := by
  unfold decodeElapsedTime
  refine notes_guard (notes_read_bind fun time => (silent_pure _).notes ?_)
  rintro bs o ho
  cases ho
  rfl

theorem notes_decodeRelayMsg {depth : RelayDepth}
    (ih : ∀ inner, depth.enter? = some inner →
      (inMessage inner).Notes Event.IsUnknownOption notes) (len : UInt16) :
    (decodeRelayMsg depth len).Notes Event.IsUnknownOption notes := by
  unfold decodeRelayMsg decodeRelayed
  cases he : depth.enter? with
  | none => exact notes_fail _
  | some inner => exact notes_bind_pure (Message.notes_decodeWith (ih inner he) .parent)

theorem notes_inMessage (depth : RelayDepth) :
    (inMessage depth).Notes Event.IsUnknownOption notes := by
  -- on the levels that are left, as the messages relayed in this one are read one level down
  induction depth using inMessage.induct with
  | case1 depth ih =>
    rw [inMessage_eq]
    refine ⟨?_, notes_unknown⟩
    intro code decode hd
    simp only [List.mem_cons, Prod.mk.injEq, List.not_mem_nil, or_false] at hd
    rcases hd with ⟨-, rfl⟩ | ⟨-, rfl⟩ | ⟨-, rfl⟩ | ⟨-, rfl⟩ | ⟨-, rfl⟩ | ⟨-, rfl⟩
    · exact notes_ofDuid clientId fun _ => rfl
    · exact notes_ofDuid serverId fun _ => rfl
    · exact notes_decodeIaNa
    · exact notes_decodeOptionRequest
    · exact notes_decodeElapsedTime
    · exact notes_decodeRelayMsg ih

end DhcpOption

namespace Message

variable {data : Bytes} {m : Message} {k : Nat}

def failureNotes : Except DecodeError Message → List Event
  | .ok _ => []
  | .error e => [.messageFailed e]

theorem events_eq (data : Bytes) :
    events data = (decodeWith (DhcpOption.inMessage .outermost) .buffer data).events ++
      failureNotes (decode data) := by
  unfold events decode read
  rcases decodeWith (DhcpOption.inMessage .outermost) .buffer data with ⟨e | m, rest, events⟩
  · rfl
  · exact (List.append_nil _).symm

theorem events_of_decode (h : decode data = .ok m) : events data = m.unknowns.map .ofUnknown := by
  rw [events_eq, h, failureNotes, List.append_nil]
  rw [decode_eq] at h
  exact (notes_decodeWith (DhcpOption.notes_inMessage .outermost) .buffer data).2 m h

theorem events_decodeWith_take (h : decode data = .ok m) (hk : k < data.length) :
    (decodeWith (DhcpOption.inMessage .outermost) .buffer (data.take k)).events =
      (unknownsOfOptions (endingBy DhcpOption.length k m.headerLength m.options)).map
        .ofUnknown := by
  obtain ⟨hm, rfl⟩ := decode_eq_ok_iff.mp h
  obtain ⟨hheader, ho⟩ := (regular_and_nesting_le_iff m 32).mp hm
  have hw : m.wire = m.header ++ m.options.flatMap fun o => o.tlv.wire := by
    rw [wire_eq, wireOfOptions_eq_flatMap]
  rw [hw] at hk ⊢
  rcases Nat.lt_or_ge k m.headerLength with hlt | hle
  · have hshort := headerLengthOf_take hheader hlt (m.options.flatMap fun o => o.tlv.wire)
    rw [decodeWith_of_short, endingBy_eq_nil hlt]
    · rfl
    · rw [List.length_take_of_le (Nat.le_of_lt hk)]
      exact hshort
  · obtain ⟨j, rfl⟩ := Nat.exists_eq_add_of_le hle
    have hsize : (fun o : DhcpOption => o.tlv.wire.length) = DhcpOption.length := by
      funext o
      rw [Tlv.wire_length, DhcpOption.tlv, o.value_length, DhcpOption.length]
    have hevents := (DhcpOption.notes_inMessage .outermost).events_sequence_take
      (DhcpOption.inverts_inMessage .outermost) ho .buffer j m.headerLength
    rw [hsize, flatMap_notes] at hevents
    have hlen : m.headerLength + j = m.header.length + j := by rw [header_length]
    rw [hlen, List.take_length_add_append, decodeWith_header hheader, ← hlen]
    exact hevents

/-- Decoding notes the unknown options that end within the data, and a failure last. -/
theorem decode_events :
    (∀ data, ∃ notes : List Event, (∀ e ∈ notes, e.IsUnknownOption) ∧
      events data = notes ++ failureNotes (decode data)) ∧
    (∀ data m, decode data = .ok m →
      events data = m.unknowns.map fun t => .unknownOption t.code t.value.length) ∧
    (∀ data m, decode data = .ok m → ∀ k < data.length,
      events (data.take k) =
        ((unknownsOfOptions (endingBy DhcpOption.length k m.headerLength m.options)).map
          fun t => .unknownOption t.code t.value.length) ++ failureNotes (decode (data.take k))) ∧
    (∀ e : DecodeError, (Event.messageFailed e).record.message = "failed to decode message" ∧
      (Event.messageFailed e).record.fields = [("error", e.message)]) ∧
    ∀ code length, (Event.unknownOption code length).record.message = "unknown option" ∧
      (Event.unknownOption code length).record.fields =
        [("code", decimal code.toNat), ("length", decimal length)] := by
  refine ⟨?_, fun _ _ => events_of_decode, ?_, fun _ => ⟨rfl, rfl⟩, fun _ _ => ⟨rfl, rfl⟩⟩
  · intro data
    have hnotes := notes_decodeWith (DhcpOption.notes_inMessage .outermost) .buffer data
    exact ⟨_, hnotes.1, events_eq data⟩
  · intro data m h k hk
    rw [events_eq, events_decodeWith_take h hk]
    rfl

/-- The relayed solicit in full, and cut inside the message that it relays. -/
theorem decode_events_relayedSolicit :
    events relayedSolicitData = [.unknownOption 18 1, .unknownOption 1 2] ∧
      events (relayedSolicitData.take 70) =
        [.unknownOption 18 1, .messageFailed .truncatedInput] := by
  obtain ⟨-, hwhole, hcut, -⟩ := decode_events
  have h : decode relayedSolicitData = .ok relayedSolicit := by decide +kernel
  have htruncated : decode (relayedSolicitData.take 70) = .error .truncatedInput := by
    decide +kernel
  refine ⟨hwhole _ _ h, ?_⟩
  rw [hcut _ _ h 70 (by decide), htruncated]
  rfl

end Message

end TlvCodec.Dhcp6
