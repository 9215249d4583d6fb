import TlvCodec.Proofs.BgpLs.RoundTrip

namespace TlvCodec.BgpLs
set_option autoImplicit true

namespace Attribute

variable {a : Attribute}

theorem writer?_of_not_isUnreservedBandwidth (h : a.isUnreservedBandwidth = false) :
    ∃ writer, a.writer? = .ok writer := by
  cases a with
  | unreservedBandwidth => cases h
  | _ => exact ⟨_, rfl⟩

theorem events_write (h : a.isUnreservedBandwidth = false) (b : Buffer) : (a.write b).2 = [] := by
  obtain ⟨writer, hw⟩ := writer?_of_not_isUnreservedBandwidth h
  rw [write, hw]

theorem append?_of_not_isUnreservedBandwidth (h : a.isUnreservedBandwidth = false) (b : Buffer) :
    a.append? b = (.ok a.encodedLength, (a.write b).1) := by
  obtain ⟨writer, hw⟩ := writer?_of_not_isUnreservedBandwidth h
  have hout : a.write b = (writer b, []) := by rw [write, hw]
  have hgrown : (writer b).size = b.size + a.encodedLength := by rw [← a.size_write, hout]
  rw [hout, append?, write?, hw]
  simp only [Except.map, hgrown, Nat.add_sub_cancel_left]

theorem append?_of_isUnreservedBandwidth (h : a.isUnreservedBandwidth = true) (b : Buffer) :
    a.append? b = (.error (.unsupported 1091), b) := by
  cases a with
  | unreservedBandwidth => rfl
  | _ => cases h

theorem append_eq (a : Attribute) (b : Buffer) : a.append b = (a.encodedLength, a.write b) := by
  cases h : a.isUnreservedBandwidth with
  | false =>
    rw [append, append?_of_not_isUnreservedBandwidth h]
    exact Prod.ext rfl (Prod.ext rfl (events_write h b).symm)
  | true =>
    cases a with
    | unreservedBandwidth => rfl
    | _ => cases h

end Attribute

namespace Request

variable {q : Request} {b : Buffer} {n : Nat}

/-- The octets that a request leaves in output that was empty. -/
def alone (q : Request) : Bytes := (q.serve #[]).buffer.toList

theorem serve_of_not_isUnreservedBandwidth (h : q.attr.isUnreservedBandwidth = false)
    (b : Buffer) : q.serve b = ⟨.ok q.attr.encodedLength, (q.attr.write b).1, []⟩ := by
  unfold serve
  split
  · rw [Attribute.append?_of_not_isUnreservedBandwidth h]
  · rw [Attribute.append_eq, ← Attribute.events_write h b]

theorem serve_of_isUnreservedBandwidth (h : q.attr.isUnreservedBandwidth = true) (b : Buffer) :
    q.serve b =
      if q.strict then ⟨.error (.unsupported 1091), b, []⟩
      else ⟨.ok 0, b, [.attributeSkipped (.unsupported 1091)]⟩ := by
  unfold serve Attribute.append
  rw [Attribute.append?_of_isUnreservedBandwidth h]

theorem toList_serve (q : Request) (b : Buffer) :
    (q.serve b).buffer.toList = b.toList ++ q.attr.wire := by
  cases h : q.attr.isUnreservedBandwidth with
  | false =>
    rw [serve_of_not_isUnreservedBandwidth h]
    exact q.attr.toList_write b
  | true =>
    rw [serve_of_isUnreservedBandwidth h, Attribute.wire_of_isUnreservedBandwidth h,
      List.append_nil]
    split <;> rfl

theorem alone_eq (q : Request) : q.alone = q.attr.wire := toList_serve q #[]

theorem size_serve (q : Request) (b : Buffer) :
    (q.serve b).buffer.size = b.size + q.attr.encodedLength := by
  rw [← Array.length_toList, toList_serve, List.length_append, Attribute.wire_length,
    Array.length_toList]

theorem count_serve (h : (q.serve b).count = .ok n) : n = q.attr.encodedLength := by
  cases hu : q.attr.isUnreservedBandwidth with
  | false =>
    rw [serve_of_not_isUnreservedBandwidth hu] at h
    exact (Except.ok.inj h).symm
  | true =>
    have hnone : q.attr.encodedLength = 0 := by
      rw [← Attribute.wire_length, Attribute.wire_of_isUnreservedBandwidth hu, List.length_nil]
    rw [serve_of_isUnreservedBandwidth hu] at h
    split at h
    · cases h
    · rw [hnone]
      exact (Except.ok.inj h).symm

theorem exists_served (p : Buffer) (before : List Request) (q : Request) (after : List Request) :
    ∃ b, (serveAll p (before ++ q :: after))[before.length]? = some (q.serve b) ∧
      b.toList = p.toList ++ before.flatMap alone := by
  induction before generalizing p with
  | nil => exact ⟨p, rfl, (List.append_nil _).symm⟩
  | cons c before ih =>
    obtain ⟨b, hb, hlist⟩ := ih (c.serve p).buffer
    refine ⟨b, hb, ?_⟩
    rw [hlist, toList_serve, List.flatMap_cons, alone_eq, List.append_assoc]

/-- Requests that share their output leave in it what each leaves on its own. -/
theorem serveAll_shared (p : Buffer) (before : List Request) (q : Request)
    (after : List Request) :
    ∃ b, (serveAll p (before ++ q :: after))[before.length]? = some (q.serve b) ∧
      b.toList = p.toList ++ before.flatMap alone ∧
      (q.serve b).buffer.toList = p.toList ++ (before ++ [q]).flatMap alone ∧
      (∀ n, (q.serve b).count = .ok n →
        n = q.attr.encodedLength ∧ (q.serve b).buffer.size = b.size + n) ∧
      (q.attr.isUnreservedBandwidth = true →
        (q.serve b).buffer = b ∧
        (q.strict = false → (q.serve b).count = .ok 0 ∧
          ∃ e, (q.serve b).events = [e] ∧ e.record.level = .warn) ∧
        (q.strict = true →
          (q.serve b).count = .error (.unsupported 1091) ∧ (q.serve b).events = [])) ∧
      (q.attr.isUnreservedBandwidth = false →
        (q.serve b).count = .ok q.attr.encodedLength ∧ (q.serve b).events = [] ∧
        ∀ c : Request, c.attr = q.attr → c.serve b = q.serve b) := by
  obtain ⟨b, hserved, hb⟩ := exists_served p before q after
  refine ⟨b, hserved, hb, ?_, ?_, ?_, ?_⟩
  · rw [toList_serve, hb, List.flatMap_append, List.flatMap_singleton, alone_eq q,
      List.append_assoc]
  · intro n hn
    obtain rfl := count_serve hn
    exact ⟨rfl, size_serve q b⟩
  · intro hu
    rw [serve_of_isUnreservedBandwidth hu]
    cases hs : q.strict with
    | false => exact ⟨rfl, fun _ => ⟨rfl, _, rfl, rfl⟩, nofun⟩
    | true => exact ⟨rfl, nofun, fun _ => ⟨rfl, rfl⟩⟩
  · intro hu
    rw [serve_of_not_isUnreservedBandwidth hu]
    refine ⟨rfl, rfl, ?_⟩
    intro c hc
    have hcu : c.attr.isUnreservedBandwidth = false := by rw [hc, hu]
    rw [serve_of_not_isUnreservedBandwidth hcu, hc]

def metricRequest : Request := ⟨.teDefaultMetric 7, true⟩

def bandwidthRequest (strict : Bool) : Request :=
  ⟨.unreservedBandwidth (.replicate 8 ⟨0⟩), strict⟩

/-- A metric, then unreserved bandwidths, first for the log and then for the caller. -/
theorem serveAll_shared_bandwidths :
    ∃ b, (serveAll #[9] [metricRequest, bandwidthRequest false, bandwidthRequest true])[2]? =
        some ((bandwidthRequest true).serve b) ∧
      b.toList = [9, 4, 68, 0, 4, 0, 0, 0, 7] ∧
      ((bandwidthRequest true).serve b).buffer = b ∧
      ((bandwidthRequest true).serve b).count = .error (.unsupported 1091) := by
  obtain ⟨b, hserved, hb, -, -, hskipped, -⟩ :=
    serveAll_shared #[9] [metricRequest, bandwidthRequest false] (bandwidthRequest true) []
  obtain ⟨hsame, -, hstrict⟩ := hskipped rfl
  exact ⟨b, hserved, hb.trans (by decide), hsame, (hstrict rfl).1⟩

end Request

end TlvCodec.BgpLs
