import TlvCodec.Json.Basic

namespace TlvCodec.Json

def int? : Json → Option Int
  | .number (.int n) => some n
  | _ => none

def natBelow? (bound : Nat) (v : Json) : Option Nat := do
  let n ← v.int?
  if 0 ≤ n ∧ n < bound then some n.toNat else none

def octet? (v : Json) : Option UInt8 := (v.natBelow? 256).map UInt8.ofNat

def word16? (v : Json) : Option UInt16 := (v.natBelow? 65536).map UInt16.ofNat

def word32? (v : Json) : Option UInt32 := (v.natBelow? 4294967296).map UInt32.ofNat

def string? : Json → Option String
  | .string s => some s
  | _ => none

def items? : Json → Option (List Json)
  | .array items => some items
  | _ => none

def octets? (v : Json) : Option (List UInt8) := do (← v.items?).mapM octet?

/-- Octets may also be given as a string, whose UTF-8 encoding is meant. -/
def octetsOrText? : Json → Option (List UInt8)
  | .string s => some s.toUTF8.toList
  | v => v.octets?

def single? : Json → Option Single
  | .number (.int n) => some (.ofInt n)
  | .number (.single x) => some x
  | .number (.double x) => some x.toSingle
  | _ => none

def field? (key : String) : Json → Option Json
  | .object fields => fields.lookup key
  | _ => none

def tagged? : Json → Option (String × Json)
  | .object [(tag, v)] => some (tag, v)
  | _ => none

/-- The fields of an object, or of an array that lists exactly the fields. -/
def record? (keys : List String) : Json → Option (List Json)
  | .object fields => keys.mapM fun key => fields.lookup key
  | .array items => if items.length = keys.length then some items else none
  | _ => none

def namedFields? (keys : List String) : Json → Option (List Json)
  | .object fields => keys.mapM fun key => fields.lookup key
  | _ => none

theorem sizeOf_lt_of_tagged {v w : Json} {tag : String} (h : v.tagged? = some (tag, w)) :
    sizeOf w < sizeOf v := by
  unfold tagged? at h
  split at h
  · cases h
    simp
    omega
  · cases h

theorem sizeOf_lt_of_lookup {key : String} {w : Json} {fields : List (String × Json)}
    (h : fields.lookup key = some w) : sizeOf w < sizeOf fields := by
  induction fields with
  | nil => simp at h
  | cons f fs ih =>
    obtain ⟨k, v⟩ := f
    simp only [List.lookup_cons] at h
    split at h
    · cases h
      simp
      omega
    · have := ih h
      simp
      omega

theorem sizeOf_lt_of_mapM_lookup {keys : List String} {fields : List (String × Json)}
    {vs : List Json} (h : (keys.mapM fun key => fields.lookup key) = some vs) {w : Json} (hw : w ∈ vs) :
    sizeOf w < sizeOf fields := by
  induction keys generalizing vs with
  | nil =>
    simp at h
    subst h
    cases hw
  | cons k ks ih =>
    simp only [List.mapM_cons, Option.bind_eq_bind, Option.pure_def,
      Option.bind_eq_some_iff, Option.some.injEq] at h
    obtain ⟨v, hv, us, hus, rfl⟩ := h
    rcases List.mem_cons.mp hw with rfl | hw
    · exact sizeOf_lt_of_lookup hv
    · exact ih hus hw

theorem sizeOf_lt_of_record {keys : List String} {v : Json} {vs : List Json}
    (h : v.record? keys = some vs) {w : Json} (hw : w ∈ vs) : sizeOf w < sizeOf v := by
  unfold record? at h
  split at h
  · have := sizeOf_lt_of_mapM_lookup h hw
    simp
    omega
  · split at h
    · cases h
      have := List.sizeOf_lt_of_mem hw
      simp
      omega
    · cases h
  · cases h

end TlvCodec.Json
