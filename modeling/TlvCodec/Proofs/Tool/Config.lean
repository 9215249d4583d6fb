import TlvCodec.Tool.Run

namespace TlvCodec.Toml.Value
set_option autoImplicit true

/-- The value under a path of keys. -/
def at? : List String → Value → Option Value
  | [], v => some v
  | key :: path, table entries => (entries.lookup key).bind (at? path)
  | _ :: _, _ => none

/-- A table with no keys but those listed, each with a value of its kind. -/
def HasOnly (kinds : List (String × (Value → Prop))) : Value → Prop
  | table entries => ∀ e ∈ entries, ∃ kind, kinds.lookup e.1 = some kind ∧ kind e.2
  | _ => False

def IsWritten (write : α → Value) (v : Value) : Prop := ∃ a, v = write a

variable {entries : List (String × Value)} {kinds : List (String × (Value → Prop))} {v : Value}

theorem HasOnly.exists_entries (h : v.HasOnly kinds) : ∃ entries, v = .table entries := by
  cases v with
  | table entries => exact ⟨entries, rfl⟩
  | _ => exact h.elim

theorem HasOnly.of_lookup {kind : Value → Prop} (h : HasOnly kinds (.table entries))
    (key : String) (hkind : kinds.lookup key = some kind) (w : Value)
    (hw : entries.lookup key = some w) : kind w := by
  obtain ⟨before, after, rfl, -⟩ := List.lookup_eq_some_iff.mp hw
  obtain ⟨kind', hkind', hw'⟩ := h (key, w) (by simp)
  cases hkind.symm.trans hkind'
  exact hw'

theorem HasOnly.mem_keys (h : HasOnly kinds (.table entries)) :
    ∀ e ∈ entries, e.1 ∈ kinds.map Prod.fst := by
  intro e he
  obtain ⟨kind, hkind, -⟩ := h e he
  obtain ⟨before, after, rfl, -⟩ := List.lookup_eq_some_iff.mp hkind
  simp

theorem at?_table_singleton (key : String) : (table entries).at? [key] = entries.lookup key :=
  Option.bind_fun_some _

theorem lookup_filter {p : String → Bool} (h : p key) (entries : List (String × Value)) :
    (entries.filter fun e => p e.1).lookup key = entries.lookup key := by
  induction entries with
  | nil => rfl
  | cons e entries ih =>
    rw [List.filter_cons]
    by_cases he : key = e.1
    · subst he
      rw [if_pos h, List.lookup_cons, List.lookup_cons, BEq.rfl]
    · have hskip (l : List (String × Value)) : (e :: l).lookup key = l.lookup key := by
        rw [List.lookup_cons, beq_false_of_ne he]
      split
      · rw [hskip, hskip, ih]
      · rw [hskip, ih]

theorem exists_lookup_of_at? {w : Value} (h : v.at? (key :: path) = some w) :
    ∃ entries u, v = .table entries ∧ entries.lookup key = some u ∧ u.at? path = some w := by
  cases v with
  | table entries =>
    obtain ⟨u, hu, hw⟩ := Option.bind_eq_some_iff.mp h
    exact ⟨entries, u, rfl, hu, hw⟩
  | _ => cases h

end TlvCodec.Toml.Value

namespace TlvCodec.Tool
open Toml Value
set_option autoImplicit true

variable {entries : List (String × Value)} {v w : Value} {slot : Option Value}

/-- The setting is what stands under its key, or else the default. -/
def IsSetting (write : α → Value) (fallback : α) (slot : Option Value) (actual : α) : Prop :=
  slot = some (write actual) ∨ slot = none ∧ actual = fallback

def writeName (name : α → String) (a : α) : Value := .string (name a)

theorem bind_namedSlots?_table {f : List (Option Value) → Option α} :
    (namedSlots? keys (.table entries)).bind f = some a ↔
      (∀ e ∈ entries, e.1 ∈ keys) ∧ f (keys.map fun key => entries.lookup key) = some a := by
  simp only [namedSlots?, Option.bind_eq_some_iff, Option.ite_none_right_eq_some,
    List.all_eq_true, List.contains_iff_mem, Option.some.injEq, and_assoc, exists_and_left,
    exists_eq_left']

theorem slots?_table (keys : List String) (entries : List (String × Value)) :
    slots? keys (.table entries) = namedSlots? keys (.table entries) := rfl

theorem exists_slot {read : Value → Option α} {kind : Value → Prop} {R : Option Value → α → Prop}
    (hread : ∀ w, kind w → ∃ a, read w = some a ∧ R (some w) a) (hnone : R none fallback)
    (hslot : ∀ w, slot = some w → kind w) :
    ∃ a, slot? read fallback slot = some a ∧ R slot a := by
  cases slot with
  | none => exact ⟨fallback, rfl, hnone⟩
  | some w => exact hread w (hslot w rfl)

theorem exists_setting {read : Value → Option α} {write : α → Value}
    (hread : ∀ a, read (write a) = some a) (fallback : α)
    (hslot : ∀ w, slot = some w → IsWritten write w) :
    ∃ a, slot? read fallback slot = some a ∧ IsSetting write fallback slot a := by
  refine exists_slot ?_ (.inr ⟨rfl, rfl⟩) hslot
  rintro _ ⟨a, rfl⟩
  exact ⟨a, hread a, .inl rfl⟩

theorem bool?_bool (b : Bool) : Value.bool? (.bool b) = some b := rfl

theorem choice?_writeName {ofName? : String → Option α} {name : α → String}
    (h : ∀ a, ofName? (name a) = some a) (isNothing : Value → Bool) (a : α) :
    choice? ofName? isNothing (writeName name a) = some a :=
  h a

theorem eq_some_of_slot? {read : Value → Option α} (h : slot? read fallback slot = some a)
    (hw : slot = some w) : read w = some a := by
  rw [hw] at h
  exact h

namespace Logging

def kinds : List (String × (Value → Prop)) :=
  [("enabled", IsWritten .bool), ("style", IsWritten (writeName Log.Style.name)),
    ("colors", IsWritten .bool), ("show_thread_id", IsWritten .bool),
    ("show_source", IsWritten .bool)]

/-- Each setting is what stands under its own key. -/
structure Follows (l : Logging) (slot : String → Option Value) : Prop where
  enabled : IsSetting .bool true (slot "enabled") l.enabled
  style : IsSetting (writeName Log.Style.name) .full (slot "style") l.style
  colors : IsSetting .bool false (slot "colors") l.colors
  showThreadId : IsSetting .bool false (slot "show_thread_id") l.showThreadId
  showSource : IsSetting .bool false (slot "show_source") l.showSource

theorem follows_none : Follows {} fun _ => none where
  enabled := .inr ⟨rfl, rfl⟩
  style := .inr ⟨rfl, rfl⟩
  colors := .inr ⟨rfl, rfl⟩
  showThreadId := .inr ⟨rfl, rfl⟩
  showSource := .inr ⟨rfl, rfl⟩

theorem ofToml?_table :
    ofToml? (.table entries) = some l ↔
      (∀ e ∈ entries, e.1 ∈ ["enabled", "style", "colors", "show_thread_id", "show_source"]) ∧
      slot? Value.bool? true (entries.lookup "enabled") = some l.enabled ∧
      slot? (choice? Log.Style.ofName? isEmptyTable) .full (entries.lookup "style") =
        some l.style ∧
      slot? Value.bool? false (entries.lookup "colors") = some l.colors ∧
      slot? Value.bool? false (entries.lookup "show_thread_id") = some l.showThreadId ∧
      slot? Value.bool? false (entries.lookup "show_source") = some l.showSource := by
  rw [ofToml?, Option.bind_eq_bind, bind_namedSlots?_table]
  simp only [List.map_cons, List.map_nil, Option.bind_eq_bind, Option.bind_eq_some_iff,
    Option.pure_def, Option.some.injEq]
  constructor
  · rintro ⟨hkeys, _, he, _, hs, _, hc, _, ht, _, ho, rfl⟩
    exact ⟨hkeys, he, hs, hc, ht, ho⟩
  · rintro ⟨hkeys, he, hs, hc, ht, ho⟩
    exact ⟨hkeys, _, he, _, hs, _, hc, _, ht, _, ho, rfl⟩

theorem ofToml?_of_hasOnly (h : v.HasOnly kinds) :
    ∃ l, ofToml? v = some l ∧ l.Follows fun key => v.at? [key] := by
  obtain ⟨entries, rfl⟩ := h.exists_entries
  have hname (s : Log.Style) : Log.Style.ofName? s.name = some s := by cases s <;> decide
  obtain ⟨enabled, he, hfe⟩ := exists_setting bool?_bool true (h.of_lookup "enabled" rfl)
  obtain ⟨style, hs, hfs⟩ :=
    exists_setting (choice?_writeName hname isEmptyTable) .full (h.of_lookup "style" rfl)
  obtain ⟨colors, hc, hfc⟩ := exists_setting bool?_bool false (h.of_lookup "colors" rfl)
  obtain ⟨thread, ht, hft⟩ := exists_setting bool?_bool false (h.of_lookup "show_thread_id" rfl)
  obtain ⟨source, ho, hfo⟩ := exists_setting bool?_bool false (h.of_lookup "show_source" rfl)
  refine ⟨⟨enabled, style, colors, thread, source⟩,
    ofToml?_table.mpr ⟨h.mem_keys, he, hs, hc, ht, ho⟩, ?_⟩
  simp only [at?_table_singleton]
  exact ⟨hfe, hfs, hfc, hft, hfo⟩

/-- How log lines look: the settings grouped among the other keys. -/
structure Appearance where
  style : Log.Style := .full
  colors : Bool := false
  showThreadId : Bool := false
  showSource : Bool := false

def Appearance.keys : List String := ["style", "colors", "show_thread_id", "show_source"]

def Appearance.ofToml? (v : Value) : Option Appearance := do
  match ← namedSlots? keys v with
  | [style, colors, showThreadId, showSource] =>
    return {
      style := ← slot? (choice? Log.Style.ofName? isEmptyTable) .full style
      colors := ← slot? Value.bool? false colors
      showThreadId := ← slot? Value.bool? false showThreadId
      showSource := ← slot? Value.bool? false showSource }
  | _ => none

def appearance (l : Logging) : Appearance :=
  { style := l.style, colors := l.colors, showThreadId := l.showThreadId,
    showSource := l.showSource }

def others (entries : List (String × Value)) : List (String × Value) :=
  entries.filter fun e => e.1 ≠ "enabled"

def offered (entries : List (String × Value)) : List (String × Value) :=
  (others entries).filter fun e => e.1 ∈ Appearance.keys

/-- Terminal logging with its look as a group, offered what the table does not take. -/
def ofParts? : Value → Option Logging
  | .table entries => do
    let enabled ← slot? Value.bool? true (entries.lookup "enabled")
    let a ← Appearance.ofToml? (.table (offered entries))
    if (others entries).all fun e => e.1 ∈ Appearance.keys then
      return { enabled, style := a.style, colors := a.colors, showThreadId := a.showThreadId,
               showSource := a.showSource }
    else none
  | _ => none

theorem Appearance.ofToml?_table {a : Appearance} :
    ofToml? (.table entries) = some a ↔
      (∀ e ∈ entries, e.1 ∈ keys) ∧
      slot? (choice? Log.Style.ofName? isEmptyTable) .full (entries.lookup "style") =
        some a.style ∧
      slot? Value.bool? false (entries.lookup "colors") = some a.colors ∧
      slot? Value.bool? false (entries.lookup "show_thread_id") = some a.showThreadId ∧
      slot? Value.bool? false (entries.lookup "show_source") = some a.showSource := by
  rw [ofToml?, Option.bind_eq_bind, bind_namedSlots?_table]
  simp only [keys, List.map_cons, List.map_nil, Option.bind_eq_bind,
    Option.bind_eq_some_iff, Option.pure_def, Option.some.injEq]
  constructor
  · rintro ⟨hkeys, _, hs, _, hc, _, ht, _, ho, rfl⟩
    exact ⟨hkeys, hs, hc, ht, ho⟩
  · rintro ⟨hkeys, hs, hc, ht, ho⟩
    exact ⟨hkeys, _, hs, _, hc, _, ht, _, ho, rfl⟩

theorem ofParts?_table :
    ofParts? (.table entries) = some l ↔
      (∀ e ∈ entries, e.1 ≠ "enabled" → e.1 ∈ Appearance.keys) ∧
      slot? Value.bool? true (entries.lookup "enabled") = some l.enabled ∧
      Appearance.ofToml? (.table (offered entries)) = some l.appearance := by
  simp only [ofParts?, others, Option.bind_eq_bind, Option.bind_eq_some_iff,
    Option.ite_none_right_eq_some, List.all_eq_true, List.mem_filter, decide_eq_true_eq, and_imp,
    Option.pure_def, Option.some.injEq]
  constructor
  · rintro ⟨enabled, he, a, ha, hkeys, rfl⟩
    exact ⟨hkeys, he, ha⟩
  · rintro ⟨hkeys, he, ha⟩
    exact ⟨l.enabled, he, l.appearance, ha, hkeys, rfl⟩

theorem lookup_offered (h : key ∈ Appearance.keys) :
    (offered entries).lookup key = entries.lookup key := by
  have hne : key ≠ "enabled" := by
    rintro rfl
    exact absurd h (by decide)
  rw [offered, others, lookup_filter (p := fun key => key ∈ Appearance.keys) (by simpa using h),
    lookup_filter (p := fun key => key ≠ "enabled") (by simpa using hne)]

theorem ofToml?_eq_ofParts? (v : Value) : ofToml? v = ofParts? v := by
  cases v with
  | table entries =>
    refine Option.ext fun l => ?_
    -- The group's own refusal of other keys never comes into play.
    have hoffered : ∀ e ∈ offered entries, e.1 ∈ Appearance.keys := by simp [offered]
    rw [ofToml?_table, ofParts?_table, Appearance.ofToml?_table, lookup_offered (by decide),
      lookup_offered (by decide), lookup_offered (by decide), lookup_offered (by decide)]
    constructor
    · rintro ⟨hkeys, he, happearance⟩
      exact ⟨fun e h hne => (List.mem_cons.mp (hkeys e h)).resolve_left hne, he, hoffered,
        happearance⟩
    · rintro ⟨hkeys, he, -, happearance⟩
      exact ⟨fun e h => List.mem_cons.mpr (Decidable.or_iff_not_imp_left.mpr (hkeys e h)), he,
        happearance⟩
  | _ => rfl

end Logging

namespace Decoding

def kinds : List (String × (Value → Prop)) :=
  [("input_format", IsWritten (writeName InputFormat.name)), ("pretty", IsWritten .bool)]

structure Follows (d : Decoding) (slot : String → Option Value) : Prop where
  inputFormat : IsSetting (writeName InputFormat.name) .hex (slot "input_format") d.inputFormat
  pretty : IsSetting .bool true (slot "pretty") d.pretty

theorem follows_none : Follows {} fun _ => none where
  inputFormat := .inr ⟨rfl, rfl⟩
  pretty := .inr ⟨rfl, rfl⟩

theorem ofToml?_table :
    ofToml? (.table entries) = some d ↔
      (∀ e ∈ entries, e.1 ∈ ["input_format", "pretty"]) ∧
      slot? (choice? InputFormat.ofName? isEmptyContainer) .hex (entries.lookup "input_format") =
        some d.inputFormat ∧
      slot? Value.bool? true (entries.lookup "pretty") = some d.pretty := by
  rw [ofToml?, slots?_table, Option.bind_eq_bind, bind_namedSlots?_table]
  simp only [List.map_cons, List.map_nil, Option.bind_eq_bind, Option.bind_eq_some_iff,
    Option.pure_def, Option.some.injEq]
  constructor
  · rintro ⟨hkeys, _, hi, _, hp, rfl⟩
    exact ⟨hkeys, hi, hp⟩
  · rintro ⟨hkeys, hi, hp⟩
    exact ⟨hkeys, _, hi, _, hp, rfl⟩

theorem ofToml?_of_hasOnly (h : v.HasOnly kinds) :
    ∃ d, ofToml? v = some d ∧ d.Follows fun key => v.at? [key] := by
  obtain ⟨entries, rfl⟩ := h.exists_entries
  have hname (f : InputFormat) : InputFormat.ofName? f.name = some f := by cases f <;> decide
  obtain ⟨format, hi, hfi⟩ :=
    exists_setting (choice?_writeName hname isEmptyContainer) .hex (h.of_lookup "input_format" rfl)
  obtain ⟨pretty, hp, hfp⟩ := exists_setting bool?_bool true (h.of_lookup "pretty" rfl)
  refine ⟨⟨format, pretty⟩, ofToml?_table.mpr ⟨h.mem_keys, hi, hp⟩, ?_⟩
  simp only [at?_table_singleton]
  exact ⟨hfi, hfp⟩

end Decoding

namespace Config

def loggingKinds : List (String × (Value → Prop)) := [("stdout", HasOnly Logging.kinds)]

def kinds : List (String × (Value → Prop)) :=
  [("logging", HasOnly loggingKinds), ("decode", HasOnly Decoding.kinds)]

/-- The tables of a document, with the keys that each may have. -/
def knownKeys : List (List String × List String) :=
  [([], ["logging", "decode"]), (["logging"], ["stdout"]),
    (["logging", "stdout"], ["enabled", "style", "colors", "show_thread_id", "show_source"]),
    (["decode"], ["input_format", "pretty"])]

structure Follows (c : Config) (v : Value) : Prop where
  logging : c.logging.Follows fun key => v.at? ["logging", "stdout", key]
  decode : c.decode.Follows fun key => v.at? ["decode", key]

theorem loggingOfToml?_table :
    loggingOfToml? (.table entries) = some l ↔
      (∀ e ∈ entries, e.1 ∈ ["stdout"]) ∧
      slot? Logging.ofToml? {} (entries.lookup "stdout") = some l := by
  rw [loggingOfToml?, slots?_table, Option.bind_eq_bind, bind_namedSlots?_table]
  rfl

theorem ofToml?_table :
    ofToml? (.table entries) = some c ↔
      (∀ e ∈ entries, e.1 ∈ ["logging", "decode"]) ∧
      slot? loggingOfToml? {} (entries.lookup "logging") = some c.logging ∧
      slot? Decoding.ofToml? {} (entries.lookup "decode") = some c.decode := by
  rw [ofToml?, Option.bind_eq_bind, bind_namedSlots?_table]
  simp only [List.map_cons, List.map_nil, Option.bind_eq_bind, Option.bind_eq_some_iff,
    Option.pure_def, Option.some.injEq]
  constructor
  · rintro ⟨hkeys, _, hl, _, hd, rfl⟩
    exact ⟨hkeys, hl, hd⟩
  · rintro ⟨hkeys, hl, hd⟩
    exact ⟨hkeys, _, hl, _, hd, rfl⟩

theorem loggingOfToml?_of_hasOnly (h : v.HasOnly loggingKinds) :
    ∃ l, loggingOfToml? v = some l ∧ l.Follows fun key => v.at? ["stdout", key] := by
  obtain ⟨entries, rfl⟩ := h.exists_entries
  obtain ⟨l, hl, hf⟩ := exists_slot
    (R := fun slot l => Logging.Follows l fun key => slot.bind (Value.at? [key]))
    (fun _ => Logging.ofToml?_of_hasOnly) Logging.follows_none (h.of_lookup "stdout" rfl)
  exact ⟨l, loggingOfToml?_table.mpr ⟨h.mem_keys, hl⟩, hf⟩

theorem ofToml?_of_hasOnly (h : v.HasOnly kinds) : ∃ c, ofToml? v = some c ∧ c.Follows v := by
  obtain ⟨entries, rfl⟩ := h.exists_entries
  obtain ⟨l, hl, hfl⟩ := exists_slot
    (R := fun slot l => Logging.Follows l fun key => slot.bind (Value.at? ["stdout", key]))
    (fun _ => loggingOfToml?_of_hasOnly) Logging.follows_none (h.of_lookup "logging" rfl)
  obtain ⟨d, hd, hfd⟩ := exists_slot
    (R := fun slot d => Decoding.Follows d fun key => slot.bind (Value.at? [key]))
    (fun _ => Decoding.ofToml?_of_hasOnly) Decoding.follows_none (h.of_lookup "decode" rfl)
  exact ⟨⟨l, d⟩, ofToml?_table.mpr ⟨h.mem_keys, hl, hd⟩, hfl, hfd⟩

theorem mem_known_of_ofToml? (h : ofToml? v = some c) (hpath : (path, known) ∈ knownKeys)
    (hv : v.at? path = some (.table entries)) : ∀ e ∈ entries, e.1 ∈ known := by
  simp only [knownKeys, List.mem_cons, List.not_mem_nil, or_false, Prod.mk.injEq] at hpath
  obtain ⟨rfl, rfl⟩ | ⟨rfl, rfl⟩ | ⟨rfl, rfl⟩ | ⟨rfl, rfl⟩ := hpath
  · cases hv
    exact (ofToml?_table.mp h).1
  · obtain ⟨_, u, rfl, hu, hw⟩ := exists_lookup_of_at? hv
    cases hw
    obtain ⟨-, hl, -⟩ := ofToml?_table.mp h
    exact (loggingOfToml?_table.mp (eq_some_of_slot? hl hu)).1
  · obtain ⟨_, u, rfl, hu, hv⟩ := exists_lookup_of_at? hv
    obtain ⟨_, u, rfl, hu', hw⟩ := exists_lookup_of_at? hv
    cases hw
    obtain ⟨-, hl, -⟩ := ofToml?_table.mp h
    obtain ⟨-, hs⟩ := loggingOfToml?_table.mp (eq_some_of_slot? hl hu)
    exact (Logging.ofToml?_table.mp (eq_some_of_slot? hs hu')).1
  · obtain ⟨_, u, rfl, hu, hw⟩ := exists_lookup_of_at? hv
    cases hw
    obtain ⟨-, -, hd⟩ := ofToml?_table.mp h
    exact (Decoding.ofToml?_table.mp (eq_some_of_slot? hd hu)).1

/-- Every setting is what stands under its own key, and unknown keys are refused. -/
theorem load_override (hread : readText files path = .ok text)
    (hparse : Toml.parse? text.toList = some v) :
    (v.HasOnly kinds → ∃ c, load files path = (some c, []) ∧ c.Follows v) ∧
    (∀ table known, (table, known) ∈ knownKeys → ∀ entries, v.at? table = some (.table entries) →
      ∀ e ∈ entries, e.1 ∉ known → load files path = (none, [])) ∧
    ∀ w, Logging.ofToml? w = Logging.ofParts? w := by
  have hload : load files path = (ofToml? v, []) := by
    simp only [load, hread, Config.parse?, hparse, Option.bind_eq_bind, Option.bind_some]
  refine ⟨?_, ?_, Logging.ofToml?_eq_ofParts?⟩
  · intro h
    obtain ⟨c, hc, hfollows⟩ := ofToml?_of_hasOnly h
    exact ⟨c, by rw [hload, hc], hfollows⟩
  · intro table known htable entries hentries e he hunknown
    cases hc : ofToml? v with
    | none => rw [hload, hc]
    | some c => exact absurd (mem_known_of_ofToml? hc htable hentries e he) hunknown

theorem readText_toUTF8 (text path : String) :
    readText (fun _ => .ok text.toUTF8.data.toList) path = .ok text := by
  have h : String.fromUTF8? text.toUTF8 = some text := dif_pos text.isValidUTF8
  simp only [readText, Array.toArray_toList]
  rw [show ByteArray.mk text.toUTF8.data = text.toUTF8 from rfl, h]

def partialText : String := "[logging.stdout]\nstyle = \"json\"\n[decode]\npretty = false\n"

def partialValue : Value :=
  .table [("logging", .table [("stdout", .table [("style", .string "json")])]),
    ("decode", .table [("pretty", .bool false)])]

/-- A key that neither the table nor its group knows. -/
def misspeltText : String := "[logging.stdout]\ncolours = true\n"

def misspeltValue : Value :=
  .table [("logging", .table [("stdout", .table [("colours", .bool true)])])]

theorem parse?_partialText : Toml.parse? partialText.toList = some partialValue := by
  have hscan : Lexeme.scan? partialText.toList = some
      [⟨.openBracket, []⟩, ⟨.bare "logging".toList, []⟩, ⟨.dot, []⟩, ⟨.bare "stdout".toList, []⟩,
        ⟨.closeBracket, []⟩, ⟨.newLine, []⟩, ⟨.bare "style".toList, []⟩, ⟨.equals, [' ']⟩,
        ⟨.string "json".toList false, [' ']⟩, ⟨.newLine, []⟩, ⟨.openBracket, []⟩,
        ⟨.bare "decode".toList, []⟩, ⟨.closeBracket, []⟩, ⟨.newLine, []⟩,
        ⟨.bare "pretty".toList, []⟩, ⟨.equals, [' ']⟩, ⟨.bare "false".toList, [' ']⟩,
        ⟨.newLine, []⟩] := by
    decide +kernel
  rw [Toml.parse?, hscan]
  rfl

theorem parse?_misspeltText : Toml.parse? misspeltText.toList = some misspeltValue := by
  have hscan : Lexeme.scan? misspeltText.toList = some
      [⟨.openBracket, []⟩, ⟨.bare "logging".toList, []⟩, ⟨.dot, []⟩, ⟨.bare "stdout".toList, []⟩,
        ⟨.closeBracket, []⟩, ⟨.newLine, []⟩, ⟨.bare "colours".toList, []⟩, ⟨.equals, [' ']⟩,
        ⟨.bare "true".toList, [' ']⟩, ⟨.newLine, []⟩] := by
    decide +kernel
  rw [Toml.parse?, hscan]
  rfl

theorem hasOnly_partialValue : partialValue.HasOnly kinds := by
  have hstdout : HasOnly Logging.kinds (.table [("style", .string "json")]) :=
    List.forall_mem_singleton.mpr ⟨_, rfl, .json, rfl⟩
  have hdecode : HasOnly Decoding.kinds (.table [("pretty", .bool false)]) :=
    List.forall_mem_singleton.mpr ⟨_, rfl, false, rfl⟩
  exact List.forall_mem_cons.mpr ⟨⟨_, rfl, List.forall_mem_singleton.mpr ⟨_, rfl, hstdout⟩⟩,
    List.forall_mem_singleton.mpr ⟨_, rfl, hdecode⟩⟩

theorem load_override_texts :
    (∃ c, load (fun _ => .ok partialText.toUTF8.data.toList) "partial" = (some c, []) ∧
      c.Follows partialValue) ∧
    load (fun _ => .ok misspeltText.toUTF8.data.toList) "misspelt" = (none, []) := by
  obtain ⟨hfollows, -, -⟩ :=
    load_override (readText_toUTF8 partialText "partial") parse?_partialText
  obtain ⟨-, hunknown, -⟩ :=
    load_override (readText_toUTF8 misspeltText "misspelt") parse?_misspeltText
  refine ⟨hfollows hasOnly_partialValue, ?_⟩
  exact hunknown ["logging", "stdout"]
    ["enabled", "style", "colors", "show_thread_id", "show_source"] (by decide)
    [("colours", .bool true)] rfl ("colours", .bool true) (List.mem_singleton.mpr rfl) (by decide)

end Config

end TlvCodec.Tool
