import TlvCodec.Proofs.Bytes.Hex
import TlvCodec.Proofs.Dhcp6.Json
import TlvCodec.Proofs.Dhcp6.RoundTrip
import TlvCodec.Proofs.Json.Parse
import TlvCodec.Tool.Decode

namespace TlvCodec.Tool
set_option autoImplicit true

section Input
open Hex

variable {files : Files} {path : String} {content data : Bytes}

/-- The octets that may stand anywhere between digits. -/
def blanks : Bytes := [0x20, 0x09, 0x0a, 0x0c, 0x0d]

def withoutBlanks (content : Bytes) : Bytes := content.filter fun b => b ∉ blanks

/-- The numbers as digits of either case, with blanks at any place. -/
inductive Shows : Bytes → List Nat → Prop where
  | nil : Shows [] []
  | blank {content : Bytes} {ds : List Nat} (b : UInt8) (hb : b ∈ blanks)
    (h : Shows content ds) : Shows (b :: content) ds
  | digit {content : Bytes} {ds : List Nat} (upper : Bool) (d : Nat) (h : Shows content ds) :
    Shows (digitOctet upper d :: content) (d :: ds)

theorem not_mem_blanks (h : IsDigit b) : b ∉ blanks := by
  have hnone : ∀ b ∈ blanks, ¬IsDigit b := by
    simp only [blanks, List.forall_mem_cons, List.not_mem_nil, false_implies, implies_true]
    decide
  exact fun hb => hnone b hb h

theorem withoutBlanks_cons_of_mem (h : b ∈ blanks) (content : Bytes) :
    withoutBlanks (b :: content) = withoutBlanks content :=
  List.filter_cons_of_neg (by simpa using h)

theorem withoutBlanks_cons_of_not_mem (h : b ∉ blanks) (content : Bytes) :
    withoutBlanks (b :: content) = b :: withoutBlanks content :=
  List.filter_cons_of_pos (by simpa using h)

theorem isBlank_eq (b : UInt8) : isBlank b = decide (b ∈ blanks) := by
  simp [isBlank, blanks, Bool.or_assoc]

theorem decode_hex (content : Bytes) :
    InputFormat.hex.decode content = Hex.decode (withoutBlanks content) := by
  simp only [InputFormat.decode, isBlank_eq, withoutBlanks, decide_not]

theorem Shows.digits (h : Shows content ds) (hds : ∀ d ∈ ds, d < 16) :
    (∀ b ∈ withoutBlanks content, IsDigit b) ∧ (withoutBlanks content).map digitValue = ds := by
  induction h with
  | nil => exact ⟨nofun, rfl⟩
  | blank b hb h ih =>
    rw [withoutBlanks_cons_of_mem hb]
    exact ih hds
  | digit upper d h ih =>
    rw [List.forall_mem_cons] at hds
    obtain ⟨hdigits, hvalues⟩ := ih hds.2
    have hd := isDigit_digitOctet upper d hds.1
    rw [withoutBlanks_cons_of_not_mem (not_mem_blanks hd), List.forall_mem_cons, List.map_cons,
      hvalues, digitValue_digitOctet upper d hds.1]
    exact ⟨⟨hd, hdigits⟩, rfl⟩

/-- Octets are read back from any text that shows their halves. -/
theorem Shows.decode (h : Shows content (halves data)) :
    Hex.decode (withoutBlanks content) = .ok data := by
  obtain ⟨hdigits, hvalues⟩ := h.digits (halves_lt data)
  have hlength : (withoutBlanks content).length = 2 * data.length := by
    rw [← List.length_map digitValue, hvalues, length_halves]
  rw [decode_of_isDigit (by omega) hdigits, hvalues, ofHalves_halves]

theorem readInput_hex (h : files path = .ok content) :
    readInput files path .hex = (Hex.decode (withoutBlanks content)).mapError .inputHex := by
  simp only [readInput, h, decode_hex]
  cases Hex.decode (withoutBlanks content) with
  | error e => rfl
  | ok data => rfl

theorem readInput_binary (h : files path = .ok content) :
    readInput files path .binary = .ok content := by
  simp only [readInput, h, InputFormat.decode]

theorem readInput_hex_eq_ok_iff (h : files path = .ok content) :
    readInput files path .hex = .ok data ↔ Hex.decode (withoutBlanks content) = .ok data := by
  rw [readInput_hex h]
  cases Hex.decode (withoutBlanks content) with
  | error e => exact iff_of_false nofun nofun
  | ok bs =>
    change (Except.ok bs : Except Error Bytes) = .ok data ↔ _
    rw [Except.ok.injEq, Except.ok.injEq]

theorem readInput_hex_eq_error_iff (h : files path = .ok content) :
    readInput files path .hex = .error (.inputHex e) ↔
      Hex.decode (withoutBlanks content) = .error e := by
  rw [readInput_hex h]
  cases Hex.decode (withoutBlanks content) with
  | error e' =>
    change Except.error (Error.inputHex e') = .error (.inputHex e) ↔ _
    rw [Except.error.injEq, Except.error.injEq, Error.inputHex.injEq]
  | ok bs => exact iff_of_false nofun nofun

/-- A hexadecimal file is read exactly if, without blanks, it is pairs of digits. -/
theorem hex_input_law (h : files path = .ok content) :
    ((∃ data, readInput files path .hex = .ok data) ↔
      (withoutBlanks content).length % 2 = 0 ∧ ∀ b ∈ withoutBlanks content, IsDigit b) ∧
    (∀ data, readInput files path .hex = .ok data →
      data.length = (withoutBlanks content).length / 2 ∧
        ∀ i < data.length, (data.getD i 0).toNat =
          16 * digitValue ((withoutBlanks content).getD (2 * i) 0) +
            digitValue ((withoutBlanks content).getD (2 * i + 1) 0)) ∧
    ((withoutBlanks content).length % 2 = 1 →
      readInput files path .hex = .error (.inputHex .oddLength)) ∧
    ((withoutBlanks content).length % 2 = 0 → (∃ b ∈ withoutBlanks content, ¬IsDigit b) →
      ∃ front c back, withoutBlanks content = front ++ c :: back ∧ (∀ b ∈ front, IsDigit b) ∧
        ¬IsDigit c ∧
        readInput files path .hex = .error (.inputHex (.invalidCharacter c front.length))) ∧
    ∀ data, Shows content (halves data) →
      readInput files path .hex = .ok data ∧
        ∀ (binary : Files) (file : String), binary file = .ok data →
          readInput binary file .binary = readInput files path .hex := by
  refine ⟨?_, ?_, ?_, ?_, ?_⟩
  · simp only [readInput_hex_eq_ok_iff h, decode_eq_ok_iff]
    constructor
    · rintro ⟨data, heven, hdigits, -⟩
      exact ⟨heven, hdigits⟩
    · rintro ⟨heven, hdigits⟩
      exact ⟨_, heven, hdigits, rfl⟩
  · intro data hread
    rw [readInput_hex_eq_ok_iff h, decode_eq_ok_iff] at hread
    obtain ⟨-, hdigits, rfl⟩ := hread
    have hvalues : ∀ d ∈ (withoutBlanks content).map digitValue, d < 16 := by
      intro d hd
      obtain ⟨b, hb, rfl⟩ := List.mem_map.mp hd
      exact digitValue_lt (hdigits b hb)
    have hvalue (k : Nat) : ((withoutBlanks content).map digitValue).getD k 0 =
        digitValue ((withoutBlanks content).getD k 0) := List.getD_map _ 0 digitValue
    refine ⟨by rw [length_ofHalves, List.length_map], ?_⟩
    intro i hi
    rw [toNat_getD_ofHalves hvalues hi, hvalue, hvalue]
  · intro hodd
    rw [readInput_hex_eq_error_iff h, decode_of_odd hodd]
  · rintro heven ⟨b, hb, hnone⟩
    rcases isDigit_or_exists (withoutBlanks content) with hdigits | ⟨front, c, back, he, hfront, hc⟩
    · exact absurd (hdigits b hb) hnone
    · refine ⟨front, c, back, he, hfront, hc, ?_⟩
      rw [he] at heven
      rw [readInput_hex_eq_error_iff h, he, decode_of_not_isDigit heven hfront hc]
  · intro data hshows
    have hread := (readInput_hex_eq_ok_iff h).mpr hshows.decode
    refine ⟨hread, ?_⟩
    intro binary file hbinary
    rw [hread, readInput_binary hbinary]

def Files.only (content : Bytes) : Files := fun _ => .ok content

/-- Two octets with blanks, three digits, and a character that is no blank. -/
theorem hex_input_law_blanks :
    readInput (.only [0x20, 0x34, 0x09, 0x42, 0x30, 0x0a, 0x66]) "capture" .hex =
        .ok [0x4b, 0x0f] ∧
      readInput (.only [0x4b, 0x0f]) "octets" .binary = .ok [0x4b, 0x0f] ∧
      readInput (.only [0x31, 0x32, 0x0d, 0x33]) "capture" .hex =
        .error (.inputHex .oddLength) ∧
      (∃ data, readInput (.only [0x31, 0x20, 0x46]) "capture" .hex = .ok data ∧
        data.length = 1) ∧
      ∃ front c back, ([0x31, 0x0b] : Bytes) = front ++ c :: back ∧
        (∀ b ∈ front, IsDigit b) ∧ ¬IsDigit c ∧
        readInput (.only [0x31, 0x20, 0x0b]) "capture" .hex =
          .error (.inputHex (.invalidCharacter c front.length)) := by
  have hfile (content : Bytes) : Files.only content "capture" = .ok content := rfl
  have hshows : Shows [0x20, 0x34, 0x09, 0x42, 0x30, 0x0a, 0x66] (halves [0x4b, 0x0f]) :=
    .blank 0x20 (by decide) <| .digit false 4 <| .blank 0x09 (by decide) <| .digit true 11 <|
      .digit false 0 <| .blank 0x0a (by decide) <| .digit false 15 .nil
  obtain ⟨-, -, -, -, hread⟩ := hex_input_law (hfile [0x20, 0x34, 0x09, 0x42, 0x30, 0x0a, 0x66])
  obtain ⟨hhex, hbinary⟩ := hread [0x4b, 0x0f] hshows
  obtain ⟨-, -, hodd, -, -⟩ := hex_input_law (hfile [0x31, 0x32, 0x0d, 0x33])
  obtain ⟨haccepted, hlength, -, -, -⟩ := hex_input_law (hfile [0x31, 0x20, 0x46])
  have hdigits : ∀ b ∈ withoutBlanks [0x31, 0x20, 0x46], IsDigit b :=
    List.forall_mem_cons.mpr ⟨by decide, List.forall_mem_singleton.mpr (by decide)⟩
  obtain ⟨data, hdata⟩ := haccepted.mpr ⟨by decide, hdigits⟩
  obtain ⟨-, -, -, hinvalid, -⟩ := hex_input_law (hfile [0x31, 0x20, 0x0b])
  exact ⟨hhex, (hbinary (.only [0x4b, 0x0f]) "octets" rfl).trans hhex, hodd (by decide),
    ⟨data, hdata, (hlength data hdata).1⟩, hinvalid (by decide) ⟨0x0b, by decide, by decide⟩⟩

end Input

section Output
open Dhcp6

theorem parse?_render {v : Json} (h : v.Exact) (pretty : Bool) :
    Json.parse? (render pretty v) = some v.canonical := by
  cases pretty with
  | true => exact Json.parse?_write h.canonical (some 0)
  | false => exact Json.parse?_write h.canonical none

theorem decode_dhcp6_eq_ok_iff {data : Bytes} {pretty : Bool} {text : String} :
    (decode .dhcp6 data pretty).1 = .ok text ↔
      ∃ m, Message.decode data = .ok m ∧ text = render pretty m.toJson := by
  unfold decode Protocol.decode Message.decode
  rcases Message.read data with ⟨e | m, events⟩
  · simp [Except.map]
  · simp [Except.map, eq_comm]

/-- A message is read back from its value, and from the text the tool writes. -/
theorem dhcp6_text_lossless :
    (∀ m : Message, Message.ofJson? m.toJson = some m ∧
        Message.ofJson? m.toJson.canonical = some m) ∧
      ∀ (data : Bytes) (pretty : Bool) (text : String),
        (decode .dhcp6 data pretty).1 = .ok text →
          ∃ m, (Json.parse? text).bind Message.ofJson? = some m ∧ m.encode = data := by
  have hsorted (m : Message) : Message.ofJson? m.toJson.canonical = some m :=
    Message.ofJson?_of_rearranged m.exact_toJson.rearranged
  refine ⟨fun m => ⟨Message.ofJson?_of_rearranged (.same m.toJson), hsorted m⟩, ?_⟩
  intro data pretty text h
  obtain ⟨m, hm, rfl⟩ := decode_dhcp6_eq_ok_iff.mp h
  obtain ⟨-, rfl⟩ := Message.decode_eq_ok_iff.mp hm
  refine ⟨m, ?_, m.encode_eq_wire⟩
  rw [parse?_render m.exact_toJson, Option.bind_some, hsorted]

theorem dhcp6_text_lossless_relayedSolicit :
    (decode .dhcp6 Message.relayedSolicitData true).1 =
        .ok (render true Message.relayedSolicit.toJson) ∧
      ∃ m, (Json.parse? (render true Message.relayedSolicit.toJson)).bind Message.ofJson? = some m ∧
        m.encode = Message.relayedSolicitData := by
  have hdecode : Message.decode Message.relayedSolicitData = .ok Message.relayedSolicit := by
    decide +kernel
  have h : (decode .dhcp6 Message.relayedSolicitData true).1 =
      .ok (render true Message.relayedSolicit.toJson) :=
    decode_dhcp6_eq_ok_iff.mpr ⟨Message.relayedSolicit, hdecode, rfl⟩
  exact ⟨h, dhcp6_text_lossless.2 _ _ _ h⟩

end Output

end TlvCodec.Tool
