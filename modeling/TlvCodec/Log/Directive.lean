import TlvCodec.Log.Pattern
import TlvCodec.Log.Record

namespace TlvCodec.Log

structure FieldTest where
  name : String
  value : Option String
deriving DecidableEq, Repr

/-- Which records a clause speaks of, and the least serious level it passes. -/
structure Directive where
  target : Option String
  span : Option String
  field : Option FieldTest
  level : Option Level
deriving DecidableEq, Repr

inductive ClauseError where
  | malformed
  | unknownLevel
  | badValue
  | uncut
deriving DecidableEq, Repr

def ClauseError.message : ClauseError → String
  | malformed => "invalid filter directive"
  | unknownLevel =>
    "error parsing level filter: expected one of \"off\", \"error\", \"warn\", \"info\", " ++
      "\"debug\", \"trace\", or a number 0-5"
  | badValue => "invalid field filter: error parsing regex"
  | uncut => "byte index is not a char boundary"

def natural? (s : List Char) : Option Nat :=
  let digits := match s with
    | '+' :: s => s
    | s => s
  if digits.isEmpty then none
  else (digits.mapM decimalValue?).map (·.foldl (fun n d => n * 10 + d) 0)

/-- A level by number, from zero to five, or by name in any case. -/
def Level.parse? (s : String) : Option (Option Level) :=
  match natural? s.toList, s.toLower with
  | some 0, _ | _, "off" => some none
  | some 1, _ | _, "error" => some (some .error)
  | some 2, _ | _, "warn" => some (some .warn)
  | some 3, _ | _, "info" => some (some .info)
  | some 4, _ | _, "debug" => some (some .debug)
  | some 5, _ | _, "trace" => some (some .trace)
  | _, _ => none

namespace Directive

/-- Where in a clause the reader is, with the offsets of its parts. -/
inductive Stage where
  | start
  | targetOrLevel (first : Nat)
  | span (first : Nat)
  | field (first : Nat)
  | fieldEnd
  | spanEnd
  | level (first : Nat)

def cut (text : ByteArray) (first last : Nat) : Except ClauseError String :=
  let isBoundary (i : Nat) : Bool :=
    match text[i]? with
    | some b => b < 0x80 || 0xc0 ≤ b
    | none => true
  if isBoundary first ∧ isBoundary last then
    match String.fromUTF8? (text.extract first last) with
    | some s => .ok s
    | none => .error .uncut
  else .error .uncut

def parseField (text : String) : Except ClauseError FieldTest :=
  match text.splitOn "=" with
  | [] | [""] => .error .malformed
  | [name] => .ok ⟨name, none⟩
  | name :: value :: _ =>
    if Pattern.isValue value.toList then .ok ⟨name, some value⟩ else .error .badValue

def parseLevel (text : String) : Except ClauseError (Option Level) :=
  if text.isEmpty then .ok (some .trace)
  else match Level.parse? text with
    | some level => .ok level
    | none => .error .unknownLevel

def step (text : ByteArray) (offset : Nat) (c : Char) :
    Stage × Directive → Except ClauseError (Stage × Directive)
  | (.start, d) =>
    if c = '[' then .ok (.span (offset + 1), d)
    else if c = '-' ∨ c = ':' ∨ c = '_' ∨ isLetterOrNumber c then
      .ok (.targetOrLevel offset, d)
    else .error .malformed
  | (.targetOrLevel first, d) =>
    if c = '=' then do
      return (.level (offset + 1), { d with target := some (← cut text first offset) })
    else if c = '[' then do
      return (.span (offset + 1), { d with target := some (← cut text first offset) })
    else .ok (.targetOrLevel first, d)
  | (.span first, d) =>
    if c = ']' then do
      return (.spanEnd, { d with span := some (← cut text first offset) })
    else if c.toNat = 123 then do
      let name ← cut text first offset
      return (.field (offset + 1), { d with span := if name.isEmpty then none else some name })
    else .ok (.span first, d)
  | (.field first, d) =>
    if c.toNat = 125 then do
      let field ← parseField (← cut text first offset)
      return (.fieldEnd, { d with field := some field })
    else .ok (.field first, d)
  | (.fieldEnd, d) => if c = ']' then .ok (.spanEnd, d) else .error .malformed
  | (.spanEnd, d) => if c = '=' then .ok (.level (offset + 1), d) else .error .malformed
  | (.level first, d) => .ok (.level first, d)

def steps (text : ByteArray) (offset : Nat) (s : Stage × Directive) :
    List Char → Except ClauseError (Stage × Directive)
  | [] => .ok s
  | c :: cs => do steps text (offset + c.utf8Size) (← step text offset c s) cs

/-- A clause of one word is a level or else a target. -/
def finish (text : ByteArray) : Stage × Directive → Except ClauseError Directive
  | (.targetOrLevel first, d) => do
    let word ← cut text first text.size
    match Level.parse? word with
    | some level => return { d with level := level }
    | none => return { d with target := some word }
  | (.level first, d) => do return { d with level := ← parseLevel (← cut text first text.size) }
  | (.spanEnd, d) => .ok d
  | _ => .error .malformed

def trim (s : List Char) : List Char :=
  ((s.dropWhile isWhiteSpace).reverse.dropWhile isWhiteSpace).reverse

/-- Reads a clause such as `target[span]=level`, with white space around it passed over. -/
def parse (clause : String) : Except ClauseError Directive := do
  let text := clause.toUTF8
  finish text (← steps text 0 (.start, ⟨none, none, none, some .trace⟩) (trim clause.toList))

def hasTarget (d : Directive) (r : Record) : Bool :=
  match d.target with
  | none => true
  | some t => t.toList.isPrefixOf r.target.toList

/-- A directive about a span passes what is noted in it, unless it asks for a field. -/
def concernsSpan (d : Directive) (r : Record) : Bool :=
  d.field.isNone && d.span.isSome && d.span = r.span && d.hasTarget r

def isUnscoped (d : Directive) : Bool :=
  d.span.isNone && d.field.all (·.value.isNone)

def hasField (d : Directive) (r : Record) : Bool :=
  match d.field with
  | none => true
  | some f => r.fieldNames.contains f.name

/-- The longer target outranks, then asking for a field, then the order of names. -/
def outranks (d e : Directive) : Bool :=
  let size (d : Directive) : Nat := d.target.elim 0 (·.utf8ByteSize + 1)
  if size d ≠ size e then size e < size d
  else match d.field, e.field with
    | _, none => true
    | none, some _ => false
    | some f, some g => g.name ≤ f.name

end Directive

end TlvCodec.Log
