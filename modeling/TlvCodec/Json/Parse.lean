import TlvCodec.Json.Basic

namespace TlvCodec.Json

inductive Token where
  | openArray
  | closeArray
  | openObject
  | closeObject
  | comma
  | colon
  | null
  | bool (b : Bool)
  | number (n : Number)
  | string (s : String)

/-- The digits of a number that 64 bits hold, with their power of ten. -/
structure Kept where
  significand : Nat
  exponent : Int

namespace Kept

/-- From the first digit that does not fit on, digits only raise the exponent. -/
def whole (full : Bool) (k : Kept) : List Nat → Kept × Bool
  | [] => (k, full)
  | d :: ds =>
    let next := k.significand * 10 + d
    if full ∨ UInt64.size ≤ next then whole true ⟨k.significand, k.exponent + 1⟩ ds
    else whole false ⟨next, k.exponent⟩ ds

def fraction (k : Kept) : List Nat → Kept
  | [] => k
  | d :: ds =>
    let next := k.significand * 10 + d
    if UInt64.size ≤ next then k else fraction ⟨next, k.exponent - 1⟩ ds

end Kept

def takeDigits : List Char → List Nat × List Char
  | [] => ([], [])
  | c :: cs =>
    match decimalValue? c with
    | some d => let (ds, rest) := takeDigits cs; (d :: ds, rest)
    | none => ([], c :: cs)

def exponent? (text : List Char) : Option Int :=
  let (negative, text) := match text with
    | '-' :: rest => (true, rest)
    | '+' :: rest => (false, rest)
    | _ => (false, text)
  match takeDigits text with
  | (d :: ds, []) =>
    let n := Int.ofNat ((d :: ds).foldl (fun n d => n * 10 + d) 0)
    some (if negative then -n else n)
  | _ => none

/-- An integer of 64 bits, signed below zero, or else a double. -/
def Number.ofWhole? (negative full : Bool) (k : Kept) : Option Number :=
  if full ∨ (negative ∧ (k.significand = 0 ∨ UInt64.size / 2 < k.significand)) then
    (Double.ofDecimal? negative k.significand k.exponent).map .double
  else some (.int (if negative then -k.significand else k.significand))

/-- Numbers out of the range of doubles are refused. -/
def Number.parse? (text : List Char) : Option Number :=
  let (negative, text) := match text with
    | '-' :: rest => (true, rest)
    | _ => (false, text)
  let (ds, rest) := takeDigits text
  if ds.isEmpty ∨ (ds.head? = some 0 ∧ ds.length ≠ 1) then none else
  let (k, full) := Kept.whole false ⟨0, 0⟩ ds
  let scaled (k : Kept) (e : Int) :=
    (Double.ofDecimal? negative k.significand (k.exponent + e)).map Number.double
  match rest with
  | [] => Number.ofWhole? negative full k
  | '.' :: rest =>
    let (fs, rest) := takeDigits rest
    if fs.isEmpty then none else
    let k := k.fraction fs
    match rest with
    | [] => scaled k 0
    | c :: rest => if c = 'e' ∨ c = 'E' then (exponent? rest).bind (scaled k) else none
  | c :: rest => if c = 'e' ∨ c = 'E' then (exponent? rest).bind (scaled k) else none

namespace Token

/-- What the scanner is in the midst of; characters gathered stand last first. -/
inductive Mode where
  | blank
  | text (seen : List Char)
  | escape (seen : List Char)
  | unit (seen : List Char) (high : Option Nat) (count value : Nat)
  | pairSlash (seen : List Char) (high : Nat)
  | pairUnit (seen : List Char) (high : Nat)
  | number (seen : List Char)
  | word (seen : List Char)

structure Scan where
  mode : Mode
  found : List Token

def isBlank (c : Char) : Bool := c = ' ' || c = '\n' || c = '\r' || c = '\t'

def finish? : Scan → Option Scan
  | ⟨.number seen, found⟩ => do return ⟨.blank, .number (← Number.parse? seen.reverse) :: found⟩
  | ⟨.word seen, found⟩ =>
    match String.ofList seen.reverse with
    | "null" => some ⟨.blank, .null :: found⟩
    | "true" => some ⟨.blank, .bool true :: found⟩
    | "false" => some ⟨.blank, .bool false :: found⟩
    | _ => none
  | s => some s

def start? (found : List Token) (c : Char) : Option Scan :=
  if isBlank c then some ⟨.blank, found⟩
  else if c = '[' then some ⟨.blank, .openArray :: found⟩
  else if c = ']' then some ⟨.blank, .closeArray :: found⟩
  else if c.toNat = 123 then some ⟨.blank, .openObject :: found⟩
  else if c.toNat = 125 then some ⟨.blank, .closeObject :: found⟩
  else if c = ',' then some ⟨.blank, .comma :: found⟩
  else if c = ':' then some ⟨.blank, .colon :: found⟩
  else if c = '"' then some ⟨.text [], found⟩
  else if c = '-' ∨ c.isDigit then some ⟨.number [c], found⟩
  else if c.isLower then some ⟨.word [c], found⟩
  else none

def escaped? (c : Char) : Option Char :=
  match c with
  | '"' => some '"'
  | '\\' => some '\\'
  | '/' => some '/'
  | 'b' => some (Char.ofNat 8)
  | 'f' => some (Char.ofNat 12)
  | 'n' => some '\n'
  | 'r' => some '\r'
  | 't' => some '\t'
  | _ => none

def unit? (seen : List Char) (high : Option Nat) (value : Nat) : Option Mode :=
  match high with
  | none =>
    if 0xd800 ≤ value ∧ value < 0xdc00 then some (.pairSlash seen value)
    else if 0xdc00 ≤ value ∧ value < 0xe000 then none
    else some (.text (Char.ofNat value :: seen))
  | some h =>
    if 0xdc00 ≤ value ∧ value < 0xe000 then
      some (.text (Char.ofNat (0x10000 + (h - 0xd800) * 0x400 + (value - 0xdc00)) :: seen))
    else none

def isNumberChar (c : Char) : Bool :=
  c.isDigit || c = '-' || c = '+' || c = '.' || c = 'e' || c = 'E'

def step? (s : Scan) (c : Char) : Option Scan :=
  match s.mode with
  | .blank => start? s.found c
  | .text seen =>
    if c = '"' then some ⟨.blank, .string (String.ofList seen.reverse) :: s.found⟩
    else if c = '\\' then some ⟨.escape seen, s.found⟩
    else if c.toNat < 32 then none
    else some ⟨.text (c :: seen), s.found⟩
  | .escape seen =>
    if c = 'u' then some ⟨.unit seen none 4 0, s.found⟩
    else (escaped? c).map fun x => ⟨.text (x :: seen), s.found⟩
  | .unit seen high count value => do
    let value := value * 16 + (← hexValue? c)
    if count ≤ 1 then return ⟨← unit? seen high value, s.found⟩
    else return ⟨.unit seen high (count - 1) value, s.found⟩
  | .pairSlash seen high => if c = '\\' then some ⟨.pairUnit seen high, s.found⟩ else none
  | .pairUnit seen high => if c = 'u' then some ⟨.unit seen (some high) 4 0, s.found⟩ else none
  | .number seen =>
    if isNumberChar c then some ⟨.number (c :: seen), s.found⟩
    else (finish? s).bind fun s => start? s.found c
  | .word seen =>
    if c.isLower then some ⟨.word (c :: seen), s.found⟩
    else (finish? s).bind fun s => start? s.found c

def scan? (text : List Char) : Option (List Token) := do
  let s ← finish? (← text.foldlM step? ⟨.blank, []⟩)
  match s.mode with
  | .blank => some s.found.reverse
  | _ => none

end Token

/-- A container that is still open; its contents stand last first. -/
inductive Frame where
  | array (done : List Json)
  | object (done : List (String × Json)) (key : String)

/-- What is to come next, inside the open containers, innermost first. -/
inductive Builder where
  | value (stack : List Frame)
  | firstItem (stack : List Frame)
  | key (stack : List Frame) (done : List (String × Json)) (first : Bool)
  | colon (stack : List Frame) (done : List (String × Json)) (key : String)
  | after (stack : List Frame) (v : Json)

namespace Builder

/-- A later field of the same name replaces an earlier one. -/
def addField (done : List (String × Json)) (key : String) (v : Json) : List (String × Json) :=
  (key, v) :: (if done.any (·.1 == key) then done.filter (·.1 != key) else done)

def value? (stack : List Frame) : Token → Option Builder
  | .null => some (.after stack .null)
  | .bool b => some (.after stack (.bool b))
  | .number n => some (.after stack (.number n))
  | .string s => some (.after stack (.string s))
  | .openArray => some (.firstItem (.array [] :: stack))
  | .openObject => some (.key stack [] true)
  | _ => none

def step? : Builder → Token → Option Builder
  | .value stack, t => value? stack t
  | .firstItem (.array [] :: stack), .closeArray => some (.after stack (.array []))
  | .firstItem stack, t => value? stack t
  | .key stack done _, .string k => some (.colon stack done k)
  | .key stack _ true, .closeObject => some (.after stack (.object []))
  | .colon stack done k, .colon => some (.value (.object done k :: stack))
  | .after (.array done :: stack) v, .comma => some (.value (.array (v :: done) :: stack))
  | .after (.array done :: stack) v, .closeArray =>
    some (.after stack (.array (v :: done).reverse))
  | .after (.object done k :: stack) v, .comma => some (.key stack (addField done k v) false)
  | .after (.object done k :: stack) v, .closeObject =>
    some (.after stack (.object (addField done k v).reverse))
  | _, _ => none

end Builder

/-- Reads a text that holds one value and nothing else. -/
def parse? (text : String) : Option Json := do
  match ← (← Token.scan? text.toList).foldlM Builder.step? (.value []) with
  | .after [] v => some v
  | _ => none

end TlvCodec.Json
