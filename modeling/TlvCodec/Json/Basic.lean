import TlvCodec.Ieee.Decimal

namespace TlvCodec

namespace Json

inductive Number where
  | int (n : Int)
  | single (x : Single)
  | double (x : Double)
deriving DecidableEq

end Json

/-- A JSON value. Fields stand in the order in which they are written. -/
inductive Json where
  | null
  | bool (b : Bool)
  | number (n : Json.Number)
  | string (s : String)
  | array (items : List Json)
  | object (fields : List (String × Json))

instance : Inhabited Json := ⟨.null⟩

namespace Json

def nat (n : Nat) : Json := .number (.int n)

def octets (bs : List UInt8) : Json := .array (bs.map fun b => nat b.toNat)

def tagged (tag : String) (v : Json) : Json := .object [(tag, v)]

/-- Singles are widened, which changes the digits that they are written with. -/
def Number.widen : Number → Number
  | .single x => .double (.ofSingle x)
  | n => n

mutual

/-- The form the tool shows: fields sorted by name and numbers widened. -/
def canonical : Json → Json
  | .number n => .number n.widen
  | .array items => .array (canonicalItems items)
  | .object fields => .object ((canonicalFields fields).mergeSort fun a b => a.1 ≤ b.1)
  | v => v

def canonicalItems : List Json → List Json
  | [] => []
  | v :: vs => v.canonical :: canonicalItems vs

def canonicalFields : List (String × Json) → List (String × Json)
  | [] => []
  | (k, v) :: fs => (k, v.canonical) :: canonicalFields fs

end

end Json

end TlvCodec

namespace TlvCodec.Json

/-- NaN and the infinities have no JSON number and are written `null`. -/
def Number.text : Number → String
  | .int n => (if n < 0 then "-" else "") ++ decimal n.natAbs
  | .single x => x.text?.getD "null"
  | .double x => x.text?.getD "null"

def escape (c : Char) : List Char :=
  if c = '"' then ['\\', '"']
  else if c = '\\' then ['\\', '\\']
  else if c = '\n' then ['\\', 'n']
  else if c = '\r' then ['\\', 'r']
  else if c = '\t' then ['\\', 't']
  else if c.toNat = 8 then ['\\', 'b']
  else if c.toNat = 12 then ['\\', 'f']
  else if c.toNat < 32 then
    ['\\', 'u', '0', '0', digitChar (c.toNat / 16), digitChar (c.toNat % 16)]
  else [c]

def quote (s : String) : String :=
  (s.foldl (fun out c => (escape c).foldl String.push out) "\"").push '"'

def newLine (depth : Option Nat) (out : String) : String :=
  match depth with
  | none => out
  | some n => (out.push '\n').pushn ' ' (2 * n)

def deeper (depth : Option Nat) : Option Nat := depth.map (· + 1)

mutual

/-- Appends a value to `out`, on one line or indented from a depth on. -/
def write (depth : Option Nat) : Json → String → String
  | .null, out => out ++ "null"
  | .bool b, out => out ++ (if b then "true" else "false")
  | .number n, out => out ++ n.text
  | .string s, out => out ++ quote s
  | .array [], out => out ++ "[]"
  | .array (v :: vs), out =>
    let first := v.write (deeper depth) (newLine (deeper depth) (out.push '['))
    (newLine depth (writeItems (deeper depth) vs first)).push ']'
  | .object [], out => out ++ "\x7b\x7d"
  | .object ((k, v) :: fs), out =>
    let opened := newLine (deeper depth) (out.push (Char.ofNat 123))
    let first := v.write (deeper depth) (writeKey depth k opened)
    (newLine depth (writeFields (deeper depth) fs first)).push (Char.ofNat 125)

def writeItems (depth : Option Nat) : List Json → String → String
  | [], out => out
  | v :: vs, out => writeItems depth vs (v.write depth (newLine depth (out.push ',')))

def writeFields (depth : Option Nat) : List (String × Json) → String → String
  | [], out => out
  | (k, v) :: fs, out =>
    writeFields depth fs (v.write depth (writeKey depth k (newLine depth (out.push ','))))

def writeKey (depth : Option Nat) (k : String) (out : String) : String :=
  out ++ quote k ++ (if depth.isSome then ": " else ":")

end

def compact (v : Json) : String := v.write none ""

def pretty (v : Json) : String := v.write (some 0) ""

end TlvCodec.Json
