import TlvCodec.Toml.Scalar
import TlvCodec.Toml.Table
import TlvCodec.Toml.Token

namespace TlvCodec.Toml

inductive Statement where
  | header (path : List String)
  | arrayHeader (path : List String)
  | assign (path : List String) (v : Value)

namespace Statement

def keyName? : Token → Option String
  | .bare text =>
    if text.all fun c => c.isAlphanum || c = '_' || c = '-' then some (String.ofList text) else none
  | .string text false => some (String.ofList text)
  | _ => none

def keys? : List Lexeme → Option (List String × List Lexeme)
  | k :: ⟨.dot, _⟩ :: rest => do
    let name ← keyName? k.token
    let (names, rest) ← keys? rest
    return (name :: names, rest)
  | k :: rest => do return ([← keyName? k.token], rest)
  | [] => none

/-- How deep arrays, inline tables and paths of keys may go. -/
def depthLimit : Nat := 80

def path? (ls : List Lexeme) : Option (List String × List Lexeme) := do
  let (names, rest) ← keys? ls
  if names.length ≤ depthLimit then some (names, rest) else none

def skipLines : List Lexeme → List Lexeme
  | ⟨.newLine, _⟩ :: rest => skipLines rest
  | ls => ls

/-- The text of bare tokens and dots that a list starts with. -/
def takeBare : List Lexeme → List Char × List Lexeme
  | ⟨.bare text, []⟩ :: rest => let (more, rest) := takeBare rest; (text ++ more, rest)
  | ⟨.dot, []⟩ :: rest => let (more, rest) := takeBare rest; ('.' :: more, rest)
  | ls => ([], ls)

def takeText : List Lexeme → List Char × List Lexeme
  | l :: rest => takeBare (⟨l.token, []⟩ :: rest)
  | [] => ([], [])

def bareValue? (text : List Char) : Option Value :=
  if text = "true".toList then some (.bool true)
  else if text = "false".toList then some (.bool false)
  else if Number.isNumber text ∨ Moment.isMoment text then some .scalar
  else none

/-- Only between a date and a time may there be a blank. -/
def scalar? (ls : List Lexeme) : Option (Value × List Lexeme) :=
  let (text, rest) := takeText ls
  match rest with
  | ⟨_, [' ']⟩ :: _ =>
    let (time, after) := takeText rest
    if time.isEmpty then do return (← bareValue? text, rest)
    else if Moment.isMoment (text ++ ' ' :: time) then some (.scalar, after)
    else none
  | _ => do return (← bareValue? text, rest)

def inlineTable? (entries : List (List String × Value)) : Option Value := do
  let (_, body) ← entries.foldlM (fun body (path, v) => Node.assign? path v body)
    ((.header, []) : Node.Body)
  return .table (Node.toEntries body)

mutual

/-- A value with `room` for more levels; `fuel` bounds its values and commas. -/
def value? (fuel room : Nat) (ls : List Lexeme) : Option (Value × List Lexeme) :=
  match fuel with
  | 0 => none
  | fuel + 1 =>
    match ls with
    | ⟨.string text _, _⟩ :: rest => some (.string (String.ofList text), rest)
    | ⟨.openBracket, _⟩ :: rest =>
      if room = 0 then none else items? fuel (room - 1) [] (skipLines rest)
    | ⟨.openBrace, _⟩ :: rest =>
      if room = 0 then none else entries? fuel (room - 1) [] (skipLines rest)
    | _ => scalar? ls

def items? (fuel room : Nat) (done : List Value) (ls : List Lexeme) : Option (Value × List Lexeme) :=
  match fuel with
  | 0 => none
  | fuel + 1 =>
    match ls with
    | ⟨.closeBracket, _⟩ :: rest => some (.array done.reverse, rest)
    | _ => do
      let (v, rest) ← value? fuel room ls
      match skipLines rest with
      | ⟨.comma, _⟩ :: rest => items? fuel room (v :: done) (skipLines rest)
      | ⟨.closeBracket, _⟩ :: rest => some (.array (v :: done).reverse, rest)
      | _ => none

def entries? (fuel room : Nat) (done : List (List String × Value)) (ls : List Lexeme) :
    Option (Value × List Lexeme) :=
  match fuel with
  | 0 => none
  | fuel + 1 =>
    match ls with
    | ⟨.closeBrace, _⟩ :: rest => do return (← inlineTable? done.reverse, rest)
    | _ => do
      let (path, rest) ← path? ls
      match skipLines rest with
      | ⟨.equals, _⟩ :: rest =>
        let (v, rest) ← value? fuel room (skipLines rest)
        match skipLines rest with
        | ⟨.comma, _⟩ :: rest => entries? fuel room ((path, v) :: done) (skipLines rest)
        | ⟨.closeBrace, _⟩ :: rest => return (← inlineTable? ((path, v) :: done).reverse, rest)
        | _ => none
      | _ => none

end

def fuelFor (ls : List Lexeme) : Nat := 2 * ls.length + 2

def parse? (ls : List Lexeme) : Option (Statement × List Lexeme) :=
  match ls with
  | ⟨.openBracket, _⟩ :: ⟨.openBracket, []⟩ :: rest => do
    match ← path? rest with
    | (path, ⟨.closeBracket, _⟩ :: ⟨.closeBracket, []⟩ :: rest) =>
      return (.arrayHeader path, rest)
    | _ => none
  | ⟨.openBracket, _⟩ :: rest => do
    match ← path? rest with
    | (path, ⟨.closeBracket, _⟩ :: rest) => return (.header path, rest)
    | _ => none
  | _ => do
    match ← path? ls with
    | (path, ⟨.equals, _⟩ :: rest) =>
      let (v, rest) ← value? (fuelFor rest) depthLimit rest
      return (.assign path v, rest)
    | _ => none

/-- Every statement takes a token, so that their number is rounds enough. -/
def parseAll? (fuel : Nat) (ls : List Lexeme) : Option (List Statement) :=
  match skipLines ls with
  | [] => some []
  | ls =>
    match fuel with
    | 0 => none
    | fuel + 1 => do
      match ← parse? ls with
      | (s, []) => return [s]
      | (s, ⟨.newLine, _⟩ :: rest) => return s :: (← parseAll? fuel rest)
      | _ => none

end Statement

structure Document where
  root : Node.Body
  current : List String

namespace Document

def empty : Document := ⟨(.header, []), []⟩

def add? (d : Document) : Statement → Option Document
  | .header path => do return ⟨← Node.declare? path d.root, path⟩
  | .arrayHeader path => do return ⟨← Node.append? path d.root, path⟩
  | .assign path v => do
    return ⟨← Node.update? .implied (Node.assign? path v) d.current d.root, d.current⟩

end Document

def parse? (text : List Char) : Option Value := do
  let ls ← Lexeme.scan? text
  let statements ← Statement.parseAll? ls.length ls
  let d ← statements.foldlM Document.add? .empty
  return .table (Node.toEntries d.root.2)

end TlvCodec.Toml
