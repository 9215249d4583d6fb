namespace TlvCodec.Toml

inductive Value where
  | string (s : String)
  | bool (b : Bool)
  /-- A number or a date, unread. -/
  | scalar
  | array (items : List Value)
  | table (entries : List (String × Value))

namespace Value

def bool? : Value → Option Bool
  | bool b => some b
  | _ => none

end Value

/-- How a table came to be, which decides what may be added. -/
inductive Origin where
  | implied
  | dotted
  | header
deriving DecidableEq

inductive Node where
  | leaf (v : Value)
  | table (origin : Origin) (entries : List (String × Node))
  | tables (items : List (List (String × Node)))

namespace Node

def replace (key : String) (n : Node) (entries : List (String × Node)) : List (String × Node) :=
  entries.map fun e => if e.1 = key then (key, n) else e

abbrev Body := Origin × List (String × Node)

/-- Changes the table reached along a path, and makes what is missing on the way. -/
def update? (made : Origin) (edit : Body → Option Body) : List String → Body → Option Body
  | [], body => edit body
  | key :: path, (origin, entries) =>
    match entries.lookup key with
    | none => do
      let (o, inner) ← update? made edit path (made, [])
      return (origin, entries ++ [(key, .table o inner)])
    | some (.table o inner) =>
      if made = .dotted ∧ o = .header then none else do
        let (o, inner) ← update? made edit path (o, inner)
        return (origin, replace key (.table o inner) entries)
    | some (.tables (last :: before)) => do
      let (_, last) ← update? made edit path (.header, last)
      return (origin, replace key (.tables (last :: before)) entries)
    | some _ => none

/-- Adds a value under a dotted key, in a table that only such keys made. -/
def assign? (path : List String) (v : Value) (body : Body) : Option Body := do
  let key ← path.getLast?
  update? .dotted (fun (origin, entries) =>
    if (origin = .dotted) = (path.dropLast = []) then none
    else if (entries.lookup key).isSome then none
    else some (origin, entries ++ [(key, .leaf v)])) path.dropLast body

/-- Makes the table of a header, which may have been implied before. -/
def declare? (path : List String) (body : Body) : Option Body := do
  let key ← path.getLast?
  update? .implied (fun (origin, entries) =>
    match entries.lookup key with
    | none => some (origin, entries ++ [(key, .table .header [])])
    | some (.table .implied inner) => some (origin, replace key (.table .header inner) entries)
    | some _ => none) path.dropLast body

def append? (path : List String) (body : Body) : Option Body := do
  let key ← path.getLast?
  update? .implied (fun (origin, entries) =>
    match entries.lookup key with
    | none => some (origin, entries ++ [(key, .tables [[]])])
    | some (.tables items) => some (origin, replace key (.tables ([] :: items)) entries)
    | some _ => none) path.dropLast body

mutual

def toValue : Node → Value
  | .leaf v => v
  | .table _ entries => .table (toEntries entries)
  | .tables items => .array (toItems items).reverse

def toEntries : List (String × Node) → List (String × Value)
  | [] => []
  | (k, n) :: es => (k, n.toValue) :: toEntries es

def toItems : List (List (String × Node)) → List Value
  | [] => []
  | entries :: items => .table (toEntries entries) :: toItems items

end

end Node

end TlvCodec.Toml
