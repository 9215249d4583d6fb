import TlvCodec.Log.Directive

namespace TlvCodec.Log

structure Filter where
  directives : List Directive
deriving DecidableEq, Repr

def Level.passes (level : Level) : Option Level → Bool
  | none => false
  | some least => least.rank ≤ level.rank

namespace Filter

/-- Of directives about the same, only the last one given holds. -/
def latest (f : Filter) : List Directive :=
  f.directives.foldl
    (fun ds d => ds.filter (fun e => { e with level := d.level } ≠ d) ++ [d]) []

/-- The most specific directive about records by themselves, of two the later one. -/
def mostSpecific? (ds : List Directive) : Option Directive :=
  ds.foldl (fun best d => if best.all d.outranks then some d else best) none

def forRecord? (f : Filter) (r : Record) : Option Directive :=
  mostSpecific? (f.latest.filter fun d => d.isUnscoped && d.hasTarget r && d.hasField r)

def forSpan? (f : Filter) (r : Record) : Option Directive :=
  mostSpecific? (f.latest.filter fun d => d.isUnscoped && d.hasTarget r)

def passesSpan (f : Filter) (r : Record) : Bool :=
  f.latest.any fun d => d.concernsSpan r && r.level.passes d.level

/-- A record passes by itself or by the span it is noted in. -/
def passes (f : Filter) (r : Record) : Bool :=
  (f.forRecord? r).any (r.level.passes ·.level) || f.passesSpan r

/-- A span is kept whenever a directive is about it, whatever that lets through. -/
def keepsSpan (f : Filter) (r : Record) : Bool :=
  f.latest.any (·.concernsSpan r) || (f.forSpan? r).any (r.level.passes ·.level)

def admit? (f : Filter) (r : Record) : Option Record :=
  if f.passes r then some (if f.keepsSpan r then r else { r with span := none }) else none

structure Reading where
  directives : List Directive := []
  remarks : List String := []
  stopped : Bool := false

def Reading.add (s : Reading) (clause : String) : Reading :=
  if s.stopped then s
  else match Directive.parse clause with
    | .ok d => { s with directives := d :: s.directives }
    | .error .uncut => { s with stopped := true }
    | .error e => { s with remarks := ("ignoring `" ++ clause ++ "`: " ++ e.message) :: s.remarks }

/-- Without any directive warnings and errors pass. -/
def ofDirectives (ds : List Directive) : Filter :=
  ⟨if ds.isEmpty then [⟨none, none, none, some .warn⟩] else ds⟩

/-- Reads clauses with commas between them. The lines are remarks on faulty ones. -/
def read (s : String) : Option Filter × List String :=
  let reading := ((s.splitOn ",").filter fun c => !c.isEmpty).foldl Reading.add {}
  (if reading.stopped then none else some (ofDirectives reading.directives.reverse),
    reading.remarks.reverse)

end Filter

end TlvCodec.Log
