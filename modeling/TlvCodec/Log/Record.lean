import TlvCodec.Text

namespace TlvCodec

namespace Log

inductive Level where
  | trace
  | debug
  | info
  | warn
  | error
deriving DecidableEq, Repr

namespace Level

def name : Level → String
  | trace => "TRACE"
  | debug => "DEBUG"
  | info => "INFO"
  | warn => "WARN"
  | error => "ERROR"

def rank : Level → Nat
  | trace => 0
  | debug => 1
  | info => 2
  | warn => 3
  | error => 4

end Level

/-- An event as a log shows it, noted by a `target` within a `span`. -/
structure Record where
  level : Level
  target : String
  span : Option String
  message : String
  fields : List (String × String)
deriving DecidableEq, Repr

def Record.fieldNames (r : Record) : List String := "message" :: r.fields.map (·.1)

end Log

end TlvCodec

namespace TlvCodec.Log

def padded (width n : Nat) : String :=
  let ds := digits 10 n
  String.ofList (List.replicate (width - ds.length) '0' ++ ds)

/-- The date of a day since 1970, computed with years that begin in March. -/
def civilDate (day : Nat) : Nat × Nat × Nat :=
  let shifted := day + 719468
  let era := shifted / 146097
  let dayOfEra := shifted % 146097
  let yearOfEra := (dayOfEra - dayOfEra / 1460 + dayOfEra / 36524 - dayOfEra / 146096) / 365
  let dayOfYear := dayOfEra - (365 * yearOfEra + yearOfEra / 4 - yearOfEra / 100)
  let monthFromMarch := (5 * dayOfYear + 2) / 153
  let dayOfMonth := dayOfYear - (153 * monthFromMarch + 2) / 5 + 1
  let month := if monthFromMarch < 10 then monthFromMarch + 3 else monthFromMarch - 9
  let year := yearOfEra + era * 400 + (if month ≤ 2 then 1 else 0)
  (year, month, dayOfMonth)

/-- Microseconds since the start of 1970, as date and time in UTC. -/
def timeText (micros : Nat) : String :=
  let seconds := micros / 1000000
  let (year, month, day) := civilDate (seconds / 86400)
  let ofDay := seconds % 86400
  padded 4 year ++ "-" ++ padded 2 month ++ "-" ++ padded 2 day ++ "T" ++
    padded 2 (ofDay / 3600) ++ ":" ++ padded 2 (ofDay / 60 % 60) ++ ":" ++
    padded 2 (ofDay % 60) ++ "." ++ padded 6 (micros % 1000000) ++ "Z"

end TlvCodec.Log
