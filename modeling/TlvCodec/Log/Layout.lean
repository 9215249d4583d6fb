import TlvCodec.Json.Basic
import TlvCodec.Log.Record

namespace TlvCodec.Log

inductive Style where
  | compact
  | full
  | json
  | pretty
deriving DecidableEq, Repr

namespace Style

def name : Style → String
  | compact => "compact"
  | full => "full"
  | json => "json"
  | pretty => "pretty"

def all : List Style := [compact, full, json, pretty]

def ofName? (s : String) : Option Style := all.find? fun x => x.name = s

end Style

structure Layout where
  style : Style := .full
  colors : Bool := false
  showThread : Bool := false
deriving DecidableEq, Repr

namespace Layout

def paint (l : Layout) (code s : String) : String :=
  if l.colors then "\x1b[" ++ code ++ "m" ++ s ++ "\x1b[0m" else s

def dim (l : Layout) (s : String) : String := l.paint "2" s

def bold (l : Layout) (s : String) : String := l.paint "1" s

def italic (l : Layout) (s : String) : String := l.paint "3" s

def colorOf : Level → String
  | .trace => "35"
  | .debug => "34"
  | .info => "32"
  | .warn => "33"
  | .error => "31"

def levelText (l : Layout) (level : Level) : String :=
  l.paint (colorOf level) ("".pushn ' ' (5 - level.name.length) ++ level.name)

def threadText (l : Layout) : String := if l.showThread then "ThreadId(01) " else ""

def body (l : Layout) (r : Record) : String :=
  r.message ++ String.join
    (r.fields.map fun (name, text) => " " ++ l.italic name ++ l.dim "=" ++ text)

def spanText (l : Layout) (r : Record) : String :=
  match r.span, l.style with
  | none, _ => ""
  | some span, .compact => l.bold span ++ ": "
  | some span, _ => l.bold span ++ l.dim ":" ++ " "

def jsonLine (l : Layout) (time : String) (r : Record) : String :=
  let fields := ("message", Json.string r.message) ::
    r.fields.map fun (name, text) => (name, Json.string text)
  let span := match r.span with
    | none => []
    | some name =>
      let s := Json.object [("name", .string name)]
      [("span", s), ("spans", .array [s])]
  let thread := if l.showThread then [("threadId", Json.string "ThreadId(1)")] else []
  (Json.object ([("timestamp", .string time), ("level", .string r.level.name),
    ("fields", .object fields)] ++ span ++ thread)).compact

def lines (l : Layout) (time : String) (r : Record) : List String :=
  match l.style with
  | .json => [l.jsonLine time r]
  | .pretty =>
    let fields := r.fields.map fun (name, text) => ", " ++ l.bold name ++ ": " ++ text
    let place := match r.span with
      | none => []
      | some span => ["    in " ++ l.bold span]
    ("  " ++ l.dim time ++ " " ++ l.levelText r.level ++ " " ++ l.threadText ++ r.message ++
      String.join fields) :: (place ++ [""])
  | _ =>
    [l.dim time ++ " " ++ l.levelText r.level ++ " " ++ l.threadText ++ l.spanText r ++ l.body r]

end Layout

end TlvCodec.Log
