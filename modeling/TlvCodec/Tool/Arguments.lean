namespace TlvCodec.Tool

structure Arguments where
  protocol : String
  file : String
  config : Option String
deriving DecidableEq, Repr

namespace Arguments

inductive Opt where
  | protocol
  | config
deriving DecidableEq, Repr

def Opt.text : Opt → String
  | protocol => "--protocol <PROTOCOL>"
  | config => "--config <file>"

inductive Fault where
  | unexpected (argument : String)
  | missing
  | missingValue (o : Opt)
  | repeated (o : Opt)
deriving DecidableEq, Repr

def Fault.message : Fault → String
  | unexpected argument =>
    "error: Found argument '" ++ argument ++
      "' which wasn't expected, or isn't valid in this context"
  | missing => "error: The following required arguments were not provided:"
  | missingValue o =>
    "error: The argument '" ++ o.text ++ "' requires a value but none was supplied"
  | repeated o =>
    "error: The argument '" ++ o.text ++
      "' was provided more than once, but cannot be used multiple times"

/-- What arguments ask for instead of a run. -/
inductive Stop where
  | help
  | version
  | fault (f : Fault)
deriving DecidableEq, Repr

structure Usage where
  count : Nat := 0
  values : List String := []
deriving DecidableEq, Repr

structure Seen where
  protocol : Usage := {}
  config : Usage := {}
  file : Option String := none
  waiting : Option Opt := none
  plain : Bool := false
deriving DecidableEq, Repr

namespace Seen

def usage (s : Seen) : Opt → Usage
  | .protocol => s.protocol
  | .config => s.config

def withUsage (s : Seen) (o : Opt) (u : Usage) : Seen :=
  match o with
  | .protocol => { s with protocol := u }
  | .config => { s with config := u }

def addValue (s : Seen) (o : Opt) (value : String) : Seen :=
  let u := s.usage o
  { s.withUsage o { u with values := value :: u.values } with waiting := none }

/-- Leading equals signs are no part of a value. -/
def addOption (s : Seen) (o : Opt) (value : Option (List Char)) : Seen :=
  let u := s.usage o
  let s := s.withUsage o { u with count := u.count + 1 }
  match value with
  | some v => s.addValue o (String.ofList (v.dropWhile (· = '=')))
  | none => { s with waiting := some o }

def addFile (s : Seen) (argument : String) : Except Stop Seen :=
  match s.file with
  | none => .ok { s with file := some argument }
  | some _ => .error (.fault (.unexpected argument))

def addLong (s : Seen) (argument : String) : Except Stop Seen :=
  let text := argument.toList.dropWhile (· = '-')
  let name := text.takeWhile (· ≠ '=')
  let value := if text.contains '=' then some (text.drop (name.length + 1)) else none
  match String.ofList name with
  | "protocol" => .ok (s.addOption .protocol value)
  | "config" => .ok (s.addOption .config value)
  | "help" => .error .help
  | "version" => .error .version
  | name => .error (.fault (.unexpected ("--" ++ name)))

def addShort (s : Seen) (argument : String) : Except Stop Seen :=
  match argument.toList.drop 1 with
  | [] => .ok s
  | 'c' :: rest => .ok (s.addOption .config (if rest.isEmpty then none else some rest))
  | 'h' :: _ => .error .help
  | 'V' :: _ => .error .version
  | c :: _ => .error (.fault (.unexpected (String.ofList ['-', c])))

def add (s : Seen) (argument : String) : Except Stop Seen :=
  if s.plain then s.addFile argument
  else if argument = "--" then .ok { s with plain := true }
  else if argument.startsWith "--" then s.addLong argument
  else if argument.startsWith "-" ∧ argument ≠ "-" then s.addShort argument
  else
    match s.waiting with
    | some o => .ok (s.addValue o argument)
    | none => s.addFile argument

/-- What is missing is reported first. -/
def finish (s : Seen) : Except Stop Arguments :=
  match s.file with
  | none => .error (.fault .missing)
  | some file =>
    if s.protocol.count = 0 then .error (.fault .missing)
    else if s.protocol.values.isEmpty then .error (.fault (.missingValue .protocol))
    else if s.config.values.isEmpty ∧ s.config.count ≠ 0 then
      .error (.fault (.missingValue .config))
    else if 1 < s.protocol.count then .error (.fault (.repeated .protocol))
    else if 1 < s.config.count then .error (.fault (.repeated .config))
    else .ok ⟨s.protocol.values.getLast?.getD "", file, s.config.values.getLast?⟩

end Seen

def parse (arguments : List String) : Except Stop Arguments := do
  (← arguments.foldlM Seen.add {}).finish

def versionText : String := "Wire format decoder 0.1.0"

def usageLines : List String :=
  ["USAGE:", "    nos-decode [OPTIONS] <FILENAME> --protocol <PROTOCOL>"]

def helpLines : List String :=
  [versionText, "Decode DHCPv6 messages and BGP-LS attributes", ""] ++ usageLines ++
    ["", "FLAGS:", "    -h, --help       Prints help information",
      "    -V, --version    Prints version information", "", "OPTIONS:",
      "    -c, --config <file>          Specify an alternative configuration file.",
      "        --protocol <PROTOCOL>    Protocol name (dhcp6, bgp-ls)", "", "ARGS:",
      "    <FILENAME>    Input file path"]

def Fault.lines (f : Fault) : List String :=
  [f.message, ""] ++ usageLines ++ ["", "For more information try --help"]

end Arguments

end TlvCodec.Tool
