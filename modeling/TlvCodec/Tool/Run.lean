import TlvCodec.Log.Filter
import TlvCodec.Tool.Arguments
import TlvCodec.Tool.Decode

namespace TlvCodec.Tool

def defaultConfigPath : String := "/etc/nos-decode.toml"

structure Report where
  exitCode : UInt8
  output : List String
  errors : List String
deriving DecidableEq, Repr

def readText (files : Files) (path : String) : Except FileError String :=
  match files path with
  | .error e => .error e
  | .ok bs =>
    match String.fromUTF8? (ByteArray.mk bs.toArray) with
    | some text => .ok text
    | none => .error (.other "stream did not contain valid UTF-8")

namespace Config

/-- Where the file cannot be read the defaults hold, with lines that say so. -/
def load (files : Files) (path : String) : Option Config × List String :=
  match readText files path with
  | .ok text => (parse? text, [])
  | .error e =>
    (some {}, ["Failed to load configuration file: " ++ e.message,
      "Falling back to default configuration..."])

def logLines (c : Config) (filter : Log.Filter) (time : String) (e : Event) : List String :=
  let layout : Log.Layout :=
    { style := c.logging.style
      colors := c.logging.colors
      showThread := c.logging.showThreadId }
  match filter.admit? e.record with
  | some r => if c.logging.enabled then layout.lines time r else []
  | none => []

end Config

def decodeFile (files : Files) (config : Config) (p : Protocol) (path : String) :
    Except Error String × List Event :=
  match readInput files path config.decode.inputFormat with
  | .error e => (.error e, [.failed e])
  | .ok data =>
    match decode p data config.decode.pretty with
    | (.ok text, events) => (.ok text, events)
    | (.error e, events) => (.error e, events ++ [.failed e])

def runWith (files : Files) (filter : Log.Filter) (time : String) (a : Arguments)
    (config : Config) : Report :=
  match Protocol.ofName? a.protocol with
  | none => ⟨1, [], ["Unknown protocol: " ++ a.protocol]⟩
  | some p =>
    let (result, events) := decodeFile files config p a.file
    let log := events.flatMap (config.logLines filter time)
    match result with
    | .ok text => ⟨0, [text], log⟩
    | .error e => ⟨1, [], log ++ [e.message]⟩

/-- A whole run, under the `filter` for the log, at the given time. -/
def run (files : Files) (filter : Option String) (time : String) (arguments : List String) :
    Report :=
  match Arguments.parse arguments with
  | .error .help => ⟨0, Arguments.helpLines, []⟩
  | .error .version => ⟨0, [Arguments.versionText], []⟩
  | .error (.fault f) => ⟨1, [], f.lines⟩
  | .ok a =>
    match Config.load files (a.config.getD defaultConfigPath) with
    | (none, notices) =>
      ⟨1, [], notices ++ ["Failed to parse configuration file: invalid configuration"]⟩
    | (some config, notices) =>
      match Log.Filter.read (filter.getD "") with
      | (none, remarks) => ⟨101, [], notices ++ remarks⟩
      | (some filter, remarks) =>
        let report := runWith files filter time a config
        { report with errors := notices ++ remarks ++ report.errors }

end TlvCodec.Tool
