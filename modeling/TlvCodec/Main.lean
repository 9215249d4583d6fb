import Std.Time.DateTime.Timestamp
import TlvCodec.Tool.Run

namespace TlvCodec.Tool

def FileError.ofSystem : IO.Error → FileError
  | .noFileOrDirectory .. => .notFound
  | .inappropriateType _ code _ => if code = 21 then .isDirectory else .notDirectory
  | .invalidArgument .. => .nameTooLong
  | e => .other (toString e)

def readFile (path : String) : IO (Except FileError Bytes) := do
  try
    return .ok (← IO.FS.readBinFile path).data.toList
  catch e =>
    return .error (.ofSystem e)

def paths (arguments : List String) : List String :=
  match Arguments.parse arguments with
  | .ok a => [a.config.getD defaultConfigPath, a.file]
  | .error _ => []

end TlvCodec.Tool

open TlvCodec

def main (arguments : List String) : IO UInt32 := do
  let contents ← (Tool.paths arguments).mapM fun path => return (path, ← Tool.readFile path)
  let files : Tool.Files := fun path => (contents.lookup path).getD (.error .notFound)
  let now ← Std.Time.Timestamp.now
  let time := Log.timeText (now.toNanosecondsSinceUnixEpoch.val.toNat / 1000)
  let report := Tool.run files (← IO.getEnv "RUST_LOG") time arguments
  for line in report.errors do
    IO.eprintln line
  for line in report.output do
    IO.println line
  return report.exitCode.toUInt32
