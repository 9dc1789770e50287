import SessionGateway.CommandLine.Launch

/-! The program. It finds its settings, tells what it is about to do, and stays until its standard input
ends. The gateway itself is a state that takes in events, and what carries its octets stands outside. -/
namespace SessionGateway.CommandLine

open SessionGateway.Configuration

def usage : String :=
  "Session-aware TCP gateway for game nodes\n\n" ++
  "Usage: gate [OPTIONS]\n\n" ++
  "Options:\n" ++
  "  -c, --config <FILE>        Configuration file path [default: gate.toml]\n" ++
  "  -l, --listen <ADDRESS>     Client-facing listen address (e.g., 0.0.0.0:7000)\n" ++
  "  -d, --debug                Shortcut for a debug log level\n" ++
  "      --json-logs            Output logs in JSON format\n" ++
  "  -s, --strategy <STRATEGY>  Login route strategy (round_robin, random, consistent_hash, designated)\n" ++
  "  -h, --help                 Print help\n" ++
  "  -V, --version              Print version"

def version : String := "gate 0.1.0"

def stopText : Stop → String
  | .helpWanted => usage
  | .versionWanted => version
  | .unknownArgument => "error: unexpected argument found"
  | .valueMissing => "error: a value is required but none was supplied"
  | .valueRefused => "error: invalid value"
  | .valueUnwanted => "error: unexpected value found"
  | .givenTwice => "error: an argument cannot be used multiple times"

def lookAt (path : String) : IO Place := do
  try
    return .file (← IO.FS.readBinFile path).data.toList
  catch
    | .noFileOrDirectory .. => return .vacant
    | _ => return .folder

def complain (e : LaunchError) : IO UInt32 := do
  IO.eprintln s!"Error: {e.message}"
  return 1

/-- Writes the settings that a missing file would hold. -/
def make (path : String) (s : Settings) : IO (Except LaunchError Unit) := do
  try
    IO.FS.writeFile path s.written
    return .ok ()
  catch _ => return .error (.writing path)

def runWith (path : String) (s : Settings) : IO UInt32 := do
  let (lines, obstacle) := ascent path s
  for line in lines do IO.println (logged s.logging line)
  match obstacle with
  | some e => complain e
  | none =>
    let _ ← (← IO.getStdin).readToEnd
    if isTalkative s.logging then IO.println (logged s.logging shutdownLine)
    return 0

end SessionGateway.CommandLine

open SessionGateway.CommandLine

def main (args : List String) : IO UInt32 := do
  match Arguments.ofList args with
  | .error stop =>
    if stop.exitCode = 0 then IO.println (stopText stop) else IO.eprintln (stopText stop)
    return stop.exitCode
  | .ok a =>
    match settingsAt a.config (← lookAt a.config) with
    | .error e => complain e
    | .ok (found, isNew) =>
      let made ← if isNew then make a.config found else pure (.ok ())
      match made, a.settle found with
      | .error e, _ | .ok (), .error e => complain e
      | .ok (), .ok s => runWith a.config s
