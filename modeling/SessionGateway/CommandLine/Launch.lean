import SessionGateway.CommandLine.Arguments
import SessionGateway.Configuration.Plan
import SessionGateway.Configuration.Problem
import SessionGateway.Configuration.Reading
import SessionGateway.Configuration.Tree

/-! From arguments to a gateway that runs. The settings come from a file, which is made with the default
settings if it is missing; arguments override what the file says, and only then are the settings
checked. The file lies in a working folder that holds files and no other folders. -/
namespace SessionGateway.CommandLine

open SessionGateway.Configuration Wire

/-! ### The folder -/

structure Folder where
  files : List (String × Octets)
  deriving DecidableEq, Repr

inductive Place where
  | file (octets : Octets)
  /-- No file, but one can be made. -/
  | vacant
  /-- No file, and none can be made. -/
  | noFolder
  | folder
  /-- Past a file, as if that were a folder. -/
  | beyondFile
  deriving DecidableEq, Repr

/-- The names on a path. Staying where one is does not count. -/
def pathNames (path : String) : List String :=
  ((path.split '/').map (·.toString)).toList.filter fun name => name ≠ "" ∧ name ≠ "."

def isFolderPath (path : String) : Bool := path.endsWith "/" || path.endsWith "/."

namespace Folder

def file? (f : Folder) (name : String) : Option Octets := (f.files.find? (·.1 = name)).map (·.2)

/-- The name that a path gives to a file in this folder. -/
def nameOf? (path : String) : Option String :=
  match pathNames path with
  | [name] => if path.startsWith "/" ∨ name = ".." then none else some name
  | _ => none

/-- Of the world outside nothing is known but that it has a root and a folder around this one. -/
def locate (f : Folder) (path : String) : Place :=
  match pathNames path with
  | [] | [".."] => .folder
  | name :: more =>
    if path.startsWith "/" then if more.isEmpty then .vacant else .noFolder
    else if name = ".." then if more.length = 1 then .vacant else .noFolder
    else match f.file? name with
      | some octets => if more.isEmpty ∧ ¬ isFolderPath path then .file octets else .beyondFile
      | none => if more.isEmpty ∧ ¬ isFolderPath path then .vacant else .noFolder

def write (f : Folder) (path : String) (octets : Octets) : Folder :=
  match nameOf? path with
  | some name => ⟨(name, octets) :: f.files.filter (·.1 ≠ name)⟩
  | none => f

end Folder

/-! ### Launching -/

inductive LaunchError where
  | reading (path : String)
  | parsing (path : String)
  | writing (path : String)
  | notFolder
  | invalid (p : Problem)
  | unplanned (e : PlanError)
  deriving DecidableEq, Repr

def LaunchError.message : LaunchError → String
  | reading path => s!"reading {path}"
  | parsing path => s!"parsing {path}"
  | writing path => s!"writing {path}"
  | notFolder => "Not a directory (os error 20)"
  | invalid p => s!"Configuration validation failed: {p.message}"
  | unplanned e => e.message

/-- The settings at a place, and whether they are to be written there first. -/
def settingsAt (path : String) : Place → Except LaunchError (Settings × Bool)
  | .file octets =>
    match Settings.ofOctets octets with
    | .ok settings => .ok (settings, false)
    | .error .unreadable => .error (.reading path)
    | .error .malformed => .error (.parsing path)
  | .vacant => .ok ({}, true)
  | .noFolder => .error (.writing path)
  | .folder => .error (.reading path)
  | .beyondFile => .error .notFolder

namespace Arguments

def override (a : Arguments) (s : Settings) : Settings :=
  { s with
    server.listenAddress := (a.listen.map (·.text)).getD s.server.listenAddress
    logging.level := if a.debug then "debug" else s.logging.level
    logging.asJson := a.jsonLogs || s.logging.asJson
    routing.strategy := a.strategy.getD s.routing.strategy }

def settle (a : Arguments) (s : Settings) : Except LaunchError Settings :=
  let s := a.override s
  match s.problem? with
  | some p => .error (.invalid p)
  | none => .ok s

end Arguments

/-! ### What is logged -/

def isTalkative (l : Logging) : Bool := l.level ∈ ["trace", "debug", "info"]

def loggingLine (l : Logging) : String := s!"🔧 Logging initialized with level: {l.level}"

def startLines (path : String) (s : Settings) : List String :=
  let nodes := s.routing.nodes.size
  [s!"🧭 Routing: service '{s.routing.service}', default strategy {s.routing.strategy.name}, " ++
    s!"{nodes} static node(s)",
   s!"📂 Config: {path}",
   s!"  🌐 Listen address: {s.server.listenAddress}",
   s!"  🧭 Login strategy: {s.routing.strategy.name} | Service: {s.routing.service}",
   s!"  🗺️ Static nodes: {nodes} | Directory instances: {s.routing.instances.length}",
   s!"  ⏱️ Reader idle: {s.heartbeat.readerIdle}s | Writer idle: {s.heartbeat.writerIdle}s | " ++
    s!"Max missed: {s.heartbeat.maxMissed}",
   s!"  🪣 Rate limit: {s.rateLimit.capacity} burst, {s.rateLimit.refill}/s"]

def shutdownLine : String := "✅ Gateway shutdown complete"

/-- A line as it is put out. Texts in double quotes are written alike in JSON and in TOML. -/
def logged (l : Logging) (line : String) : String :=
  if l.asJson then "\x7b\"level\":\"INFO\",\"fields\":\x7b\"message\":" ++ Toml.quoted line ++ "\x7d\x7d"
  else line

/-! ### A whole run -/

/-- How far settings that are in order lead: the lines to log, and what stands in the way of a gateway. -/
def ascent (path : String) (s : Settings) : List String × Option LaunchError :=
  let (lines, obstacle) :=
    match s.plan with
    | .error e => ([loggingLine s.logging], some (.unplanned e))
    | .ok _ => (loggingLine s.logging :: startLines path s, none)
  (if isTalkative s.logging then lines else [], obstacle)

structure Report where
  exitCode : UInt32
  error : Option LaunchError
  started : Bool
  asJson : Bool
  lines : List String
  folder : Folder
  deriving DecidableEq, Repr

namespace Report

def silent (exitCode : UInt32) (error : Option LaunchError) (folder : Folder) : Report :=
  { exitCode, error, started := false, asJson := false, lines := [], folder }

/-- A run with settings that are in order. A gateway that comes up stays up until it is told to stop. -/
def ofSettings (path : String) (s : Settings) (folder : Folder) : Report :=
  let (lines, error) := ascent path s
  let lines := if error.isNone ∧ isTalkative s.logging then lines ++ [shutdownLine] else lines
  { exitCode := if error.isNone then 0 else 1, error, started := error.isNone
    asJson := s.logging.asJson && !lines.isEmpty, lines, folder }

def ofRun (args : List String) (folder : Folder) : Report :=
  match Arguments.ofList args with
  | .error stop => silent stop.exitCode none folder
  | .ok a =>
    match settingsAt a.config (folder.locate a.config) with
    | .error e => silent 1 (some e) folder
    | .ok (found, isNew) =>
      let folder := if isNew then folder.write a.config found.written.toUTF8.data.toList else folder
      match a.settle found with
      | .error e => silent 1 (some e) folder
      | .ok s => ofSettings a.config s folder

end Report

end SessionGateway.CommandLine
