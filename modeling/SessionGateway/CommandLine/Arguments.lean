import SessionGateway.Selection.Strategy
import SessionGateway.Text.SocketAddress

/-! The arguments of the program. An option that takes a value has it attached, by an equals sign or
right after its letter, or finds it in the next argument. In the latter case the option is taken over
only when the next one comes, so it is not always the first fault that is told. -/
namespace SessionGateway.CommandLine

open Selection

structure Arguments where
  config : String := "gate.toml"
  listen : Option Text.SocketAddress := none
  debug : Bool := false
  jsonLogs : Bool := false
  strategy : Option Strategy := none
  deriving DecidableEq, Repr

inductive Stop where
  | helpWanted
  | versionWanted
  | unknownArgument
  /-- An option that takes a value has none, or an empty one where that makes no sense. -/
  | valueMissing
  | valueRefused
  /-- An option that takes no value has one attached. -/
  | valueUnwanted
  | givenTwice
  deriving DecidableEq, Repr

def Stop.exitCode : Stop → UInt32
  | helpWanted | versionWanted => 0
  | _ => 2

inductive Setting where
  | config
  | listen
  | strategy
  deriving DecidableEq, Repr

inductive Switch where
  | debug
  | jsonLogs
  | help
  | version
  deriving DecidableEq, Repr

inductive Name where
  | setting (s : Setting)
  | switch (s : Switch)
  deriving DecidableEq, Repr

def Name.ofWord? : String → Option Name
  | "config" => some (.setting .config)
  | "listen" => some (.setting .listen)
  | "strategy" => some (.setting .strategy)
  | "debug" => some (.switch .debug)
  | "json-logs" => some (.switch .jsonLogs)
  | "help" => some (.switch .help)
  | "version" => some (.switch .version)
  | _ => none

def Name.ofLetter? : Char → Option Name
  | 'c' => some (.setting .config)
  | 'l' => some (.setting .listen)
  | 's' => some (.setting .strategy)
  | 'd' => some (.switch .debug)
  | 'h' => some (.switch .help)
  | 'V' => some (.switch .version)
  | _ => none

inductive Token where
  /-- No options follow any more. -/
  | separator
  | long (name : String) (value : Option String)
  /-- Letters in a row, the last of which may have its value after it. -/
  | letters (cs : List Char)
  | plain (s : String)
  deriving DecidableEq, Repr

def Token.ofString (s : String) : Token :=
  match s.toList with
  | ['-', '-'] => .separator
  | '-' :: '-' :: cs =>
    let (name, rest) := cs.span (· ≠ '=')
    .long (String.ofList name) (match rest with
      | _ :: value => some (String.ofList value)
      | [] => none)
  | '-' :: c :: cs => .letters (c :: cs)
  | _ => .plain s

structure Given where
  config : Option String := none
  listen : Option Text.SocketAddress := none
  debug : Bool := false
  jsonLogs : Bool := false
  strategy : Option Strategy := none
  deriving DecidableEq, Repr

namespace Given

/-- Takes over an option with its value. That the value is there is looked at first, then that the
option is new, then the value. -/
def set (g : Given) (s : Setting) (value : Option String) : Except Stop Given :=
  match value with
  | none => .error .valueMissing
  | some v =>
    match s with
    | .config =>
      if g.config.isSome then .error .givenTwice
      else if v = "" then .error .valueMissing
      else .ok { g with config := some v }
    | .listen =>
      if g.listen.isSome then .error .givenTwice
      else match Text.SocketAddress.ofString? v with
        | some address => .ok { g with listen := some address }
        | none => .error .valueRefused
    | .strategy =>
      if g.strategy.isSome then .error .givenTwice
      else match Strategy.ofText? v with
        | some strategy => .ok { g with strategy := some strategy }
        | none => .error .valueRefused

def turnOn (g : Given) : Switch → Except Stop Given
  | .debug => if g.debug then .error .givenTwice else .ok { g with debug := true }
  | .jsonLogs => if g.jsonLogs then .error .givenTwice else .ok { g with jsonLogs := true }
  | .help => .error .helpWanted
  | .version => .error .versionWanted

def arguments (g : Given) : Arguments :=
  let d : Arguments := {}
  { config := g.config.getD d.config, listen := g.listen, debug := g.debug, jsonLogs := g.jsonLogs
    strategy := g.strategy }

end Given

/-- An option that is not taken over yet: the last one, if its value is an argument of its own. -/
structure Waiting where
  setting : Setting
  value : Option String
  deriving DecidableEq, Repr

structure Progress where
  given : Given := {}
  waiting : Option Waiting := none
  deriving DecidableEq, Repr

namespace Progress

def settle (p : Progress) : Except Stop Given :=
  match p.waiting with
  | none => .ok p.given
  | some w => p.given.set w.setting w.value

/-- An option with its value attached, or one that waits for the next argument. -/
def setting (p : Progress) (s : Setting) (attached : Option String) : Except Stop Progress := do
  let given ← p.settle
  match attached with
  | some value => return { given := ← given.set s (some value) }
  | none => return { given, waiting := some ⟨s, none⟩ }

def switch (p : Progress) (s : Switch) : Except Stop Progress := do
  return { given := ← (← p.settle).turnOn s }

/-- An unknown name and a value that is not wanted are told before any fault of the option that waits. -/
def long (p : Progress) (name : String) (value : Option String) : Except Stop Progress :=
  match Name.ofWord? name, value with
  | some (.setting s), value => p.setting s value
  | some (.switch s), none => p.switch s
  | some (.switch _), some _ => .error .valueUnwanted
  | none, _ => .error .unknownArgument

/-- What is attached to a letter, an equals sign between them left out. -/
def attachedTo : List Char → Option String
  | [] => none
  | '=' :: cs => some (String.ofList cs)
  | cs => some (String.ofList cs)

def letters (p : Progress) : List Char → Except Stop Progress
  | [] => .ok p
  | c :: cs =>
    match Name.ofLetter? c with
    | some (.setting s) => p.setting s (attachedTo cs)
    | some (.switch s) => do (← p.switch s).letters cs
    | none => .error .unknownArgument

/-- An argument that is no option is the value that an option waits for. -/
def plain (p : Progress) (s : String) : Except Stop Progress :=
  match p.waiting with
  | some ⟨setting, none⟩ => .ok { p with waiting := some ⟨setting, some s⟩ }
  | _ => .error .unknownArgument

def read (p : Progress) : List String → Except Stop Given
  | [] => p.settle
  | arg :: later =>
    match Token.ofString arg with
    | .separator => if later.isEmpty then p.settle else .error .unknownArgument
    | .long name value => do (← p.long name value).read later
    | .letters cs => do (← p.letters cs).read later
    | .plain s => do (← p.plain s).read later

end Progress

def Arguments.ofList (args : List String) : Except Stop Arguments :=
  (Progress.read {} args).map Given.arguments

end SessionGateway.CommandLine
