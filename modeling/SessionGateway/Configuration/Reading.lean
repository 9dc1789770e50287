import SessionGateway.Configuration.Settings
import SessionGateway.Toml.Document

/-! Reading settings from trees. What is missing keeps its default and what is unknown is passed over,
but a value of the wrong kind or out of range is refused and never converted. A section may also be
given as the list of its values in their fixed order. -/
namespace SessionGateway.Configuration

open Wire Selection Document

inductive Notation where
  | json
  | toml
  deriving DecidableEq, Repr

/-! ### Single values -/

def text? : Value → Option String
  | .text s => some s
  | _ => none

def flag? : Value → Option Bool
  | .flag b => some b
  | _ => none

def integer? (least most : Int) : Value → Option Int
  | .integer n => if least ≤ n ∧ n ≤ most then some n else none
  | _ => none

def below? (size : Nat) (v : Value) : Option Nat := (integer? 0 (size - 1) v).map Int.toNat

def word64? : Value → Option Nat := below? UInt64.size

def word32? (v : Value) : Option UInt32 := (below? UInt32.size v).map UInt32.ofNat

def port? (v : Value) : Option UInt16 := (below? UInt16.size v).map UInt16.ofNat

def messageId? (v : Value) : Option MessageId :=
  (integer? Int32.minValue.toInt Int32.maxValue.toInt v).map Int32.ofInt

def optional? (read : Value → Option α) : Value → Option (Option α)
  | .null => some none
  | v => (read v).map some

/-- The name under which the notation for dates lies in a table. -/
def instantName : String := "$__toml_private_datetime"

/-- The entries of a table. A date counts as a table of one text. -/
def entries? : Value → Option (List (String × Value))
  | .table entries => some entries
  | .instant written => some [(instantName, .text written)]
  | _ => none

def byName? (read : Value → Option α) (v : Value) : Option (Text.ByName α) := do
  let entries ← (← entries? v).mapM fun (name, v) => do some (name, ← read v)
  some (Text.ByName.ofList entries)

/-- A strategy by its exact name, or as a table of that name with nothing in it. -/
def strategy? (form : Notation) : Value → Option Strategy
  | .text s => Strategy.ofName? s
  | .table [(name, content)] =>
    match form, content with
    | .json, .null | .toml, .table [] | .toml, .list [] => Strategy.ofName? name
    | _, _ => none
  | _ => none

/-! ### Sections -/

/-- The values of a section under its names. In JSON a list must not be longer than there are names. -/
def section? (form : Notation) (names : List String) : Value → Option (List (String × Value))
  | .list values =>
    if form = .toml ∨ values.length ≤ names.length then some (names.zip values) else none
  | v => entries? v

def given (entries : List (String × Value)) (name : String) (read : Value → Option α) (default : α) :
    Option α :=
  match value? entries name with
  | some v => read v
  | none => some default

def required (entries : List (String × Value)) (name : String) (read : Value → Option α) : Option α := do
  read (← value? entries name)

def server? (form : Notation) (v : Value) : Option Server := do
  let es ← section? form ["listen_addr", "max_frame_length", "use_reuse_port", "io_threads", "acceptors",
    "outbound_queue"] v
  let d : Server := {}
  return {
    listenAddress := ← given es "listen_addr" text? d.listenAddress
    frameLimit := ← given es "max_frame_length" word64? d.frameLimit
    reusePort := ← given es "use_reuse_port" flag? d.reusePort
    ioThreads := ← given es "io_threads" (optional? word64?) d.ioThreads
    acceptors := ← given es "acceptors" (optional? word64?) d.acceptors
    outboundQueue := ← given es "outbound_queue" word64? d.outboundQueue }

def heartbeat? (form : Notation) (v : Value) : Option HeartbeatPeriods := do
  let es ← section? form ["reader_idle_secs", "writer_idle_secs", "all_idle_secs", "max_missed"] v
  let d : HeartbeatPeriods := {}
  return {
    readerIdle := ← given es "reader_idle_secs" word64? d.readerIdle
    writerIdle := ← given es "writer_idle_secs" word64? d.writerIdle
    allIdle := ← given es "all_idle_secs" word64? d.allIdle
    maxMissed := ← given es "max_missed" word32? d.maxMissed }

def backend? (form : Notation) (v : Value) : Option Backend := do
  let es ← section? form ["connect_timeout_ms", "write_queue"] v
  let d : Backend := {}
  return {
    connectTimeout := ← given es "connect_timeout_ms" word64? d.connectTimeout
    writeQueue := ← given es "write_queue" word64? d.writeQueue }

def instance? (form : Notation) (v : Value) : Option Instance := do
  let es ← section? form ["instance_id", "host", "port"] v
  return {
    id := ← required es "instance_id" text?
    host := ← required es "host" text?
    port := ← required es "port" port? }

def instances? (form : Notation) : Value → Option (List Instance)
  | .list values => values.mapM (instance? form)
  | _ => none

def routing? (form : Notation) (v : Value) : Option Routing := do
  let es ← section? form ["default_strategy", "service_name", "static_nodes", "instances"] v
  let d : Routing := {}
  return {
    strategy := ← given es "default_strategy" (strategy? form) d.strategy
    service := ← given es "service_name" text? d.service
    nodes := ← given es "static_nodes" (byName? text?) d.nodes
    instances := ← given es "instances" (instances? form) d.instances }

def rateLimit? (form : Notation) (v : Value) : Option RateLimit := do
  let es ← section? form ["capacity", "refill_per_second"] v
  let d : RateLimit := {}
  return {
    capacity := ← given es "capacity" word32? d.capacity
    refill := ← given es "refill_per_second" word32? d.refill }

def logging? (form : Notation) (v : Value) : Option Logging := do
  let es ← section? form ["level", "json_format"] v
  let d : Logging := {}
  return {
    level := ← given es "level" text? d.level
    asJson := ← given es "json_format" flag? d.asJson }

namespace Settings

def ofValue? (form : Notation) (v : Value) : Option Settings := do
  let es ← section? form ["server", "heartbeat", "backend", "routing", "rate_limit", "messages",
    "logging"] v
  let d : Settings := {}
  return {
    server := ← given es "server" (server? form) d.server
    heartbeat := ← given es "heartbeat" (heartbeat? form) d.heartbeat
    backend := ← given es "backend" (backend? form) d.backend
    routing := ← given es "routing" (routing? form) d.routing
    rateLimit := ← given es "rate_limit" (rateLimit? form) d.rateLimit
    messages := ← given es "messages" (byName? messageId?) d.messages
    logging := ← given es "logging" (logging? form) d.logging }

def ofText? (s : String) : Option Settings := do ofValue? .toml (.table (← Toml.ofText? s))

end Settings

inductive FileFault where
  /-- Its octets are no text. -/
  | unreadable
  /-- It is no TOML, or says what cannot be set. -/
  | malformed
  deriving DecidableEq, Repr

def Settings.ofOctets (octets : List UInt8) : Except FileFault Settings :=
  match String.fromUTF8? ⟨octets.toArray⟩ with
  | none => .error .unreadable
  | some s =>
    match Settings.ofText? s with
    | none => .error .malformed
    | some settings => .ok settings

end SessionGateway.Configuration
