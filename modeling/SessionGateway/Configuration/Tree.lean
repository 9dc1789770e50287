import SessionGateway.Configuration.Settings
import SessionGateway.Toml.Written

/-! Settings as the trees that they are read from, with every section and every value in its place. -/
namespace SessionGateway.Configuration

open Document

def optionalNumber : Option Nat → Value
  | some n => .integer n
  | none => .null

def Server.value (s : Server) : Value := .table [
  ("listen_addr", .text s.listenAddress),
  ("max_frame_length", .integer s.frameLimit),
  ("use_reuse_port", .flag s.reusePort),
  ("io_threads", optionalNumber s.ioThreads),
  ("acceptors", optionalNumber s.acceptors),
  ("outbound_queue", .integer s.outboundQueue)]

def HeartbeatPeriods.value (h : HeartbeatPeriods) : Value := .table [
  ("reader_idle_secs", .integer h.readerIdle),
  ("writer_idle_secs", .integer h.writerIdle),
  ("all_idle_secs", .integer h.allIdle),
  ("max_missed", .integer h.maxMissed.toNat)]

def Backend.value (b : Backend) : Value := .table [
  ("connect_timeout_ms", .integer b.connectTimeout),
  ("write_queue", .integer b.writeQueue)]

def instanceValue (i : Selection.Instance) : Value := .table [
  ("instance_id", .text i.id),
  ("host", .text i.host),
  ("port", .integer i.port.toNat)]

def Routing.value (r : Routing) : Value := .table [
  ("default_strategy", .text r.strategy.name),
  ("service_name", .text r.service),
  ("static_nodes", .table (r.nodes.entries.map fun (id, address) => (id, .text address))),
  ("instances", .list (r.instances.map instanceValue))]

def RateLimit.value (r : RateLimit) : Value := .table [
  ("capacity", .integer r.capacity.toNat),
  ("refill_per_second", .integer r.refill.toNat)]

def messagesValue (messages : Text.ByName Wire.MessageId) : Value :=
  .table (messages.entries.map fun (name, id) => (name, .integer id.toInt))

def Logging.value (l : Logging) : Value := .table [
  ("level", .text l.level),
  ("json_format", .flag l.asJson)]

namespace Settings

def entries (s : Settings) : List (String × Value) := [
  ("server", s.server.value),
  ("heartbeat", s.heartbeat.value),
  ("backend", s.backend.value),
  ("routing", s.routing.value),
  ("rate_limit", s.rateLimit.value),
  ("messages", messagesValue s.messages),
  ("logging", s.logging.value)]

def written (s : Settings) : String := Toml.written s.entries

end Settings

end SessionGateway.Configuration
