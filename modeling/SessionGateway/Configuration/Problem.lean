import SessionGateway.Configuration.Settings
import SessionGateway.Text.Quoted
import SessionGateway.Text.SocketAddress

/-! What can be wrong with settings that were read well. Settings are acceptable if nothing is; else the
first problem is told, in the order of the sections below. That two messages share an id is found only
when the message table is made. -/
namespace SessionGateway.Configuration

open Wire

inductive Problem where
  | listenAddress (address : String)
  | frameLimit
  | noIoThread
  | noAcceptor
  | unsharedPort
  | outboundQueue
  | readerIdle
  | writerIdle
  | maxMissed
  | connectTimeout
  | writeQueue
  | capacity
  | noLogin
  | reservedId (name : String) (id : MessageId)
  | nodeAddress (node address : String)
  | namelessInstance
  | logLevel (level : String)
  deriving DecidableEq, Repr

def leastFrameLimit : Nat := Layout.gameServer.headerLength

def logLevels : List String := ["trace", "debug", "info", "warn", "error"]

def Problem.message : Problem → String
  | listenAddress address => s!"Invalid listen address: {address}"
  | frameLimit => s!"max_frame_length must be at least {leastFrameLimit} bytes"
  | noIoThread => "io_threads must be positive"
  | noAcceptor => "acceptors must be positive"
  | unsharedPort => "More than one acceptor requires use_reuse_port"
  | outboundQueue => "outbound_queue must be positive"
  | readerIdle => "reader_idle_secs must be positive"
  | writerIdle => "writer_idle_secs must be positive"
  | maxMissed => "max_missed must be positive"
  | connectTimeout => "connect_timeout_ms must be positive"
  | writeQueue => "write_queue must be positive"
  | capacity => "rate_limit.capacity must be positive"
  | noLogin => s!"[messages] must define '{MessageTable.loginName}'"
  | reservedId name id => s!"Message '{name}' uses reserved id {id}"
  | nodeAddress node address => s!"Static node '{node}' has malformed address: {address}"
  | namelessInstance => "Routing instances need an instance_id and host"
  | logLevel level =>
    let levels := String.intercalate ", " (logLevels.map Text.quote)
    s!"Invalid log level: {level}. Must be one of: [{levels}]"

/-- A problem that is there unless a condition holds. -/
def needs (condition : Prop) [Decidable condition] (p : Problem) : List Problem :=
  if condition then [] else [p]

@[simp] theorem needs_eq_nil (condition : Prop) [Decidable condition] (p : Problem) :
    needs condition p = [] ↔ condition := by
  unfold needs
  split <;> simp_all

def Server.problems (s : Server) : List Problem :=
  needs (Text.SocketAddress.ofString? s.listenAddress).isSome (.listenAddress s.listenAddress) ++
  needs (leastFrameLimit ≤ s.frameLimit) .frameLimit ++
  needs (s.ioThreads ≠ some 0) .noIoThread ++
  needs (s.acceptors ≠ some 0) .noAcceptor ++
  needs (s.reusePort ∨ s.acceptors.all (· ≤ 1)) .unsharedPort ++
  needs (0 < s.outboundQueue) .outboundQueue

def HeartbeatPeriods.problems (h : HeartbeatPeriods) : List Problem :=
  needs (0 < h.readerIdle) .readerIdle ++
  needs (0 < h.writerIdle) .writerIdle ++
  needs (0 < h.maxMissed) .maxMissed

def Backend.problems (b : Backend) : List Problem :=
  needs (0 < b.connectTimeout) .connectTimeout ++
  needs (0 < b.writeQueue) .writeQueue

def RateLimit.problems (r : RateLimit) : List Problem := needs (0 < r.capacity) .capacity

def messageProblems (messages : Text.ByName MessageId) : List Problem :=
  needs (messages.contains MessageTable.loginName) .noLogin ++
  messages.entries.flatMap fun (name, id) => needs (¬ isReserved id) (.reservedId name id)

def Routing.problems (r : Routing) : List Problem :=
  r.nodes.entries.flatMap (fun (node, address) =>
    needs (Text.isHostPort address) (.nodeAddress node address)) ++
  r.instances.flatMap fun i => needs (i.id ≠ "" ∧ i.host ≠ "") .namelessInstance

def Logging.problems (l : Logging) : List Problem := needs (l.level ∈ logLevels) (.logLevel l.level)

namespace Settings

def problems (s : Settings) : List Problem :=
  s.server.problems ++ s.heartbeat.problems ++ s.backend.problems ++ s.rateLimit.problems ++
    messageProblems s.messages ++ s.routing.problems ++ s.logging.problems

/-- What is told: the first thing that is wrong. -/
def problem? (s : Settings) : Option Problem := s.problems.head?

def Valid (s : Settings) : Prop := s.problems = []

instance (s : Settings) : Decidable s.Valid := inferInstanceAs (Decidable (_ = _))

end Settings

end SessionGateway.Configuration
