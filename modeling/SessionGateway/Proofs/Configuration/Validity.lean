import SessionGateway.Configuration.Problem
import Mathlib.Tactic.MkIffOfInductiveProp

/-! Valid settings. Settings are valid if each section is what it has to be by itself; no section is measured
against another one. -/
namespace SessionGateway.Configuration

open Wire

variable {s : Settings}

@[mk_iff]
structure Settings.Sound (s : Settings) : Prop where
  listenAddress : (Text.SocketAddress.ofString? s.server.listenAddress).isSome
  frameLimit : leastFrameLimit ≤ s.server.frameLimit
  ioThreads : s.server.ioThreads ≠ some 0
  acceptors : s.server.acceptors ≠ some 0
  sharedPort : s.server.reusePort ∨ s.server.acceptors.all (· ≤ 1)
  outboundQueue : 0 < s.server.outboundQueue
  readerIdle : 0 < s.heartbeat.readerIdle
  writerIdle : 0 < s.heartbeat.writerIdle
  maxMissed : 0 < s.heartbeat.maxMissed
  connectTimeout : 0 < s.backend.connectTimeout
  writeQueue : 0 < s.backend.writeQueue
  capacity : 0 < s.rateLimit.capacity
  login : s.messages.contains MessageTable.loginName
  free : ∀ e ∈ s.messages.entries, isReserved e.2 = false
  nodes : ∀ node ∈ s.routing.nodes.entries, Text.isHostPort node.2
  instances : ∀ i ∈ s.routing.instances, i.id ≠ "" ∧ i.host ≠ ""
  logLevel : s.logging.level ∈ logLevels

theorem messageProblems_eq_nil (messages : Text.ByName MessageId) : messageProblems messages = [] ↔
    messages.contains MessageTable.loginName ∧ ∀ e ∈ messages.entries, isReserved e.2 = false := by
  simp [messageProblems]

theorem Routing.problems_eq_nil (r : Routing) : r.problems = [] ↔
    (∀ node ∈ r.nodes.entries, Text.isHostPort node.2) ∧
    ∀ i ∈ r.instances, i.id ≠ "" ∧ i.host ≠ "" := by
  simp [Routing.problems]

theorem Settings.valid_iff_sound : s.Valid ↔ s.Sound := by
  simp only [Settings.sound_iff, Settings.Valid, Settings.problems, Server.problems,
    HeartbeatPeriods.problems, Backend.problems, RateLimit.problems, Logging.problems,
    messageProblems_eq_nil, Routing.problems_eq_nil, List.append_eq_nil_iff, needs_eq_nil, and_assoc]

theorem Settings.leastFrameLimit_le (accepted : s.Valid) : leastFrameLimit ≤ s.server.frameLimit :=
  (Settings.valid_iff_sound.mp accepted).frameLimit

end SessionGateway.Configuration
