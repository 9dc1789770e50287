import SessionGateway.Configuration.Settings
import SessionGateway.Gateway.Listeners
import SessionGateway.Gateway.State
import SessionGateway.Text.SocketAddress

/-! From settings to a gateway. A plan has what a gateway is made from, in the terms in which it works:
an address instead of a text, a table instead of pairs, milliseconds instead of seconds. -/
namespace SessionGateway.Configuration

open Wire Admission Liveness Selection Gateway

structure Plan where
  listen : Text.SocketAddress
  frameLimit : Nat
  reusePort : Bool
  acceptors : Option Nat
  outboundQueue : Nat
  heartbeats : Heartbeats
  /-- Milliseconds. -/
  connectTimeout : Nat
  writeQueue : Nat
  strategy : Strategy
  service : String
  nodes : NodeTable
  rate : Rate
  messages : MessageTable
  deriving DecidableEq, Repr

inductive PlanError where
  | messages (e : RegistrationError)
  | listenAddress (address : String)
  deriving DecidableEq, Repr

def PlanError.message : PlanError → String
  | messages e => e.message
  | listenAddress address => s!"invalid listen address {address}"

def milliseconds (seconds : Nat) : Time := seconds * 1000

def HeartbeatPeriods.heartbeats (h : HeartbeatPeriods) : Heartbeats where
  readerIdle := milliseconds h.readerIdle
  writerIdle := milliseconds h.writerIdle
  allIdle := if 0 < h.allIdle then some (milliseconds h.allIdle) else none
  maxMissed := h.maxMissed

namespace Settings

/-- Messages are registered in the order of their names, before the listen address is looked at. -/
def plan (s : Settings) : Except PlanError Plan := do
  let messages ← (MessageTable.ofList s.messages.entries).mapError fun (_, e) => .messages e
  match Text.SocketAddress.ofString? s.server.listenAddress with
  | none => throw (.listenAddress s.server.listenAddress)
  | some listen =>
    return {
      listen
      frameLimit := s.server.frameLimit
      reusePort := s.server.reusePort
      acceptors := s.server.acceptors
      outboundQueue := s.server.outboundQueue
      heartbeats := s.heartbeat.heartbeats
      connectTimeout := s.backend.connectTimeout
      writeQueue := s.backend.writeQueue
      strategy := s.routing.strategy
      service := s.routing.service
      nodes := s.routing.nodes
      rate := ⟨s.rateLimit.capacity, s.rateLimit.refill⟩
      messages }

/-- The directory that the configured instances make up. Without instances there is none. -/
def directory (s : Settings) : Option Directory :=
  if s.routing.instances.isEmpty then none
  else some (s.routing.instances.foldl (fun d i => d.register s.routing.service i) .empty)

end Settings

namespace Plan

def acceptorCount (p : Plan) (cores : Nat) : Nat := Gateway.acceptorCount p.reusePort p.acceptors cores

def setup (p : Plan) (interceptor : Option Interceptor) (draws : Nat → Nat) : Setup where
  frameLimit := p.frameLimit
  queueCapacity := p.outboundQueue
  rate := p.rate
  heartbeats := p.heartbeats
  connectTimeout := p.connectTimeout
  loginId := p.messages.loginId
  strategy := p.strategy
  interceptor
  draws

def resolver (p : Plan) (directory : Option Directory) : Resolver where
  service := p.service
  directory
  nodes := p.nodes
  rotation := .initial

end Plan

end SessionGateway.Configuration
