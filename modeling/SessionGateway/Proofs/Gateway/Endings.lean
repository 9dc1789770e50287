import SessionGateway.Proofs.Gateway.Outstanding
import SessionGateway.Proofs.Gateway.Violations

/-! Why connections of clients end. Every heartbeat and every reply of a node fits a client's link, so
nothing that is written to a client ends its connection as long as the client is there. What does is its own
doing, its silence, the closing of its session or the end of the gateway. -/
namespace SessionGateway.Gateway

open Wire Liveness Liveness.Monitor

variable {g : Setup} {s s' : State} {h : Handle} {link : Link} {session : Session} {e : Event}

/-- The reasons for which the connection of the client at `h` ends at an event. -/
inductive Cause (g : Setup) (s : State) (h : Handle) (link : Link) : Event → Ending → Prop where
  | leaves : link.input = [] → Cause g s h link (.clientCloses h) .peerClosed
  | breaksOff : link.input ≠ [] → Cause g s h link (.clientCloses h) (.framing .truncated)
  | violates (bytes : Octets) (e : FrameError) : g.Violated (link.input ++ bytes) e →
      Cause g s h link (.clientSends h bytes) (.framing e)
  | silent (milliseconds : Nat) (waiting after : Monitor) (count : UInt32) :
      Idles (s.now + milliseconds) s.clock.wall link.monitor waiting →
      waiting.due (s.now + milliseconds) s.clock.wall = some (.close count, after) →
      max 1 g.heartbeats.maxMissed ≤ count → Cause g s h link (.advance milliseconds) .idle
  | asked : Cause g s h link (.ask h .close) .sessionClosed
  | intercepted (id : Nat) (bytes : Octets) (news : List Occurrence) :
      (s.step g (.nodeSends id bytes)).history = news ++ s.history → AskedOver news h .close →
      Cause g s h link (.nodeSends id bytes) .sessionClosed
  | closed : Cause g s h link .closeSessions .sessionClosed
  | stopped : Cause g s h link .shutdown .shutdown
  /-- The client's end of the connection is gone, which the next frame for it brings to light. -/
  | gone (e : Event) (reason : String) : s.network.toClient h = .failed reason →
      Cause g s h link e (.broken reason)
  | hungUp (e : Event) : s.network.toClient h = .hungUp → Cause g s h link e .peerClosed

/-! ### Room -/

theorem Cause.fault {p : Packet} (takes : g.clientCodec.Takes p) {fault : Fault}
    (met : fault? g.clientCodec p (s.network.toClient h) = some fault) : Cause g s h link e fault.ending := by
  rcases fault?_of_takes takes met with ⟨reason, failed, rfl⟩ | ⟨hungUp, rfl⟩
  · exact .gone e reason failed
  · exact .hungUp e hungUp

/-! ### Queues -/

theorem Confined.delivered {own : Handle → Prop} (confined : Confined own s s') {p : NodePacket}
    (delivered : .delivered h p ∈ s'.history) : .delivered h p ∈ s.history := by
  obtain ⟨news, history, regards⟩ := confined.history
  rw [history] at delivered
  rcases List.mem_append.mp delivered with new | old
  · exact absurd (regards _ new) not_false
  · exact old

namespace Breach

/-! The client of the prompt reply sends a frame, and then a length field that is above the limit. -/

def events : List Event := Prompt.events ++ [.nodeSends 1 Prompt.answer]

def answered : State := (State.initial Prompt.resolver ⟨0, 0⟩ (.steady fun _ => .accepting)).run Prompt.setup events

def octets : Octets := (Packet.client Prompt.request).octets ++ [0, 0, 0, 65, 1]

end Breach

end SessionGateway.Gateway
