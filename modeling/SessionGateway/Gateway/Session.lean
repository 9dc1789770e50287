import SessionGateway.Admission.TokenBucket
import SessionGateway.Text.Quoted
import SessionGateway.Text.SocketAddress
import SessionGateway.Wire.Heartbeat

/-! One client's session. A session is closed for good once it is closed, is bound to at most one node in
its life, and counts as authenticated while it is in that phase and knows its player. Frames for the
client wait in a queue of fixed capacity; a frame that finds it full is dropped. -/
namespace SessionGateway.Gateway

open Wire Admission

inductive Phase where
  | connected
  | authenticating
  | authenticated
  | closed
  deriving DecidableEq, Repr

namespace Phase

def all : List Phase := [connected, authenticating, authenticated, closed]

def name : Phase → String
  | connected => "Connected"
  | authenticating => "Authenticating"
  | authenticated => "Authenticated"
  | closed => "Closed"

def ofName? (s : String) : Option Phase := all.find? (·.name = s)

end Phase

structure SessionClock where
  bucket : Instant
  wall : Heartbeat.WallClock
  deriving DecidableEq, Repr

structure Session where
  id : SessionId
  peer : Option Text.SocketAddress
  player : Option Int64
  node : Option String
  phase : Phase
  lastActive : Heartbeat.WallClock
  bucket : TokenBucket
  capacity : Nat
  /-- Frames for the client, oldest first. -/
  queue : List ClientPacket
  /-- Whether someone still takes frames from the queue. -/
  attended : Bool
  /-- Whether the connection was told to end. -/
  cancelled : Bool
  deriving DecidableEq, Repr

namespace Session

def start (id : SessionId) (peer : Option Text.SocketAddress) (rate : Rate) (capacity : Nat)
    (clock : SessionClock) : Session :=
  { id, peer, player := none, node := none, phase := .connected, lastActive := clock.wall
    bucket := .full rate clock.bucket, capacity, queue := [], attended := true, cancelled := false }

def setPhase (s : Session) (phase : Phase) : Session :=
  if s.phase = .closed then s else { s with phase }

def authenticate (s : Session) (player : Int64) : Session :=
  if s.phase = .closed then s else { s with player := some player, phase := .authenticated }

def isAuthenticated (s : Session) : Bool := s.player.isSome && s.phase = .authenticated

/-- The first binding stays. Tells whether this one was it. -/
def bind (s : Session) (node : String) : Bool × Session :=
  match s.node with
  | some _ => (false, s)
  | none => (true, { s with node := some node })

def touch (s : Session) (clock : SessionClock) : Session := { s with lastActive := clock.wall }

def acquire (s : Session) (clock : SessionClock) : Bool × Session :=
  let (taken, bucket) := s.bucket.take clock.bucket
  (taken, { s with bucket })

def isActive (s : Session) : Bool := s.phase ≠ .closed && !s.cancelled && s.attended

/-- Queues a frame for the client. Tells whether it was queued. -/
def send (s : Session) (p : ClientPacket) : Bool × Session :=
  if s.isActive && s.queue.length < s.capacity then (true, { s with queue := s.queue ++ [p] })
  else (false, s)

def close (s : Session) : Session := { s with phase := .closed, cancelled := true }

def receive (s : Session) : List ClientPacket × Session := (s.queue, { s with queue := [] })

def abandon (s : Session) : Session := { s with queue := [], attended := false }

theorem setPhase_eq (s : Session) (phase : Phase) :
    s.setPhase phase = { s with phase := if s.phase = .closed then .closed else phase } := by
  unfold setPhase
  split
  · rename_i closed
    rw [← closed]
  · rfl

theorem authenticate_eq (s : Session) (player : Int64) : s.authenticate player = { s with
    player := if s.phase = .closed then s.player else some player
    phase := if s.phase = .closed then .closed else .authenticated } := by
  unfold authenticate
  split
  · rename_i closed
    rw [← closed]
  · rfl

theorem bind_eq (s : Session) (node : String) :
    (s.bind node).2 = { s with node := s.node.or (some node) } := by
  unfold bind
  split
  · rename_i found
    rw [found, Option.some_or, ← found]
  · rename_i found
    rw [found, Option.none_or]

theorem send_eq (s : Session) (p : ClientPacket) : (s.send p).2 = { s with
    queue := if s.isActive && s.queue.length < s.capacity then s.queue ++ [p] else s.queue } := by
  unfold send
  split <;> rfl

def text (s : Session) : String :=
  let player := match s.player with
    | some p => s!"Some({p})"
    | none => "None"
  let node := match s.node with
    | some n => s!"Some({Text.quote n})"
    | none => "None"
  s!"Session\x7bid={s.id}, player={player}, node={node}, state={s.phase.name}\x7d"

end Session

/-- What may be asked of a session, by the gateway or by whoever inspects replies. -/
inductive SessionCall where
  | setPhase (phase : Phase)
  | authenticate (player : Int64)
  | bind (node : String)
  | acquire
  | send (p : ClientPacket)
  | touch
  | close
  deriving DecidableEq, Repr

def Session.perform (clock : SessionClock) (s : Session) : SessionCall → Session
  | .setPhase phase => s.setPhase phase
  | .authenticate player => s.authenticate player
  | .bind node => (s.bind node).2
  | .acquire => (s.acquire clock).2
  | .send p => (s.send p).2
  | .touch => s.touch clock
  | .close => s.close

namespace Session

theorem perform_id (clock : SessionClock) (s : Session) (call : SessionCall) :
    (s.perform clock call).id = s.id := by
  cases call <;> simp [perform, setPhase_eq, authenticate_eq, bind_eq, send_eq, acquire, touch, close]

theorem perform_queue (clock : SessionClock) (s : Session) (call : SessionCall) :
    (s.perform clock call).queue = s.queue ∨
      ∃ p, call = .send p ∧ (s.perform clock call).queue = s.queue ++ [p] := by
  cases call with
  | send p =>
    simp only [perform, send_eq]
    split
    · exact Or.inr ⟨p, rfl, rfl⟩
    · exact Or.inl rfl
  | _ => left; simp [perform, setPhase_eq, authenticate_eq, bind_eq, acquire, touch, close]

theorem perform_player (clock : SessionClock) (s : Session) (call : SessionCall) :
    (s.perform clock call).player = s.player ∨
      ∃ player, call = .authenticate player ∧ (s.perform clock call).player = some player := by
  cases call with
  | authenticate player =>
    simp only [perform, authenticate_eq]
    split
    · exact Or.inl rfl
    · exact Or.inr ⟨player, rfl, rfl⟩
  | _ => left; simp [perform, setPhase_eq, bind_eq, send_eq, acquire, touch, close]

theorem perform_node (clock : SessionClock) (s : Session) (call : SessionCall) :
    (s.perform clock call).node = s.node ∨
      s.node = none ∧ ∃ node, call = .bind node ∧ (s.perform clock call).node = some node := by
  cases call with
  | bind node =>
    simp only [perform, bind_eq]
    cases unbound : s.node with
    | none => exact Or.inr ⟨rfl, node, rfl, rfl⟩
    | some _ => exact Or.inl rfl
  | _ => left; simp [perform, setPhase_eq, authenticate_eq, send_eq, acquire, touch, close]

end Session

end SessionGateway.Gateway
