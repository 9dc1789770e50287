import SessionGateway.Gateway.Forwarding

/-! Frames of clients and replies of nodes. Heartbeats of clients stop here. A login frame finds its session
a node and goes there; any other frame follows the node of its session once the session is authenticated,
and is dropped before that. Whatever goes to a node costs a token first. A reply finds its session by the
request that waits for it, and a request is answered at most once. -/
namespace SessionGateway.Gateway

open Wire Selection

namespace State

/-! ### Requests -/

/-- The address of the session's node. A session that has none yet is bound to the one chosen. -/
def selectNode (g : Setup) (s : State) (h : Handle) (strategy : Strategy) : Option String × State :=
  match s.session? h with
  | none => (none, s)
  | some session =>
    match session.node with
    | some node => (s.resolver.address? node, s)
    | none =>
      match s.resolver.choose g.draws strategy session.player with
      | (none, resolver) => (none, { s with resolver })
      | (some (node, address), resolver) =>
        let s := { s with resolver }.updateSession h fun session => (session.bind node).2
        (some address, s.record (.bound h node))

def charge (s : State) (h : Handle) : Bool × State :=
  match s.session? h with
  | none => (false, s)
  | some session =>
    let (admitted, session) := session.acquire s.clock
    (admitted, s.updateSession h fun _ => session)

def forwardTo (g : Setup) (s : State) (address : Option String) (h : Handle) (p : ClientPacket) :
    Outcome × State :=
  match address with
  | none => (.noNode, s)
  | some address =>
    match s.forward g address h p with
    | (.ok (), s) => (.forwarded address, s)
    | (.error _, s) => (.forwardFailed, s)

def login (g : Setup) (s : State) (h : Handle) (p : ClientPacket) : Outcome × State :=
  match s.charge h with
  | (false, s) => (.rateLimited, s)
  | (true, s) =>
    let s := s.updateSession h (·.setPhase .authenticating)
    let (address, s) := s.selectNode g h g.strategy
    s.forwardTo g address h p

def business (g : Setup) (s : State) (h : Handle) (p : ClientPacket) : Outcome × State :=
  match s.charge h with
  | (false, s) => (.rateLimited, s)
  | (true, s) =>
    let address := do
      let session ← s.session? h
      let node ← session.node
      s.resolver.address? node
    s.forwardTo g address h p

/-- The answer to a heartbeat request that the session itself has to give. -/
def answerHeartbeat (s : State) (h : Handle) (p : ClientPacket) : State :=
  match Heartbeat.response (.client p) s.clock.wall with
  | .client answer => s.updateSession h fun session => (session.send answer).2
  | _ => s

def handle (g : Setup) (s : State) (h : Handle) (p : ClientPacket) : Outcome × State :=
  match s.session? h with
  | none => (.unauthenticated, s)
  | some session =>
    let s := s.updateSession h (·.touch s.clock)
    if p.msgId = heartbeatRequestId then (.heartbeatAnswered, s.answerHeartbeat h p)
    else if p.msgId = heartbeatResponseId then (.heartbeatIgnored, s)
    else if p.msgId = g.loginId then s.login g h p
    else if !session.isAuthenticated then (.unauthenticated, s)
    else s.business g h p

/-- Handles a frame and keeps what became of it on record. -/
def receive (g : Setup) (s : State) (h : Handle) (p : ClientPacket) : Outcome × State :=
  match s.session? h with
  | none => (.unauthenticated, s)
  | some found =>
    let (outcome, s) := s.handle g h p
    (outcome, s.record (.handled h found p outcome))

/-- The session's client is gone: its requests wait no longer and it leaves the list. -/
def disconnect (s : State) (h : Handle) : State :=
  match s.session? h with
  | none => s
  | some session =>
    let s := s.updateSession h (·.close)
    let s := { s with pending := (s.pending.forget session.id).2 }
    (s.unlist session.id).2

theorem disconnect_keeps (s : State) (h : Handle) :
    ∃ seats pending, s.disconnect h = { s with seats, pending } := by
  unfold disconnect
  split
  · exact ⟨_, _, rfl⟩
  · unfold unlist
    dsimp only
    split <;> exact ⟨_, _, rfl⟩

theorem disconnect_history (s : State) (h : Handle) : (s.disconnect h).history = s.history := by
  obtain ⟨_, _, left⟩ := s.disconnect_keeps h
  rw [left]

/-! ### Replies -/

/-- Lets the interceptor act on the session that a reply is meant for. -/
def inspect (g : Setup) (s : State) (h : Handle) (p : NodePacket) : State :=
  match g.interceptor, s.session? h with
  | some calls, some session =>
    let asked := calls s.history session p
    let s := s.updateSession h fun _ => asked.foldl (Session.perform s.clock) session
    s.record (.inspected h p asked)
  | _, _ => s

def deliver (s : State) (h : Handle) (p : NodePacket) : Dispatch × State :=
  match s.session? h with
  | none => (.sessionGone, s)
  | some session =>
    match session.send p.unwrap with
    | (true, session) => (.delivered, (s.updateSession h fun _ => session).record (.delivered h p))
    | (false, _) => (.sessionGone, s)

/-- Delivers a reply to the session that waits for it. -/
def dispatch (g : Setup) (s : State) (p : NodePacket) : Dispatch × State :=
  let (waiting, pending) := s.pending.take ⟨p.session, p.seq⟩
  let s := { s with pending }
  match waiting with
  | none => (.noPending, s)
  | some id =>
    match s.find? id with
    | none => (.sessionGone, s)
    | some h => (s.inspect g h p).deliver h p

/-- Dispatches a reply and keeps what became of it on record. -/
def reply (g : Setup) (s : State) (p : NodePacket) : Dispatch × State :=
  let (result, s) := s.dispatch g p
  (result, s.record (.dispatched p result))

end State

end SessionGateway.Gateway
