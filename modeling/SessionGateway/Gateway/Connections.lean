import SessionGateway.Gateway.Requests

/-! Connections at work. Arriving octets are cut into frames, each frame passes the monitor of its link,
and what the monitor hands on is a request or a reply. A violation of the framing ends the connection
it came by and no other. -/
namespace SessionGateway.Gateway

open Wire Liveness

def Setup.clientCodec (g : Setup) : Codec := ⟨.gateway, g.frameLimit⟩

namespace State

/-! ### Clients -/

/-- Ends a client's connection, and with it the session. -/
def endClient (s : State) (h : Handle) (why : Ending) : State :=
  match s.clientLink? h with
  | none => s
  | some _ =>
    let s := s.disconnect h
    let s := s.updateSeat h fun seat => { seat with session := seat.session.abandon, link := none }
    s.record (.clientEnded h why)

theorem endClient_keeps (s : State) (h : Handle) (why : Ending) :
    ∃ seats pending history, s.endClient h why = { s with seats, pending, history } := by
  unfold endClient
  split
  · exact ⟨_, _, _, rfl⟩
  · obtain ⟨_, _, left⟩ := s.disconnect_keeps h
    rw [left]
    exact ⟨_, _, _, rfl⟩

/-- Writes a frame to a client. A frame that cannot be written ends the connection. -/
def writeClient (g : Setup) (s : State) (h : Handle) (p : Packet) : State :=
  match s.clientLink? h with
  | none => s
  | some link =>
    match fault? g.clientCodec p (s.network.toClient h) with
    | some fault => s.endClient h fault.ending
    | none =>
      let s := s.setClientLink h { link with monitor := link.monitor.onOutbound s.now }
      s.record (.clientReceived h p)

def clientFrame (g : Setup) (h : Handle) (s : State) (p : Packet) : State :=
  match s.clientLink? h with
  | none => s
  | some link =>
    let s := s.updateSession h (·.touch s.clock)
    let (inbound, monitor) := link.monitor.onInbound s.now s.clock.wall p
    let s := s.setClientLink h { link with monitor }
    match inbound with
    | .reply answer => s.writeClient g h answer
    | .absorbed _ => s
    | .deliver (.client p) => (s.receive g h p).2
    | .deliver _ => s

/-- Octets from a client. What follows a violation of the framing is not looked at. -/
def clientOctets (g : Setup) (s : State) (h : Handle) (bytes : Octets) : State :=
  match s.clientLink? h with
  | none => s
  | some link =>
    let drained := g.clientCodec.drain (link.input ++ bytes)
    let s := s.setClientLink h { link with input := drained.rest }
    let s := drained.packets.foldl (clientFrame g h) s
    match drained.error with
    | some e => s.endClient h (.framing e)
    | none => s

def clientEnd (s : State) (h : Handle) : State :=
  match s.clientLink? h with
  | none => s
  | some link => s.endClient h (if link.input.isEmpty then .peerClosed else .framing .truncated)

/-- Writes what waits for a client. If the session was closed some of it may still go out, and then the
connection ends. -/
def flushClient (g : Setup) (s : State) (h : Handle) : State :=
  match s.clientLink? h, s.session? h with
  | some _, some session =>
    let waiting := if session.cancelled then session.queue.take (s.network.parting h) else session.queue
    let s := s.updateSession h (·.receive.2)
    let s := waiting.foldl (fun s p => s.writeClient g h (.client p)) s
    if session.cancelled then s.endClient h .sessionClosed else s
  | _, _ => s

def flush (g : Setup) (s : State) : State :=
  (List.range s.seats.length).foldl (flushClient g) s

/-- The idle events of a client's connection that are due, at most as many as there are timers. -/
def clientIdle (g : Setup) (h : Handle) (s : State) : Nat → State
  | 0 => s
  | more + 1 =>
    match s.clientLink? h with
    | none => s
    | some link =>
      match link.monitor.due s.now s.clock.wall with
      | none => s
      | some (action, monitor) =>
        let s := s.setClientLink h { link with monitor }
        match action with
        | .heartbeat p => clientIdle g h (s.writeClient g h p) more
        | .missed _ => clientIdle g h s more
        | .close _ => s.endClient h .idle

/-! ### Nodes -/

def nodeFrame (g : Setup) (id : Nat) (s : State) (p : Packet) : State :=
  match s.nodeLink? id with
  | none => s
  | some nodeLink =>
    let (inbound, monitor) := nodeLink.link.monitor.onInbound s.now s.clock.wall p
    let s := s.updateNodeLink id fun link => { link with monitor }
    match inbound with
    | .reply answer =>
      match s.writeNode g id answer with
      | (some fault, s) => s.endLink id fault.ending
      | (none, s) => s
    | .absorbed _ => s
    | .deliver (.node p) => (s.reply g p).2
    | .deliver _ => s

def nodeOctets (g : Setup) (s : State) (id : Nat) (bytes : Octets) : State :=
  match s.nodeLink? id with
  | none => s
  | some nodeLink =>
    let drained := g.nodeCodec.drain (nodeLink.link.input ++ bytes)
    let s := s.updateNodeLink id fun link => { link with input := drained.rest }
    let s := drained.packets.foldl (nodeFrame g id) s
    match drained.error with
    | some e => s.endLink id (.framing e)
    | none => s

def nodeEnd (s : State) (id : Nat) : State :=
  match s.nodeLink? id with
  | none => s
  | some nodeLink =>
    s.endLink id (if nodeLink.link.input.isEmpty then .peerClosed else .framing .truncated)

def nodeIdle (g : Setup) (id : Nat) (s : State) : Nat → State
  | 0 => s
  | more + 1 =>
    match s.nodeLink? id with
    | none => s
    | some nodeLink =>
      match nodeLink.link.monitor.due s.now s.clock.wall with
      | none => s
      | some (action, monitor) =>
        let s := s.updateNodeLink id fun link => { link with monitor }
        match action with
        | .heartbeat p =>
          match s.writeNode g id p with
          | (some fault, s) => s.endLink id fault.ending
          | (none, s) => nodeIdle g id s more
        | .missed _ => nodeIdle g id s more
        | .close _ => s.endLink id .idle

/-! ### All of them -/

/-- Lets time pass for the idle timers. Each timer of a connection fires at most once. -/
def advance (g : Setup) (s : State) (milliseconds : Nat) : State :=
  let s := { s with now := s.now + milliseconds }
  let s := (List.range s.seats.length).foldl (fun s h => s.clientIdle g h 3) s
  s.links.foldl (fun s link => s.nodeIdle g link.id 3) s

/-- A client connects. It is let in unless the gateway stops or has no session id left for it. -/
def accept (g : Setup) (s : State) (peer : Option Text.SocketAddress) : Option Handle × State :=
  if s.stopping || !s.hasFreeId then (none, s)
  else
    let link := Link.start .gateway g.heartbeats s.now
    let (h, s) := s.openSession g peer (some link)
    (some h, s.record (.clientOpened h))

/-- Stops: the sessions are closed, their connections ended, and then the links to the nodes. -/
def shutdown (s : State) : State :=
  let s := { s with stopping := true }.closeSessions
  let s := (List.range s.seats.length).foldl (fun s h => s.endClient h .shutdown) s
  s.drain

end State

end SessionGateway.Gateway
