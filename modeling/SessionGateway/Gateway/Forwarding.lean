import SessionGateway.Gateway.State
import SessionGateway.Text.SocketAddress

/-! The way to the nodes. One link to an address serves all sessions that are routed there; it is opened
when it is first needed and reopened when it is next needed after it ended. A link that is found dead in
the table is replaced once. -/
namespace SessionGateway.Gateway

open Wire Liveness

def Setup.nodeCodec (g : Setup) : Codec := ⟨.gatewayInternal, g.frameLimit⟩

namespace State

/-- Ends a link. Its place in the table goes away at once or later. -/
def endLink (s : State) (id : Nat) (why : Ending) : State :=
  match s.nodeLink? id with
  | none => s
  | some link =>
    let s := { s with links := s.links.filter (·.id ≠ id) }.record (.linkEnded id link.address why)
    { s with pool := s.pool.leave (s.network.lingers id) link.address id }

def settle (s : State) : State := { s with pool := s.pool.settle }

def obstacle? (g : Setup) (address : String) (reach : Reach) : Option ForwardError :=
  if !Text.isHostPort address then some (.invalidAddress address)
  else if reach = .barred then some (.connectFailed address)
  else if g.connectTimeout = 0 then some (.connectTimeout address 0)
  else
    match reach with
    | .accepting | .stillborn => none
    | .silent => some (.connectTimeout address g.connectTimeout)
    | .barred | .refusing => some (.connectFailed address)

/-- A new link to an address. Every attempt uses up a link number. -/
def openLink (g : Setup) (s : State) (address : String) : Except ForwardError Nat × State :=
  let id := s.nextLink
  let reach := s.network.reach id address
  let s := { s with nextLink := id + 1 }
  match obstacle? g address reach with
  | some e => (.error e, s)
  | none =>
    let link : NodeLink := { id, address, link := .start .gatewayInternal g.heartbeats s.now }
    let s := { s with links := s.links ++ [link] }.record (.linkOpened id address)
    (.ok id, if reach = .stillborn then s.endLink id .peerClosed else s)

def strike (s : State) (address : String) (slot : Nat) : State :=
  { s with pool := s.pool.strike address slot }

/-- The link that stands at a place, if it is open; if not, the place is struck out. -/
def check (s : State) (address : String) (slot id : Nat) : Except ForwardError (Option Nat) × State :=
  if (s.nodeLink? id).isSome then (.ok (some id), s) else (.ok none, s.strike address slot)

/-- One look for an open link to an address. It is opened if its place in the table is new. -/
def seek (g : Setup) (s : State) (address : String) : Except ForwardError (Option Nat) × State :=
  let (slot, pool) := s.pool.enter address
  let s := { s with pool }
  match slot.link with
  | some id => s.check address slot.number id
  | none =>
    match s.openLink g address with
    | (.error e, s) => (.error e, s.strike address slot.number)
    | (.ok id, s) => { s with pool := s.pool.fill slot.number id }.check address slot.number id

/-- The link to an address, after so many looks at most. -/
def linkFor (g : Setup) (address : String) (s : State) : (looks : Nat) → Except ForwardError Nat × State
  | 0 => (.error (.closed address), s)
  | more + 1 =>
    if s.draining then (.error (.unavailable address), s)
    else
      match s.seek g address with
      | (.error e, s) => (.error e, s)
      | (.ok (some id), s) => (.ok id, s)
      | (.ok none, s) => linkFor g address s more

def writeNode (g : Setup) (s : State) (id : Nat) (p : Packet) : Option Fault × State :=
  match s.nodeLink? id with
  | none => (none, s)
  | some link =>
    match fault? g.nodeCodec p (s.network.toNode id) with
    | some fault => (some fault, s)
    | none =>
      let s := s.updateNodeLink id fun l => { l with monitor := l.monitor.onOutbound s.now }
      (none, s.record (.nodeReceived id link.address p))

/-- Writes a frame of a session on the link to an address. A refused frame does the link no harm; any
other fault ends it. -/
def submit (g : Setup) (s : State) (address : String) (id : Nat) (p : Packet) :
    Option ForwardError × State :=
  match s.nodeLink? id with
  | none => (some (.closed address), s)
  | some _ =>
    match s.writeNode g id p with
    | (none, s) => (none, s)
    | (some (.refused e), s) => (some (Fault.error address (.refused e)), s)
    | (some fault, s) => (some (fault.error address), s.endLink id fault.ending)

/-- Ends the link to an address. Tells whether there was one. -/
def endLinkTo (s : State) (address : String) : Bool × State :=
  let (slot, pool) := s.pool.remove address
  let s := { s with pool }
  match slot.bind (·.link) with
  | none => (false, s)
  | some id => (true, s.endLink id .shutdown)

/-- Ends all links in the table and opens no further one. -/
def drain (s : State) : State :=
  let s := { s with draining := true }
  s.pool.slots.foldl (fun s e => (s.endLinkTo e.1).2) s

/-- Sends a client's frame to a node and waits for the reply. The request is entered as waiting before
the frame is written, and its key is struck out again if the frame is not. -/
def forward (g : Setup) (s : State) (address : String) (h : Handle) (p : ClientPacket) :
    Except ForwardError Unit × State :=
  match s.session? h with
  | none => (.error (.unavailable address), s)
  | some session =>
    match s.linkFor g address 2 with
    | (.error e, s) => (.error e, s)
    | (.ok id, s) =>
      let key : RequestKey := ⟨session.id, p.seq.toInt32⟩
      let s := { s with pending := s.pending.insert key }.record (.requested h key)
      match s.submit g address id (.node (p.wrap session.id)) with
      | (some e, s) => (.error e, { s with pending := (s.pending.take key).2 })
      | (none, s) => (.ok (), s.updateSession h (·.touch s.clock))

end State

end SessionGateway.Gateway
