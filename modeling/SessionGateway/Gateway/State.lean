import SessionGateway.Gateway.Pending
import SessionGateway.Gateway.Pool
import SessionGateway.Gateway.Session
import SessionGateway.Liveness.Monitor
import SessionGateway.Selection.Resolver
import SessionGateway.Wire.Framing

/-! What a gateway holds: sessions and the client connections behind them, requests that wait, the links
to the nodes with their table by address, and a record of what happened. Sessions are known inside by a
handle, the number of sessions opened before, which unlike a session id is never used twice. -/
namespace SessionGateway.Gateway

open Wire Admission Liveness Selection

abbrev Handle := Nat

/-- What an attempt to reach an address meets. -/
inductive Reach where
  /-- Refused on this side, at once. -/
  | barred
  /-- Refused by the other side. -/
  | refusing
  /-- Never answered. -/
  | silent
  | accepting
  /-- Accepted, and ended by the other side before anyone can use it. -/
  | stillborn
  deriving DecidableEq, Repr

/-- What becomes of a frame on its way out. -/
inductive Delivery where
  | taken
  /-- The connection breaks under it. -/
  | failed (reason : String)
  /-- The other side turns out to be gone before the frame is looked at. -/
  | hungUp
  deriving DecidableEq, Repr

/-- What lies outside a gateway and decides what becomes of its connections. -/
structure Network where
  /-- What an attempt meets, by its number and the address. -/
  reach : Nat → String → Reach
  /-- What becomes of frames on a link. -/
  toNode : Nat → Delivery
  toClient : Handle → Delivery
  /-- Whether other things happen between the end of a link and its leaving the table. -/
  lingers : Nat → Bool
  /-- How many waiting frames still go out to a client whose session was closed. -/
  parting : Handle → Nat

/-- Connections take what is written on them, and their ends are noticed at once. -/
def Network.steady (reach : String → Reach) : Network :=
  ⟨fun _ => reach, fun _ => .taken, fun _ => .taken, fun _ => false, fun _ => 0⟩

/-- Why a frame was not written. -/
inductive Fault where
  /-- Before an octet was written. -/
  | refused (e : FrameError)
  | failed (reason : String)
  | hungUp
  deriving DecidableEq, Repr

/-- What stands in the way of a frame, if anything does. -/
def fault? (c : Codec) (p : Packet) : Delivery → Option Fault
  | .hungUp => some .hungUp
  | .taken =>
    match c.encode p with
    | .error e => some (.refused e)
    | .ok _ => none
  | .failed reason =>
    match c.encode p with
    | .error e => some (.refused e)
    | .ok _ => some (.failed reason)

inductive ForwardError where
  | invalidAddress (address : String)
  | connectFailed (address : String)
  | connectTimeout (address : String) (milliseconds : Nat)
  | unavailable (address : String)
  | write (address reason : String)
  | closed (address : String)
  deriving DecidableEq, Repr

/-- The cause of a failed connection is the network's and not told. -/
def ForwardError.message : ForwardError → String
  | invalidAddress address => s!"invalid node address '{address}'"
  | connectFailed address => s!"connect to {address} failed"
  | connectTimeout address milliseconds => s!"connect to {address} timed out after {milliseconds}ms"
  | unavailable address => s!"backend {address} is shutting down"
  | write address reason => s!"write to {address} failed: {reason}"
  | closed address => s!"backend connection to {address} closed"

def Fault.error (address : String) : Fault → ForwardError
  | refused e => .write address e.message
  | failed reason => .write address s!"I/O error: {reason}"
  | hungUp => .closed address

/-- What became of a client's frame. -/
inductive Outcome where
  | forwarded (address : String)
  | heartbeatAnswered
  | heartbeatIgnored
  | unauthenticated
  | rateLimited
  | noNode
  | forwardFailed
  deriving DecidableEq, Repr

def Outcome.isForwarded : Outcome → Bool
  | forwarded _ => true
  | _ => false

def Outcome.name : Outcome → String
  | forwarded _ => "Forwarded"
  | heartbeatAnswered => "HeartbeatAnswered"
  | heartbeatIgnored => "HeartbeatIgnored"
  | unauthenticated => "Unauthenticated"
  | rateLimited => "RateLimited"
  | noNode => "NoNode"
  | forwardFailed => "ForwardFailed"

inductive Dispatch where
  | delivered
  | noPending
  | sessionGone
  deriving DecidableEq, Repr

def Dispatch.name : Dispatch → String
  | delivered => "Delivered"
  | noPending => "NoPending"
  | sessionGone => "SessionGone"

/-- Why a connection or a link ended. -/
inductive Ending where
  | peerClosed
  /-- The peer sent what is no frame. -/
  | framing (e : FrameError)
  /-- A frame for the peer could not be written. -/
  | unsendable (e : FrameError)
  /-- The connection broke under a frame for the peer. -/
  | broken (reason : String)
  /-- The peer was silent for too long. -/
  | idle
  | sessionClosed
  | shutdown
  deriving DecidableEq, Repr

def Fault.ending : Fault → Ending
  | refused e => .unsendable e
  | failed reason => .broken reason
  | hungUp => .peerClosed

inductive Occurrence where
  | clientOpened (session : Handle)
  | clientReceived (session : Handle) (p : Packet)
  | clientEnded (session : Handle) (why : Ending)
  /-- A session without a node was given one. -/
  | bound (session : Handle) (node : String)
  /-- A frame of a client was handled. The session is as the frame found it. -/
  | handled (session : Handle) (found : Session) (p : ClientPacket) (outcome : Outcome)
  | linkOpened (link : Nat) (address : String)
  | nodeReceived (link : Nat) (address : String) (p : Packet)
  | linkEnded (link : Nat) (address : String) (why : Ending)
  /-- A request of a session was entered as waiting, whether or not its frame could then be written. -/
  | requested (session : Handle) (key : RequestKey)
  /-- The interceptor looked at a reply and asked this of the session. -/
  | inspected (session : Handle) (p : NodePacket) (calls : List SessionCall)
  /-- A reply was queued for the session's client. -/
  | delivered (session : Handle) (p : NodePacket)
  | dispatched (p : NodePacket) (result : Dispatch)
  deriving DecidableEq, Repr

/-- Whoever looks at correlated replies before they are delivered. What it asks of the session may
depend on everything that happened so far. -/
abbrev Interceptor := List Occurrence → Session → NodePacket → List SessionCall

/-- What is fixed for the life of a gateway. -/
structure Setup where
  frameLimit : Nat
  queueCapacity : Nat
  rate : Rate
  heartbeats : Heartbeats
  /-- Milliseconds. -/
  connectTimeout : Nat
  loginId : MessageId
  strategy : Strategy
  interceptor : Option Interceptor
  /-- Where random choices come from. -/
  draws : Nat → Nat

/-- One end of a framed connection: what arrived and is not decoded yet, and who watches over it. -/
structure Link where
  input : Octets
  monitor : Monitor
  deriving DecidableEq, Repr

def Link.start (layout : Layout) (periods : Heartbeats) (now : Time) : Link :=
  { input := [], monitor := .start layout periods now }

/-- A session with its place in the registry and the connection it came by, if there is one. -/
structure Seat where
  session : Session
  listed : Bool
  link : Option Link
  deriving DecidableEq, Repr

structure NodeLink where
  id : Nat
  address : String
  link : Link
  deriving DecidableEq, Repr

structure State where
  /-- What idle timers follow. -/
  now : Time
  clock : SessionClock
  /-- By handle. -/
  seats : List Seat
  nextSessionId : SessionId
  resolver : Resolver
  pending : Pending
  /-- The links that are open. -/
  links : List NodeLink
  pool : Pool
  nextLink : Nat
  /-- No further client is let in. -/
  stopping : Bool
  /-- No further node is connected to. -/
  draining : Bool
  network : Network
  /-- Latest first. -/
  history : List Occurrence

namespace State

def initial (resolver : Resolver) (clock : SessionClock) (network : Network) : State :=
  { now := 0, clock, seats := [], nextSessionId := 1, resolver, pending := .empty, links := []
    pool := .empty, nextLink := 1, stopping := false, draining := false, network, history := [] }

def record (s : State) (o : Occurrence) : State := { s with history := o :: s.history }

def session? (s : State) (h : Handle) : Option Session := (s.seats[h]?).map (·.session)

def updateSeat (s : State) (h : Handle) (f : Seat → Seat) : State :=
  { s with seats := s.seats.modify h f }

def updateSession (s : State) (h : Handle) (f : Session → Session) : State :=
  s.updateSeat h fun seat => { seat with session := f seat.session }

def clientLink? (s : State) (h : Handle) : Option Link := (s.seats[h]?).bind (·.link)

def setClientLink (s : State) (h : Handle) (link : Link) : State :=
  s.updateSeat h fun seat => { seat with link := some link }

def find? (s : State) (id : SessionId) : Option Handle :=
  s.seats.findIdx? fun seat => seat.listed && seat.session.id == id

theorem session?_eq_some {s : State} {h : Handle} {session : Session} :
    s.session? h = some session ↔ ∃ seat, s.seats[h]? = some seat ∧ seat.session = session := by
  simp [session?]

@[simp] theorem session?_updateSession (s : State) (h h' : Handle) (f : Session → Session) :
    (s.updateSession h f).session? h' =
      if h = h' then (s.session? h').map f else s.session? h' := by
  unfold session? updateSession updateSeat
  rw [List.getElem?_modify]
  cases s.seats[h']? <;> by_cases hh : h = h' <;> simp [hh]

@[simp] theorem clientLink?_updateSession (s : State) (h h' : Handle) (f : Session → Session) :
    (s.updateSession h f).clientLink? h' = s.clientLink? h' := by
  unfold clientLink? updateSession updateSeat
  rw [List.getElem?_modify]
  cases s.seats[h']? <;> by_cases hh : h = h' <;> simp [hh]

@[simp] theorem session?_setClientLink (s : State) (h h' : Handle) (link : Link) :
    (s.setClientLink h link).session? h' = s.session? h' := by
  unfold session? setClientLink updateSeat
  rw [List.getElem?_modify]
  cases s.seats[h']? <;> by_cases hh : h = h' <;> simp [hh]

theorem updateSession_congr {s : State} {h : Handle} {f f' : Session → Session}
    (same : ∀ session, s.session? h = some session → f session = f' session) :
    s.updateSession h f = s.updateSession h f' := by
  have seats : s.seats.modify h (fun seat => { seat with session := f seat.session }) =
      s.seats.modify h (fun seat => { seat with session := f' seat.session }) := by
    apply List.ext_getElem?
    intro i
    by_cases hi : h = i
    · subst i
      cases hseat : s.seats[h]? with
      | none => simp [hseat]
      | some seat => simp [hseat, same seat.session (by simp [session?, hseat])]
    · simp [hi]
  simp only [updateSession, updateSeat, seats]

theorem updateSession_const {s : State} {h : Handle} {session : Session}
    (hs : s.session? h = some session) (f : Session → Session) :
    s.updateSession h f = s.updateSession h fun _ => f session := by
  apply updateSession_congr
  intro session' hs'
  rw [Option.some.inj (hs'.symm.trans hs)]

theorem updateSession_id (s : State) (h : Handle) : s.updateSession h id = s := by
  have seats : s.seats.modify h (fun seat => { seat with session := id seat.session }) = s.seats :=
    List.modify_id h s.seats
  simp only [updateSession, updateSeat, seats]

theorem updateSession_self {s : State} {h : Handle} {session : Session}
    (hs : s.session? h = some session) : s.updateSession h (fun _ => session) = s :=
  (updateSession_const hs id).symm.trans (updateSession_id s h)

theorem updateSession_twice (s : State) (h : Handle) (f f' : Session → Session) :
    (s.updateSession h f).updateSession h f' = s.updateSession h (f' ∘ f) := by
  simp [updateSession, updateSeat, List.modify_modify_eq, Function.comp_def]

theorem clientLink?_setClientLink {s : State} {h : Handle} {old : Link} (link : Link)
    (connected : s.clientLink? h = some old) :
    (s.setClientLink h link).clientLink? h = some link := by
  unfold clientLink? at connected
  unfold clientLink? setClientLink updateSeat
  rw [List.getElem?_modify]
  cases hs : s.seats[h]? <;> simp_all

def sessionCount (s : State) : Nat := s.seats.countP (·.listed)

def nodeLink? (s : State) (id : Nat) : Option NodeLink := s.links.find? (·.id = id)

/-- The open link that stands in the table for an address. -/
def linkTo? (s : State) (address : String) : Option NodeLink := do
  let slot ← s.pool.slot? address
  let id ← slot.link
  s.nodeLink? id

def updateNodeLink (s : State) (id : Nat) (f : Link → Link) : State :=
  { s with links := s.links.map fun l => if l.id = id then { l with link := f l.link } else l }

def linkCount (s : State) : Nat :=
  s.pool.slots.countP fun e => e.2.link.any fun id => (s.nodeLink? id).isSome

@[simp] theorem nodeLink?_record (s : State) (o : Occurrence) (id : Nat) :
    (s.record o).nodeLink? id = s.nodeLink? id := rfl

theorem nodeLink?_updateNodeLink {s : State} {id : Nat} {link : NodeLink} (f : Link → Link)
    (connected : s.nodeLink? id = some link) :
    (s.updateNodeLink id f).nodeLink? id = some { link with link := f link.link } := by
  have named : link.id = id := by simpa using List.find?_some connected
  have sameId : (fun l : NodeLink => decide (l.id = id)) ∘
      (fun l => if l.id = id then { l with link := f l.link } else l) =
        fun l => decide (l.id = id) := by
    funext l
    by_cases hl : l.id = id <;> simp [hl]
  unfold nodeLink? at connected
  rw [nodeLink?, updateNodeLink, List.find?_map, sameId, connected, Option.map_some, if_pos named]

end State

/-- The id after `id` in the cycle of the positive ids. -/
def nextId (id : SessionId) : SessionId := if id = Int32.maxValue then 1 else id + 1

def idCount : Nat := 2147483647

def State.hasFreeId (s : State) : Bool := s.sessionCount < idCount

/-- The first id from `id` on that is free, and the id to go on from. Among more candidates than there
are ids in use one is free. -/
def freeId (used : SessionId → Bool) (id : SessionId) : Nat → SessionId × SessionId
  | 0 => (id, nextId id)
  | more + 1 => if used id then freeId used (nextId id) more else (id, nextId id)

def State.openSession (g : Setup) (s : State) (peer : Option Text.SocketAddress) (link : Option Link) :
    Handle × State :=
  let used := fun id => (s.find? id).isSome
  let (id, next) := freeId used s.nextSessionId s.sessionCount
  let session := Session.start id peer g.rate (max 1 g.queueCapacity) s.clock
  (s.seats.length,
    { s with seats := s.seats ++ [{ session, listed := true, link }], nextSessionId := next })

/-- Takes a session off the list; the session that had the id, if one had. -/
def State.unlist (s : State) (id : SessionId) : Option Session × State :=
  match s.find? id with
  | some h => (s.session? h, s.updateSeat h fun seat => { seat with listed := false })
  | none => (none, s)

def State.closeSessions (s : State) : State :=
  { s with seats := s.seats.map fun seat =>
      if seat.listed then { seat with session := seat.session.close } else seat }

end SessionGateway.Gateway
