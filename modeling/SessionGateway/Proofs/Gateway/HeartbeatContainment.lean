import SessionGateway.Proofs.Gateway.Isolation
import SessionGateway.Proofs.Gateway.Service

/-! Heartbeats stop where they arrive. A request is answered on the link it came by and a response is
answered by nothing; requests that wait, sessions, nodes and turns are no concern of theirs, whatever their
header says. Only where the answer cannot be written does more happen: the link ends. -/
namespace SessionGateway.Gateway

open Wire Liveness Liveness.Monitor

variable {g : Setup} {s : State} {h : Handle} {id : Nat}

/-! ### What is answered -/

def clientAnswer (wall : Heartbeat.WallClock) (c : ClientPacket) : ClientPacket :=
  { c with
    msgId := heartbeatResponseId
    body := int64Octets wall ++ int64Octets (Heartbeat.senderClock (.client c)) }

def nodeAnswer (wall : Heartbeat.WallClock) (q : NodePacket) : NodePacket :=
  { q with
    msgId := heartbeatResponseId
    body := int64Octets wall ++ int64Octets (Heartbeat.senderClock (.node q)) }

theorem clientAnswer_passes (wall : Heartbeat.WallClock) (c : ClientPacket) :
    g.clientCodec.Takes (.client (clientAnswer wall c)) ↔ 28 ≤ g.frameLimit := by
  have length : (Packet.client (clientAnswer wall c)).encodedLength = 28 :=
    Heartbeat.encodedLength_response (.client c) wall
  have layout : (Packet.client (clientAnswer wall c)).layout = g.clientCodec.layout := rfl
  rw [Codec.Takes, length, and_iff_right layout]
  rfl

theorem nodeAnswer_passes (wall : Heartbeat.WallClock) (q : NodePacket) :
    g.nodeCodec.Takes (.node (nodeAnswer wall q)) ↔ 32 ≤ g.frameLimit := by
  have length : (Packet.node (nodeAnswer wall q)).encodedLength = 32 :=
    Heartbeat.encodedLength_response (.node q) wall
  have layout : (Packet.node (nodeAnswer wall q)).layout = g.nodeCodec.layout := rfl
  rw [Codec.Takes, length, and_iff_right layout]
  rfl

theorem clientAnswer_clear_iff (wall : Heartbeat.WallClock) (c : ClientPacket) (delivery : Delivery) :
    fault? g.clientCodec (.client (clientAnswer wall c)) delivery = none ↔ delivery = .taken ∧ 28 ≤ g.frameLimit := by
  rw [fault?_eq_none_iff, clientAnswer_passes]

theorem nodeAnswer_clear_iff (wall : Heartbeat.WallClock) (q : NodePacket) (delivery : Delivery) :
    fault? g.nodeCodec (.node (nodeAnswer wall q)) delivery = none ↔ delivery = .taken ∧ 32 ≤ g.frameLimit := by
  rw [fault?_eq_none_iff, nodeAnswer_passes]

theorem onInbound_response (m : Monitor) (now : Time) (wall : Heartbeat.WallClock) {p : Packet}
    (response : p.msgId = heartbeatResponseId) :
    m.onInbound now wall p = (.absorbed (Heartbeat.latency p wall),
      { m with missed := m.missed.reset, timers := m.timers.onRead now }) := by
  have asks : ¬Heartbeat.isRequest p := by
    rw [Heartbeat.isRequest, response]
    decide
  have answers : Heartbeat.isResponse p := by simp [Heartbeat.isResponse, response]
  rw [onInbound, if_neg asks, if_pos answers]

theorem onInbound_answer {m m' : Monitor} {now : Time} {wall : Heartbeat.WallClock} {p q : Packet}
    (answered : m.onInbound now wall p = (.reply q, m')) (n : Monitor) (later : Time)
    (elsewhere : Heartbeat.WallClock) : ∃ latency, (n.onInbound later elsewhere q).1 = .absorbed latency := by
  have response : q.msgId = heartbeatResponseId := by
    unfold onInbound at answered
    split at answered
    · cases answered
      exact Heartbeat.response_msgId p wall
    split at answered <;> cases answered
  rw [onInbound_response n later elsewhere response]
  exact ⟨_, rfl⟩

/-! ### Clients -/

/-- A frame was heard of a client: its session was active just now, and its link knows. -/
def State.hear (s : State) (h : Handle) (link : Link) : State :=
  { s with seats := s.seats.modify h fun seat =>
      { seat with session := seat.session.touch s.clock, link := some link } }

theorem hear_eq (s : State) (h : Handle) (link : Link) :
    (s.updateSession h (·.touch s.clock)).setClientLink h link = s.hear h link := by
  simp [State.hear, State.updateSession, State.setClientLink, State.updateSeat, List.modify_modify_eq,
    Function.comp_def]

theorem hear_setClientLink (s : State) (h : Handle) (link link' : Link) :
    (s.hear h link).setClientLink h link' = s.hear h link' := by
  simp [State.hear, State.setClientLink, State.updateSeat, List.modify_modify_eq, Function.comp_def]

theorem clientLink?_hear {old : Link} (connected : s.clientLink? h = some old) (link : Link) :
    (s.hear h link).clientLink? h = some link := by
  have touched : (s.updateSession h (·.touch s.clock)).clientLink? h = some old := by
    rw [State.clientLink?_updateSession]
    exact connected
  rw [← hear_eq]
  exact State.clientLink?_setClientLink link touched

theorem hear_registry {old : Link} (connected : s.clientLink? h = some old) (inv : RegistryInvariant s)
    (link : Link) : RegistryInvariant (s.hear h link) := by
  have touched : (s.updateSession h (·.touch s.clock)).clientLink? h = some old := by
    rw [State.clientLink?_updateSession]
    exact connected
  have roster : (s.hear h link).roster = s.roster := by
    rw [← hear_eq]
    exact (roster_setClientLink touched link).trans (roster_updateSession fun _ _ => rfl)
  exact registers_preserves_invariant inv (.keeps roster rfl fun _ hk => Or.inl hk)

section Connected

variable {link : Link} (connected : s.clientLink? h = some link) {c : ClientPacket}

include connected

theorem clientFrame_response (response : (Packet.client c).msgId = heartbeatResponseId) :
    ∃ link', s.clientFrame g h (.client c) = s.hear h link' := by
  simp only [State.clientFrame, connected, onInbound_response _ _ _ response, hear_eq]
  exact ⟨_, rfl⟩

theorem clientFrame_asked (request : c.msgId = heartbeatRequestId) : ∃ link',
    s.clientFrame g h (.client c) =
      (s.hear h link').writeClient g h (.client (clientAnswer s.clock.wall c)) := by
  have asks : Heartbeat.isRequest (.client c) := by simp [Heartbeat.isRequest, Packet.msgId, request]
  simp only [State.clientFrame, connected, onInbound_request _ _ _ asks, hear_eq]
  exact ⟨_, rfl⟩

theorem clientFrame_answered (request : c.msgId = heartbeatRequestId)
    (clear : fault? g.clientCodec (.client (clientAnswer s.clock.wall c)) (s.network.toClient h) = none) : ∃ link',
    s.clientFrame g h (.client c) =
      (s.hear h link').record (.clientReceived h (.client (clientAnswer s.clock.wall c))) := by
  obtain ⟨heard, result⟩ := clientFrame_asked (g := g) connected request
  have network : (s.hear h heard).network = s.network := rfl
  refine ⟨{ heard with monitor := heard.monitor.onOutbound s.now }, ?_⟩
  rw [result, State.writeClient, clientLink?_hear connected]
  simp only [network, clear, hear_setClientLink]
  rfl

theorem clientFrame_unanswered (inv : RegistryInvariant s) (request : c.msgId = heartbeatRequestId)
    {fault : Fault}
    (met : fault? g.clientCodec (.client (clientAnswer s.clock.wall c)) (s.network.toClient h) = some fault) :
    ∃ session, s.session? h = some session ∧ s.clientFrame g h (.client c) = { s with
      seats := s.seats.modify h fun seat =>
        { session := (seat.session.touch s.clock).close.abandon, listed := false, link := none }
      pending := (s.pending.forget session.id).2
      history := .clientEnded h fault.ending :: s.history } := by
  obtain ⟨heard, result⟩ := clientFrame_asked (g := g) connected request
  have linked := clientLink?_hear connected heard
  obtain ⟨seat, at_h, _, ended⟩ := endClient_eq (hear_registry connected inv heard) linked
    fault.ending
  obtain ⟨was, at_was, rfl⟩ : ∃ was, s.seats[h]? = some was ∧
      { was with session := was.session.touch s.clock, link := some heard } = seat := by
    simpa [State.hear] using at_h
  refine ⟨was.session, State.session?_eq_some.mpr ⟨was, at_was, rfl⟩, ?_⟩
  rw [result, writeClient_fails linked met, ended]
  simp [State.hear, Session.touch, List.modify_modify_eq, Function.comp_def]

theorem clientFrame_heartbeat_others (inv : RegistryInvariant s) (reserved : isReserved c.msgId = true)
    {session : Session} (hs : s.session? h = some session) :
    (∀ h', h' ≠ h → (s.clientFrame g h (.client c)).seats[h']? = s.seats[h']?) ∧
    ∀ k, k.session ≠ session.id →
      (k ∈ (s.clientFrame g h (.client c)).pending.keys ↔ k ∈ s.pending.keys) := by
  have heard (link' : Link) (h' : Handle) (other : h' ≠ h) :
      (s.hear h link').seats[h']? = s.seats[h']? := by
    simp [State.hear, other.symm]
  simp only [isReserved, Bool.or_eq_true, beq_iff_eq] at reserved
  rcases reserved with request | response
  · cases met : fault? g.clientCodec (.client (clientAnswer s.clock.wall c)) (s.network.toClient h) with
    | none =>
      obtain ⟨link', result⟩ := clientFrame_answered connected request met
      rw [result]
      exact ⟨heard link', fun _ _ => Iff.rfl⟩
    | some fault =>
      obtain ⟨found, hfound, result⟩ := clientFrame_unanswered connected inv request met
      obtain rfl := Option.some.inj (hs.symm.trans hfound)
      rw [result]
      refine ⟨fun h' other => ?_, fun k other => ?_⟩
      · simp [other.symm]
      · simp [other]
  · obtain ⟨link', result⟩ := clientFrame_response (g := g) (c := c) connected response
    rw [result]
    exact ⟨heard link', fun _ _ => Iff.rfl⟩

theorem connected_listed (inv : RegistryInvariant s) {session : Session}
    (hs : s.session? h = some session) : s.Listed h session.id := by
  obtain ⟨b, badge⟩ := clientLink?_badge.mp ⟨link, connected⟩
  obtain ⟨found, hfound, same⟩ := roster_session badge.1
  obtain rfl := Option.some.inj (hs.symm.trans hfound)
  exact find?_spec (inv.find?_iff.mpr ⟨b, badge, same.symm⟩)

end Connected

/-! ### Nodes -/

theorem updateNodeLink_twice (s : State) (id : Nat) (f f' : Link → Link) :
    (s.updateNodeLink id f).updateNodeLink id f' = s.updateNodeLink id (f' ∘ f) := by
  simp only [State.updateNodeLink, List.map_map]
  congr 1
  apply List.map_congr_left
  intro link _
  by_cases here : link.id = id <;> simp [here]

theorem updateNodeLink_others (s : State) (id : Nat) (f : Link → Link) :
    (s.updateNodeLink id f).links.filter (·.id ≠ id) = s.links.filter (·.id ≠ id) := by
  simp only [State.updateNodeLink]
  induction s.links with
  | nil => rfl
  | cons link links ih =>
    rw [List.map_cons]
    by_cases here : link.id = id
    · rw [if_pos here, List.filter_cons_of_neg (by simp [here]), List.filter_cons_of_neg (by simp [here]), ih]
    · rw [if_neg here, List.filter_cons_of_pos (by simp [here]), List.filter_cons_of_pos (by simp [here]), ih]

section Connected

variable {nodeLink : NodeLink} (connected : s.nodeLink? id = some nodeLink) {q : NodePacket}

include connected

theorem nodeFrame_response (response : (Packet.node q).msgId = heartbeatResponseId) :
    ∃ f, s.nodeFrame g id (.node q) = s.updateNodeLink id f := by
  simp only [State.nodeFrame, connected, onInbound_response _ _ _ response]
  exact ⟨_, rfl⟩

theorem nodeFrame_asked (request : q.msgId = heartbeatRequestId) : ∃ f : Link → Link,
    s.nodeFrame g id (.node q) =
      match (s.updateNodeLink id f).writeNode g id (.node (nodeAnswer s.clock.wall q)) with
      | (some fault, s) => s.endLink id fault.ending
      | (none, s) => s := by
  have asks : Heartbeat.isRequest (.node q) := by simp [Heartbeat.isRequest, Packet.msgId, request]
  simp only [State.nodeFrame, connected, onInbound_request _ _ _ asks]
  exact ⟨_, rfl⟩

theorem nodeFrame_answered (request : q.msgId = heartbeatRequestId)
    (clear : fault? g.nodeCodec (.node (nodeAnswer s.clock.wall q)) (s.network.toNode id) = none) : ∃ f,
    s.nodeFrame g id (.node q) = (s.updateNodeLink id f).record
      (.nodeReceived id nodeLink.address (.node (nodeAnswer s.clock.wall q))) := by
  obtain ⟨f, result⟩ := nodeFrame_asked (g := g) connected request
  have heard := State.nodeLink?_updateNodeLink f connected
  have network : (s.updateNodeLink id f).network = s.network := rfl
  rw [result]
  simp only [State.writeNode, heard, network, clear]
  exact ⟨_, congrArg (State.record · _) (updateNodeLink_twice s id f _)⟩

theorem nodeFrame_unanswered (request : q.msgId = heartbeatRequestId)
    {fault : Fault}
    (met : fault? g.nodeCodec (.node (nodeAnswer s.clock.wall q)) (s.network.toNode id) = some fault) :
    s.nodeFrame g id (.node q) = { s with
      links := s.links.filter (·.id ≠ id)
      pool := s.pool.leave (s.network.lingers id) nodeLink.address id
      history := .linkEnded id nodeLink.address fault.ending :: s.history } := by
  obtain ⟨f, result⟩ := nodeFrame_asked (g := g) connected request
  have heard := State.nodeLink?_updateNodeLink f connected
  have network : (s.updateNodeLink id f).network = s.network := rfl
  rw [result]
  simp only [State.writeNode, heard, network, met, State.endLink]
  rw [updateNodeLink_others]
  rfl

end Connected

/-! ### Runs -/

/-- A heartbeat of a client or of a node stays on its link, whatever its header says and whatever waits.
A response is answered by nothing. A request is answered by one response under its own header, and then
nothing else has changed but what the link and the session know of their peer's life. If the answer meets a
fault, a node loses its link and a client its connection: then the session is closed and what it waits
for is dropped, and still nothing is written and nobody else is touched. The answer itself is absorbed by
whoever receives it. A session that is handed a heartbeat past its link queues the answer if it can. -/
theorem heartbeats_contained (g : Setup) (resolver : Selection.Resolver) (clock : SessionClock)
    (network : Network) (s : State)
    (reachable : Moves g (fun _ _ => True) (.initial resolver clock network) s) :
    (∀ h link c, s.clientLink? h = some link → isReserved c.msgId = true →
      let answer := clientAnswer s.clock.wall c
      let t := s.clientFrame g h (.client c)
      let met := fault? g.clientCodec (.client answer) (s.network.toClient h)
      (met = none ↔ s.network.toClient h = .taken ∧ 28 ≤ g.frameLimit) ∧
      (c.msgId = heartbeatResponseId → ∃ link', t = s.hear h link') ∧
      (c.msgId = heartbeatRequestId → met = none →
        ∃ link', t = (s.hear h link').record (.clientReceived h (.client answer))) ∧
      (c.msgId = heartbeatRequestId → ∀ fault, met = some fault → ∃ session, s.session? h = some session ∧
        t = { s with
          seats := s.seats.modify h fun seat =>
            { session := (seat.session.touch s.clock).close.abandon, listed := false, link := none }
          pending := (s.pending.forget session.id).2
          history := .clientEnded h fault.ending :: s.history }) ∧
      ∀ h' id, h' ≠ h → s.Listed h' id → Undisturbed h' id s t) ∧
    (∀ id nodeLink q, s.nodeLink? id = some nodeLink → isReserved q.msgId = true →
      let answer := nodeAnswer s.clock.wall q
      let t := s.nodeFrame g id (.node q)
      let met := fault? g.nodeCodec (.node answer) (s.network.toNode id)
      (met = none ↔ s.network.toNode id = .taken ∧ 32 ≤ g.frameLimit) ∧
      (q.msgId = heartbeatResponseId → ∃ f, t = s.updateNodeLink id f) ∧
      (q.msgId = heartbeatRequestId → met = none →
        ∃ f, t = (s.updateNodeLink id f).record (.nodeReceived id nodeLink.address (.node answer))) ∧
      (q.msgId = heartbeatRequestId → ∀ fault, met = some fault →
        t = { s with
          links := s.links.filter (·.id ≠ id)
          pool := s.pool.leave (s.network.lingers id) nodeLink.address id
          history := .linkEnded id nodeLink.address fault.ending :: s.history })) ∧
    (∀ (m n : Monitor) now wall later elsewhere p q m', m.onInbound now wall p = (.reply q, m') →
      ∃ latency, (n.onInbound later elsewhere q).1 = .absorbed latency) ∧
    (∀ h found c, s.session? h = some found → isReserved c.msgId = true → ∃ outcome,
      (s.receive g h c).2 = (s.updateSession h fun session =>
        { session.touch s.clock with
          queue := if c.msgId = heartbeatRequestId ∧ found.isActive ∧ found.queue.length < found.capacity
            then found.queue ++ [clientAnswer s.clock.wall c]
            else found.queue }).record (.handled h found c outcome)) := by
  have inv : RegistryInvariant s :=
    moves_invariant move_preserves_registry reachable (initial_registry resolver clock network)
  have apart : Apart s := reachable_apart (.moves reachable .start)
  refine ⟨?_, ?_, ?_, ?_⟩
  · intro h link c connected reserved answer t met
    refine ⟨clientAnswer_clear_iff _ _ _, clientFrame_response connected, clientFrame_answered connected,
      fun request _ => clientFrame_unanswered connected inv request, ?_⟩
    intro h' id other listed
    obtain ⟨session, hs⟩ := session_of_link connected
    obtain ⟨seats, waiting⟩ := clientFrame_heartbeat_others (g := g) connected inv reserved hs
    refine undisturbed_of_seat apart ?_ listed (seats h' other) ?_
    · exact reachable_apart (.moves (clientFrame_moves s h (.client c)).moves (.moves reachable .start))
    · intro k same
      apply waiting k
      intro own
      have mine : s.Listed h id := own.symm.trans same ▸ connected_listed connected inv hs
      exact other (apart.distinct h' h id listed mine)
  · intro id nodeLink q connected reserved answer t met
    exact ⟨nodeAnswer_clear_iff _ _ _, nodeFrame_response connected, nodeFrame_answered connected,
      fun request _ => nodeFrame_unanswered connected request⟩
  · intro m n now wall later elsewhere p q m' answered
    exact onInbound_answer answered n later elsewhere
  · intro h found c hs reserved
    exact receive_heartbeat g hs reserved rfl

namespace Beating

/-! Heartbeats that bear the numbers of requests that wait. -/

def ping : ClientPacket := { msgId := heartbeatRequestId, seq := 1, magic := 0, body := [] }

def probe : NodePacket := { session := 1, msgId := heartbeatRequestId, seq := 1, body := [] }

/-- A gateway whose frames may have 27 octets: room for a login, but not for the answer to a heartbeat. -/
def narrow : Setup := { Guarded.setup with frameLimit := 27 }

def waiting : State := Neighbours.start.run narrow
  [.addNode "a" "n:1", .clientConnects none, .clientSends 0 Neighbours.login]

/-- A gateway whose sessions can have one frame waiting. -/
def cramped : Setup := { Guarded.setup with queueCapacity := 1 }

def full : State :=
  (Neighbours.start.openSession cramped none none).2.updateSession 0
    (·.perform Neighbours.start.clock (.send Guarded.business))

end Beating

theorem heartbeats_pass_by_waiting :
    Neighbours.both.pending.keys = [⟨2, 1⟩, ⟨1, 1⟩] ∧
    (Neighbours.both.clientFrame Guarded.setup 0 (.client Beating.ping)).pending =
      Neighbours.both.pending ∧
    (Neighbours.both.clientFrame Guarded.setup 0 (.client Beating.ping)).history =
      .clientReceived 0 (.client (clientAnswer 0 Beating.ping)) :: Neighbours.both.history ∧
    (Neighbours.both.nodeFrame Guarded.setup 1 (.node Beating.probe)).seats = Neighbours.both.seats ∧
    (Neighbours.both.nodeFrame Guarded.setup 1 (.node Beating.probe)).pending =
      Neighbours.both.pending := by
  have reachable : Moves Guarded.setup (fun _ _ => True) Neighbours.start Neighbours.both :=
    run_moves _ _ fun _ _ _ => trivial
  obtain ⟨clients, nodes, _⟩ := heartbeats_contained Guarded.setup _ _ _ _ reachable
  have linked : (Neighbours.both.clientLink? 0).isSome := by decide +kernel
  obtain ⟨link, connected⟩ := Option.isSome_iff_exists.mp linked
  obtain ⟨clear, _, answered, _⟩ := clients 0 link Beating.ping connected rfl
  have reads : Neighbours.both.network.toClient 0 = .taken := by decide +kernel
  obtain ⟨_, client⟩ := answered rfl (clear.mpr ⟨reads, by decide⟩)
  have led : (Neighbours.both.nodeLink? 1).isSome := by decide +kernel
  obtain ⟨nodeLink, opened⟩ := Option.isSome_iff_exists.mp led
  obtain ⟨clear, _, replied, _⟩ := nodes 1 nodeLink Beating.probe opened rfl
  have listens : Neighbours.both.network.toNode 1 = .taken := by decide +kernel
  obtain ⟨_, node⟩ := replied rfl (clear.mpr ⟨listens, by decide⟩)
  have wall : Neighbours.both.clock.wall = 0 := by decide +kernel
  refine ⟨by decide +kernel, ?_, ?_, ?_, ?_⟩
  · rw [client]
    rfl
  · rw [client, wall]
    rfl
  · rw [node]
    rfl
  · rw [node]
    rfl

/-- A heartbeat that cannot be answered ends its session, and the session's requests wait no longer. One
that a session is handed past its link may find the queue full, and is not answered at all. -/
theorem heartbeats_not_always_contained :
    (¬∀ (g : Setup) (resolver : Selection.Resolver) (clock : SessionClock) (network : Network)
      (events : List Event) h link c,
      let s := (State.initial resolver clock network).run g events
      s.clientLink? h = some link → isReserved c.msgId = true →
        (s.clientFrame g h (.client c)).pending = s.pending ∧
        ((s.clientFrame g h (.client c)).session? h).map (·.phase) = (s.session? h).map (·.phase)) ∧
    ¬∀ (g : Setup) (resolver : Selection.Resolver) (clock : SessionClock) (network : Network)
      (s : State) h found c, Reachable g (.initial resolver clock network) s →
      s.session? h = some found → c.msgId = heartbeatRequestId → 28 ≤ g.frameLimit →
        ((s.receive g h c).2.session? h).map (·.queue) =
          some (found.queue ++ [clientAnswer s.clock.wall c]) := by
  constructor
  · intro claim
    have linked : (Beating.waiting.clientLink? 0).isSome := by decide +kernel
    obtain ⟨link, connected⟩ := Option.isSome_iff_exists.mp linked
    obtain ⟨kept, _⟩ := claim Beating.narrow _ _ _ _ 0 link Beating.ping connected rfl
    have before : Beating.waiting.pending.keys = [⟨1, 1⟩] := by decide +kernel
    have after : (Beating.waiting.clientFrame Beating.narrow 0 (.client Beating.ping)).pending.keys = [] := by
      decide +kernel
    have gone := after.symm.trans ((congrArg Pending.keys kept).trans before)
    cases gone
  · intro claim
    have opened : Reachable Beating.cramped Neighbours.start
        (Neighbours.start.openSession Beating.cramped none none).2 :=
      .opens none none .start (by decide +kernel)
    have full : Reachable Beating.cramped Neighbours.start Beating.full :=
      .operation 0 1 opened (.asks (.send Guarded.business))
    have seen : (Beating.full.session? 0).map (·.queue) = some [Guarded.business] := by decide +kernel
    obtain ⟨found, hs, queue⟩ := Option.map_eq_some_iff.mp seen
    have answered := claim Beating.cramped _ _ _ Beating.full 0 found Beating.ping full hs rfl (by decide)
    have still : ((Beating.full.receive Beating.cramped 0 Beating.ping).2.session? 0).map (·.queue) =
        some [Guarded.business] := by decide +kernel
    rw [still, queue] at answered
    cases answered

end SessionGateway.Gateway
