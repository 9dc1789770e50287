import SessionGateway.Proofs.Gateway.Moves

/-! Deadlines on the clock. The timers of every connection watch for the periods of the gateway, and none of
their deadlines lies further ahead than a period from now. So if the clock goes on for the periods that begin
now, no sum that set a deadline ran beyond its end. -/
namespace SessionGateway.Gateway

open Wire Liveness Selection Admission

variable {g : Setup} {asked : Handle → SessionCall → Prop} {s s' : State} {h : Handle}
  {periods : Heartbeats}

/-- The timers of all connections watch for these periods, none of which began later than now. -/
structure State.Within (s : State) (periods : Heartbeats) : Prop where
  clients : ∀ seat ∈ s.seats, ∀ link, seat.link = some link → link.monitor.timers.Within periods s.now
  nodes : s.NodesWithin periods

theorem endLink_within (within : s.NodesWithin periods) (id : Nat) (why : Ending) :
    (s.endLink id why).NodesWithin periods := by
  unfold State.endLink
  split
  · exact within
  · exact fun link member => within link (List.mem_filter.mp member).1

theorem endLinkTo_within (within : s.NodesWithin periods) (address : String) :
    (s.endLinkTo address).2.NodesWithin periods := by
  have removed : ({ s with pool := (s.pool.remove address).2 } : State).NodesWithin periods := within
  unfold State.endLinkTo
  dsimp only
  split
  · exact removed
  · exact endLink_within removed _ _

theorem openLink_within (within : s.NodesWithin g.heartbeats) (address : String) :
    (s.openLink g address).2.NodesWithin g.heartbeats := by
  unfold State.openLink
  dsimp only
  split
  · exact within
  · let fresh : NodeLink := ⟨s.nextLink, address, .start .gatewayInternal g.heartbeats s.now⟩
    have opened : State.NodesWithin ({ s with nextLink := s.nextLink + 1, links := s.links ++ [fresh] }.record
        (.linkOpened s.nextLink address)) g.heartbeats := by
      intro link member
      rcases List.mem_append.mp member with old | new
      · exact within link old
      · rw [List.mem_singleton.mp new]
        exact IdleTimers.start_within g.heartbeats s.now
    split
    · exact endLink_within opened _ _
    · exact opened

theorem check_within (within : s.NodesWithin periods) (address : String) (slot id : Nat) :
    (s.check address slot id).2.NodesWithin periods := by
  unfold State.check
  split <;> exact within

theorem seek_within (within : s.NodesWithin g.heartbeats) (address : String) :
    (s.seek g address).2.NodesWithin g.heartbeats := by
  have entered : ({ s with pool := (s.pool.enter address).2 } : State).NodesWithin g.heartbeats := within
  have opened := openLink_within entered address
  unfold State.seek
  dsimp only
  split
  · exact check_within entered address _ _
  · split
    · rename_i failed
      rw [failed] at opened
      exact opened
    · rename_i id s' found
      rw [found] at opened
      have filled : ({ s' with pool := s'.pool.fill (s.pool.enter address).1.number id } : State).NodesWithin
          g.heartbeats := opened
      exact check_within filled address _ id

theorem linkFor_within (address : String) (looks : Nat) (within : s.NodesWithin g.heartbeats) :
    (s.linkFor g address looks).2.NodesWithin g.heartbeats := by
  induction looks generalizing s with
  | zero => exact within
  | succ looks ih =>
    have sought := seek_within within address
    unfold State.linkFor
    split
    · exact within
    · split <;> rename_i result <;> rw [result] at sought
      · exact sought
      · exact sought
      · exact ih sought

theorem writeNode_within (within : s.NodesWithin periods) (id : Nat) (p : Packet) :
    (s.writeNode g id p).2.NodesWithin periods := by
  unfold State.writeNode
  split
  · exact within
  · split
    · exact within
    · intro link member
      obtain ⟨old, there, rfl⟩ := List.mem_map.mp member
      split
      · exact (within old there).note .wrote
      · exact within old there

theorem submit_within (within : s.NodesWithin periods) (address : String) (id : Nat) (p : Packet) :
    (s.submit g address id p).2.NodesWithin periods := by
  have written := writeNode_within (g := g) within id p
  unfold State.submit
  split
  · exact within
  · split <;> rename_i result <;> rw [result] at written
    · exact written
    · exact written
    · exact endLink_within written _ _

theorem forward_within (within : s.NodesWithin g.heartbeats) (address : String) (p : ClientPacket) :
    (s.forward g address h p).2.NodesWithin g.heartbeats := by
  have reached := linkFor_within address 2 within
  unfold State.forward
  split
  · exact within
  · split
    · rename_i result
      rw [result] at reached
      exact reached
    · rename_i session _ _ id s₁ result
      rw [result] at reached
      have entered : State.NodesWithin ({ s₁ with
        pending := s₁.pending.insert ⟨session.id, p.seq.toInt32⟩ }.record
          (.requested h ⟨session.id, p.seq.toInt32⟩)) g.heartbeats := reached
      have submitted := submit_within (g := g) entered address id (.node (p.wrap session.id))
      dsimp only
      split <;> rename_i result <;> rw [result] at submitted <;> exact submitted

theorem Goes.nodesWithin {p : ClientPacket} {outcome : Outcome} (goes : Goes g s h p outcome s')
    (within : s.NodesWithin g.heartbeats) : s'.NodesWithin g.heartbeats := by
  cases goes with
  | stays => exact within
  | sent address => exact forward_within within address p
  | failed address => exact forward_within within address p

theorem receive_within (within : s.NodesWithin g.heartbeats) {session : Session}
    (hs : s.session? h = some session) {p : ClientPacket} (business : isReserved p.msgId = false) :
    (s.receive g h p).2.NodesWithin g.heartbeats := by
  obtain ⟨after, news, s₁, ready, goes⟩ := handle_goes g hs business
  have prepared : s₁.NodesWithin g.heartbeats := by
    rw [ready.state]
    exact within
  rw [receive_eq g hs]
  exact goes.nodesWithin prepared

/-! ### Moves and runs -/

theorem receive_now {session : Session} (hs : s.session? h = some session) {p : ClientPacket}
    (business : isReserved p.msgId = false) : (s.receive g h p).2.now = s.now := by
  obtain ⟨_, _, _, asked, _⟩ := handle_decided g hs business
  rw [receive_eq g hs, asked.state]
  rfl

theorem mem_modify {α : Type} {l : List α} {i : Nat} {f : α → α} {x : α} (member : x ∈ l.modify i f) :
    x ∈ l ∨ ∃ y, l[i]? = some y ∧ x = f y := by
  obtain ⟨j, found⟩ := List.getElem?_of_mem member
  rw [List.getElem?_modify] at found
  by_cases here : i = j
  · subst here
    obtain ⟨y, there, rfl⟩ := Option.map_eq_some_iff.mp found
    exact Or.inr ⟨y, there, by simp⟩
  · simp only [here, if_false, id_map'] at found
    exact Or.inl (List.mem_of_getElem? found)

theorem updateSeat_within (within : s.Within periods) (h : Handle) {f : Seat → Seat}
    (keeps : ∀ seat link, (f seat).link = some link → seat.link = some link) :
    (s.updateSeat h f).Within periods where
  clients := by
    intro seat member link connected
    rcases mem_modify member with old | ⟨seat, found, rfl⟩
    · exact within.clients seat old link connected
    · exact within.clients seat (List.mem_of_getElem? found) link (keeps seat link connected)
  nodes := within.nodes

theorem updateSession_within (within : s.Within periods) (h : Handle) (f : Session → Session) :
    (s.updateSession h f).Within periods :=
  updateSeat_within within h fun _ _ => id

theorem disconnect_within (within : s.Within periods) (h : Handle) : (s.disconnect h).Within periods := by
  unfold State.disconnect
  split
  · exact within
  · rename_i session _
    have closed := updateSession_within within h (·.close)
    have forgotten : State.Within { s.updateSession h (·.close) with
        pending := (s.pending.forget session.id).2 } periods := ⟨closed.clients, closed.nodes⟩
    unfold State.unlist
    dsimp only
    split
    · exact updateSeat_within forgotten _ fun _ _ => id
    · exact forgotten

theorem endClient_within (within : s.Within periods) (h : Handle) (why : Ending) :
    (s.endClient h why).Within periods := by
  unfold State.endClient
  split
  · exact within
  · have ended := updateSeat_within (disconnect_within within h) h
      (f := fun seat => { seat with session := seat.session.abandon, link := none }) (by simp)
    exact ⟨ended.clients, ended.nodes⟩

theorem openSession_within (within : s.Within g.heartbeats) (peer : Option Text.SocketAddress) :
    (s.openSession g peer (some (.start .gateway g.heartbeats s.now))).2.Within g.heartbeats := by
  refine ⟨fun seat member link connected => ?_, within.nodes⟩
  rcases List.mem_append.mp member with old | new
  · exact within.clients seat old link connected
  · rw [List.mem_singleton.mp new] at connected
    obtain rfl := Option.some.inj connected
    exact IdleTimers.start_within g.heartbeats s.now

theorem move_within (within : s.Within g.heartbeats) (move : Move g asked s s') :
    s'.Within g.heartbeats := by
  cases move with
  | waits now later =>
    refine ⟨fun seat member link connected => (within.clients seat member link connected).later later,
      fun link member => (within.nodes link member).later later⟩
  | reads | rewires | lists | configures | stops | drains | settles | shows =>
    exact ⟨within.clients, within.nodes⟩
  | asks | touches | empties => exact updateSession_within within _ _
  | closes =>
    refine ⟨fun seat member link connected => ?_, within.nodes⟩
    obtain ⟨old, there, rfl⟩ := List.mem_map.mp member
    refine within.clients old there link ?_
    split at connected <;> exact connected
  | opens peer link _ _ fresh =>
    subst fresh
    have opened := openSession_within within peer
    exact ⟨opened.clients, opened.nodes⟩
  | relinks h old link connected keeps =>
    refine ⟨fun seat member link' connected' => ?_, within.nodes⟩
    rcases mem_modify member with there | ⟨_, _, rfl⟩
    · exact within.clients seat there link' connected'
    · obtain rfl : link = link' := Option.some.inj connected'
      obtain ⟨seat, found, at_h⟩ := Option.bind_eq_some_iff.mp connected
      exact keeps _ (within.clients seat (List.mem_of_getElem? found) old at_h)
  | receives h link p connected business =>
    obtain ⟨seat, at_h, _⟩ := Option.bind_eq_some_iff.mp connected
    have hs : s.session? h = some seat.session := State.session?_eq_some.mpr ⟨seat, at_h, rfl⟩
    obtain ⟨_, after, _, _, received⟩ := receive_received g hs business
    have clients := (updateSession_within within h fun _ => after).clients
    refine ⟨?_, receive_within within.nodes hs business⟩
    rw [received.seats, receive_now hs business]
    exact clients
  | ends => exact endClient_within within _ _
  | relinksNode id f keeps =>
    refine ⟨within.clients, fun link member => ?_⟩
    obtain ⟨old, there, rfl⟩ := List.mem_map.mp member
    split
    · exact keeps _ within.nodes old there
    · exact within.nodes old there
  | replies p =>
    rcases reply_cases g s p with ⟨_, result⟩ | ⟨_, _, result⟩ | ⟨h', _, _, after, _, _, _, _, result⟩ <;>
      rw [result]
    · exact ⟨within.clients, within.nodes⟩
    · exact ⟨within.clients, within.nodes⟩
    · have updated := updateSession_within within h' fun _ => after
      exact ⟨updated.clients, updated.nodes⟩
  | beats id p =>
    refine ⟨?_, writeNode_within within.nodes id p⟩
    rcases writeNode_cases g s id p with ⟨_, _, result⟩ | ⟨_, result⟩ | ⟨_, _, _, result⟩ <;>
      rw [result] <;> exact within.clients
  | endsNode id why =>
    refine ⟨?_, endLink_within within.nodes id why⟩
    obtain ⟨_, rewired, _⟩ := endLink_rewires s id why
    rw [rewired.state]
    exact within.clients
  | leaves address =>
    refine ⟨?_, endLinkTo_within within.nodes address⟩
    obtain ⟨_, rewired⟩ := endLinkTo_rewires s address
    rw [rewired.state]
    exact within.clients

end SessionGateway.Gateway
