import SessionGateway.Proofs.Gateway.Hearing
import SessionGateway.Proofs.Gateway.LinkLedger

/-! What nodes receive. Links have numbers of their own, so the link that a frame is written on is the one
to the address that it is meant for, also where links were replaced. What the nodes at an address receive
over all their links are the frames that were forwarded there, in the order in which they were handled,
each under the id of its session and otherwise as its client sent it. -/
namespace SessionGateway.Gateway

open Wire Liveness

variable {g : Setup} {asked : Handle → SessionCall → Prop} {s s' : State} {h : Handle} {session : Session}

/-! ### Links -/

theorem submit_received {address : String} {id : Nat} {p : Packet} {place : String}
    (held : (id, place) ∈ s.ledger.held) (sound : s.ledger.Sound) (sent : (s.submit g address id p).1 = none) :
    (s.submit g address id p).2.history = .nodeReceived id place p :: s.history := by
  unfold State.submit at sent ⊢
  cases found : s.nodeLink? id with
  | none => exact absurd (List.mem_map_of_mem held) (nodeLink?_eq_none_iff.mp found)
  | some link =>
    have same : link.address = place := congrArg Prod.snd (sound.opened_inj
      (sound.mem_held.mp (nodeLink?_held found)).1 (sound.mem_held.mp held).1 rfl)
    simp only [found] at sent ⊢
    rcases writeNode_cases g s id p with ⟨fault, _, hw⟩ | ⟨gone, _⟩ | ⟨link', links, found', hw⟩
    · rw [hw] at sent
      cases fault <;> cases sent
    · cases gone.symm.trans found
    · obtain rfl := Option.some.inj (found.symm.trans found')
      rw [hw, ← same]

theorem forward_received (sound : s.ledger.Sound) (hs : s.session? h = some session) {address : String}
    {c : ClientPacket} (sent : (s.forward g address h c).1 = .ok ()) : ∃ link earlier,
      (s.forward g address h c).2.history = .nodeReceived link address (.node (c.wrap session.id)) :: earlier := by
  have reaches := linkFor_reaches g address 2 sound
  unfold State.forward at sent ⊢
  rw [hs] at sent ⊢
  dsimp only at sent ⊢
  rcases hl : s.linkFor g address 2 with ⟨e | id, s₁⟩ <;> rw [hl] at reaches <;> simp only [hl] at sent ⊢
  · cases sent
  · let asking : State := { s₁ with pending := s₁.pending.insert ⟨session.id, c.seq.toInt32⟩ }.record
      (.requested h ⟨session.id, c.seq.toInt32⟩)
    have same : asking.ledger = s₁.ledger := ledger_record (by trivial) _
    have held : (id, address) ∈ asking.ledger.held := same ▸ reaches.found rfl
    have written : (asking.submit g address id (.node (c.wrap session.id))).1 = none → _ :=
      submit_received held (same ▸ reaches.steps.sound sound)
    rcases hw : asking.submit g address id (.node (c.wrap session.id)) with ⟨_ | e, s₂⟩ <;>
      rw [hw] at written <;> simp only [asking] at hw <;> simp only [hw] at sent ⊢
    · exact ⟨id, _, written rfl⟩
    · cases sent

theorem handle_received (sound : s.ledger.Sound) (hs : s.session? h = some session) {c : ClientPacket}
    (business : isReserved c.msgId = false) {place : String} (outcome : (s.handle g h c).1 = .forwarded place) :
    ∃ link earlier, (s.handle g h c).2.history = .nodeReceived link place (.node (c.wrap session.id)) :: earlier := by
  obtain ⟨after, news, ready', ready, goes⟩ := handle_goes g hs business
  have id : after.id = session.id := by rw [ready.client]
  rw [← ready.ledger] at sound
  generalize (s.handle g h c).1 = result, (s.handle g h c).2 = s' at goes outcome
  cases goes with
  | stays _ unsent => exact absurd outcome (unsent place)
  | sent address sent =>
    obtain rfl := Outcome.forwarded.inj outcome
    exact id ▸ forward_received sound (ready.session?_eq hs) sent
  | failed => cases outcome

/-! ### Frames at nodes -/

/-- The frames that the nodes at an address received over all their links, but for heartbeats, latest
first. -/
def framesAt (address : String) (history : List Occurrence) : List Packet :=
  history.filterMap fun
    | .nodeReceived _ place p => if place = address ∧ isReserved p.msgId = false then some p else none
    | _ => none

structure Forwarded where
  session : Handle
  /-- The id of the session. -/
  id : SessionId
  packet : ClientPacket
  address : String
  deriving DecidableEq, Repr

def Forwarded.frame (f : Forwarded) : Packet := .node (f.packet.wrap f.id)

/-- What was handled with that outcome, latest first. -/
def forwards (history : List Occurrence) : List Forwarded :=
  history.filterMap fun
    | .handled h found c (.forwarded address) => some ⟨h, found.id, c, address⟩
    | _ => none

/-- What comes on record while no frame of a client is forwarded. -/
def Occurrence.Unforwarded : Occurrence → Prop
  | .handled _ _ _ outcome => ∀ address, outcome ≠ .forwarded address
  | .nodeReceived _ _ p => isReserved p.msgId = true
  | _ => True

theorem Occurrence.Incidental.unforwarded {o : Occurrence} (incidental : o.Incidental) : o.Unforwarded := by
  cases o <;> trivial

theorem Occurrence.Prepares.unforwarded {o : Occurrence} (prepares : o.Prepares) : o.Unforwarded :=
  prepares.incidental.unforwarded

theorem frames_unforwarded {news : List Occurrence} (unforwarded : ∀ o ∈ news, o.Unforwarded)
    (history : List Occurrence) : (∀ address, framesAt address (news ++ history) = framesAt address history) ∧
      forwards (news ++ history) = forwards history := by
  constructor
  · intro address
    have nothing : framesAt address news = [] := by
      apply List.filterMap_eq_nil_iff.mpr
      intro o member
      have reserved := unforwarded o member
      cases o with
      | nodeReceived link place p =>
        refine if_neg fun counted => ?_
        cases reserved.symm.trans counted.2
      | _ => rfl
    rw [framesAt, List.filterMap_append, ← framesAt, ← framesAt, nothing, List.nil_append]
  · have nothing : forwards news = [] := by
      apply List.filterMap_eq_nil_iff.mpr
      intro o member
      have unsent := unforwarded o member
      cases o with
      | handled h found c outcome =>
        cases outcome with
        | forwarded address => exact absurd rfl (unsent address)
        | _ => rfl
      | _ => rfl
    rw [forwards, List.filterMap_append, ← forwards, ← forwards, nothing, List.nil_append]

/-- What was received at each address is what was forwarded there, by sessions that bear those ids. -/
structure TransparencyInvariant (s : State) : Prop where
  registry : RegistryInvariant s
  links : s.ledger.Sound
  frames : ∀ address, framesAt address s.history =
    ((forwards s.history).filter (·.address = address)).map Forwarded.frame
  ids : ∀ f ∈ forwards s.history, ∃ b, s.roster[f.session]? = some b ∧ b.id = f.id

theorem unforwarded_preserves_transparency (inv : TransparencyInvariant s) (change : Registers s s')
    (links : s'.ledger.Sound) {news : List Occurrence} (history : s'.history = news ++ s.history)
    (unforwarded : ∀ o ∈ news, o.Unforwarded) : TransparencyInvariant s' := by
  obtain ⟨frames, sent⟩ := frames_unforwarded unforwarded s.history
  refine ⟨registers_preserves_invariant inv.registry change, links, ?_, ?_⟩
  · intro address
    rw [history, frames, sent]
    exact inv.frames address
  · intro f member
    rw [history, sent] at member
    obtain ⟨b, at_h, id⟩ := inv.ids f member
    obtain ⟨b', at_h', same⟩ := registers_id change at_h
    exact ⟨b', at_h', same.trans id⟩

theorem forwarded_preserves_transparency (inv : TransparencyInvariant s) (change : Registers s s')
    (links : s'.ledger.Sound) {found : Session} {b : Badge} {c : ClientPacket} (connected : s.Connected h b)
    (id : b.id = found.id) (business : isReserved c.msgId = false) {address : String} {link : Nat}
    {news : List Occurrence} (prepares : ∀ o ∈ news, o.Unforwarded)
    (history : s'.history = .handled h found c (.forwarded address) ::
      .nodeReceived link address (.node (c.wrap found.id)) :: (news ++ s.history)) :
    TransparencyInvariant s' := by
  obtain ⟨frames, sent⟩ := frames_unforwarded prepares s.history
  have forwarded : forwards s'.history = ⟨h, found.id, c, address⟩ :: forwards s.history := by
    rw [history, ← sent]
    rfl
  refine ⟨registers_preserves_invariant inv.registry change, links, ?_, ?_⟩
  · intro place
    have before := inv.frames place
    rw [← frames] at before
    rw [forwarded, history]
    by_cases here : address = place
    · simp [framesAt, here, Forwarded.frame, business, Packet.msgId, ClientPacket.wrap, ← before]
    · simp [framesAt, here, ← before]
  · intro f member
    rw [forwarded] at member
    rcases List.mem_cons.mp member with rfl | member
    · obtain ⟨b', at_h, same⟩ := registers_id change connected.1
      exact ⟨b', at_h, same.trans id⟩
    · obtain ⟨b', at_h, same⟩ := inv.ids f member
      obtain ⟨b'', at_h', same'⟩ := registers_id change at_h
      exact ⟨b'', at_h', same'.trans same⟩

theorem receive_preserves_transparency (inv : TransparencyInvariant s) {found : Session} {b : Badge}
    {c : ClientPacket} (hs : s.session? h = some found) (connected : s.Connected h b)
    (id : b.id = found.id) (business : isReserved c.msgId = false) :
    TransparencyInvariant (s.receive g h c).2 := by
  obtain ⟨outcome, after, traffic, news, received⟩ := receive_received g hs business
  have change := receive_registers (g := g) hs connected id business
  have handled : (s.receive g h c).2 =
      (s.handle g h c).2.record (.handled h found c (s.handle g h c).1) := by simp [State.receive, hs]
  have links : (s.receive g h c).2.ledger.Sound := (receive_steps g inv.links hs business).sound inv.links
  have prepares : ∀ o ∈ news, o.Unforwarded := fun o member => (received.news o member).unforwarded
  have history := received.history
  have entered := received.traffic
  generalize (s.receive g h c).2.pending = pending at entered
  cases entered with
  | unasked _ unsent =>
    have whole : (s.receive g h c).2.history = (.handled h found c outcome :: news) ++ s.history := history
    refine unforwarded_preserves_transparency inv change links whole ?_
    intro o member
    rcases List.mem_cons.mp member with rfl | member
    · exact unsent
    · exact prepares o member
  | refused ended named =>
    have whole : (s.receive g h c).2.history = (.handled h found c .forwardFailed ::
      (ended ++ .requested h ⟨found.id, c.seq.toInt32⟩ :: news)) ++ s.history := by
      rw [history]
      simp
    refine unforwarded_preserves_transparency inv change links whole ?_
    intro o member
    simp only [List.mem_cons, List.mem_append] at member
    rcases member with rfl | member | rfl | member
    · simp [Occurrence.Unforwarded]
    · obtain ⟨link, place, why, rfl⟩ := named o member
      trivial
    · trivial
    · exact prepares o member
  | sent address link place =>
    -- The record of the frame at the node is the one that the forward made.
    obtain rfl : place = address := by
      rw [handled] at history
      obtain ⟨same, earlier⟩ := List.cons.inj history
      obtain ⟨_, _, _, outcome⟩ := Occurrence.handled.injEq .. ▸ same
      obtain ⟨link', _, there⟩ := handle_received inv.links hs business outcome
      rw [there] at earlier
      obtain ⟨same', _⟩ := List.cons.inj earlier
      exact (Occurrence.nodeReceived.inj same').2.1.symm
    have entered : ∀ o ∈ .requested h ⟨found.id, c.seq.toInt32⟩ :: news, o.Unforwarded := by
      intro o member
      rcases List.mem_cons.mp member with rfl | member
      · trivial
      · exact prepares o member
    exact forwarded_preserves_transparency inv change links connected id business entered history

theorem move_preserves_transparency (s s' : State) (inv : TransparencyInvariant s)
    (move : Move g asked s s') : TransparencyInvariant s' := by
  have change := move_registers inv.registry move
  have links := (move_steps inv.links move).sound inv.links
  have passed (passes : Passes asked s s') : TransparencyInvariant s' := by
    obtain ⟨news, history, incidental⟩ := passes.history
    exact unforwarded_preserves_transparency inv change links history fun o member =>
      (incidental o member).unforwarded
  rcases move_cases inv.registry move with passes | ⟨h, found, b, c, hs, connected, id, business, rfl⟩ |
    ⟨p, business, rfl⟩
  · exact passed passes
  · exact receive_preserves_transparency inv hs connected id business
  · rcases reply_passes asked g s p with passes |
      ⟨h, session, calls, after, noted, queued, outcome, answered, result⟩
    · exact passed passes
    · have history : (s.reply g p).2.history =
          .dispatched p outcome :: (queued ++ noted) ++ s.history := by
        rw [result]
        simp
      refine unforwarded_preserves_transparency inv change links history ?_
      cases answered.queues <;> cases answered.inspects <;> simp [Occurrence.Unforwarded]

theorem initial_transparency (resolver : Selection.Resolver) (clock : SessionClock)
    (network : Network) : TransparencyInvariant (State.initial resolver clock network) where
  registry := initial_registry resolver clock network
  links := initial_sound resolver clock network
  frames := fun _ => rfl
  ids := by simp [State.initial, forwards]

theorem forwards_handled (h : Handle) (history : List Occurrence) :
    (((forwards history).filter (·.session = h)).map (·.packet)).Sublist (handledFrames h history) := by
  induction history with
  | nil => exact List.Sublist.refl _
  | cons o history ih =>
    cases o with
    | handled i found c outcome =>
      by_cases mine : i = h
      · have seen : handledFrames h (.handled i found c outcome :: history) =
            c :: handledFrames h history := by simp [handledFrames, mine]
        rw [seen]
        cases outcome with
        | forwarded address =>
          have sent : forwards (.handled i found c (.forwarded address) :: history) =
              ⟨i, found.id, c, address⟩ :: forwards history := rfl
          rw [sent, List.filter_cons_of_pos (by simpa using mine), List.map_cons]
          exact ih.cons_cons c
        | _ => exact ih.cons c
      · have seen : handledFrames h (.handled i found c outcome :: history) = handledFrames h history := by
          simp [handledFrames, mine]
        rw [seen]
        cases outcome with
        | forwarded address =>
          have sent : forwards (.handled i found c (.forwarded address) :: history) =
              ⟨i, found.id, c, address⟩ :: forwards history := rfl
          rw [sent, List.filter_cons_of_neg (by simpa using mine)]
          exact ih
        | _ => exact ih
    | _ => exact ih

/-- The node sees the client's frame as it was, under the id of its session. The magic number stays
behind, and extending the client's number does not alter it. -/
structure Relays (c : ClientPacket) (id : SessionId) (q : NodePacket) : Prop where
  session : q.session = id
  msgId : q.msgId = c.msgId
  body : q.body = c.body
  seq : q.seq.toInt = c.seq.toInt

theorem wrap_relays (c : ClientPacket) (id : SessionId) : Relays c id (c.wrap id) :=
  ⟨rfl, rfl, rfl, by simp [ClientPacket.wrap]⟩

/-- Requests pass unchanged. In every run the frames that the nodes at an address received, over all the
links there ever were to it, are one for one and in the order of handling the frames of clients that were
forwarded there, each relayed under the id of its session. What was forwarded for a client are frames that
it sent, in the order in which it sent them, and the frames of it that were handled are the first ones
of its stream, none left out. -/
theorem requests_transparent (g : Setup) (resolver : Selection.Resolver) (clock : SessionClock)
    (network : Network) (events : List Event) :
    let start := State.initial resolver clock network
    let s := start.run g events
    (∀ address, framesAt address s.history =
      ((forwards s.history).filter (·.address = address)).map Forwarded.frame) ∧
    (∀ f ∈ forwards s.history,
      (∃ session, s.session? f.session = some session ∧ session.id = f.id) ∧
      ∃ q, f.frame = .node q ∧ Relays f.packet f.id q) ∧
    ∀ h, (((forwards s.history).filter (·.session = h)).map (·.packet)).reverse.Sublist
        (g.frames (start.sent g h events)) ∧
      (handledFrames h s.history).reverse <+: g.frames (start.sent g h events) := by
  intro start s
  have inv : TransparencyInvariant s :=
    run_invariant_always move_preserves_transparency (initial_transparency resolver clock network) events
  refine ⟨inv.frames, ?_, ?_⟩
  · intro f member
    obtain ⟨b, at_h, id⟩ := inv.ids f member
    obtain ⟨session, hs, same⟩ := roster_session at_h
    exact ⟨⟨session, hs, same.trans id⟩, _, rfl, wrap_relays f.packet f.id⟩
  · intro h
    have heard := (run_hears (initial_hears g h resolver clock network) events).hears.handled
    rw [List.nil_append] at heard
    exact ⟨(forwards_handled h s.history).reverse.trans heard.sublist, heard⟩

end SessionGateway.Gateway
