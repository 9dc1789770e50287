import SessionGateway.Proofs.Gateway.Gate

/-! Sessions among each other. They share the list, the requests that wait, the links and the turns, and
still whatever is done for one leaves the others as they are: what is done is done to the seat that its id
leads to and to the requests under its id, and no other listed session has that id. -/
namespace SessionGateway.Gateway

open Wire

variable {g : Setup} {asked : Handle → SessionCall → Prop} {s s' s'' : State} {a h : Handle}
  {id own : SessionId}

/-! ### Who is listed -/

def State.Listed (s : State) (h : Handle) (id : SessionId) : Prop :=
  ∃ seat, s.seats[h]? = some seat ∧ seat.listed = true ∧ seat.session.id = id

theorem State.Listed.exists_session (listed : s.Listed h id) :
    ∃ session, s.session? h = some session ∧ session.id = id := by
  obtain ⟨seat, at_h, _, same⟩ := listed
  exact ⟨seat.session, State.session?_eq_some.mpr ⟨seat, at_h, rfl⟩, same⟩

structure Shrinks (s s' : State) : Prop where
  listed : ∀ h id, s'.Listed h id → s.Listed h id
  next : s'.nextSessionId = s.nextSessionId

theorem Shrinks.refl (s : State) : Shrinks s s := ⟨fun _ _ => id, rfl⟩

theorem Shrinks.trans (first : Shrinks s s') (second : Shrinks s' s'') : Shrinks s s'' :=
  ⟨fun h id listed => first.listed h id (second.listed h id listed), second.next.trans first.next⟩

theorem shrinks_of_roster (roster : s'.roster = s.roster) (next : s'.nextSessionId = s.nextSessionId) :
    Shrinks s s' where
  listed := by
    have seen (s : State) (h : Handle) (id : SessionId) :
        s.Listed h id ↔ ∃ b, s.roster[h]? = some b ∧ b.listed = true ∧ b.id = id := by
      simp [State.Listed, State.roster, Seat.badge]
    intro h id listed
    rw [seen, ← roster]
    exact (seen s' h id).mp listed
  next

theorem updateSeat_shrinks (s : State) (h : Handle) {f : Seat → Seat}
    (kept : ∀ seat, (f seat).session.id = seat.session.id ∧ ((f seat).listed = true → seat.listed = true)) :
    Shrinks s (s.updateSeat h f) where
  listed := by
    rintro h' id ⟨seat, at_h', listed, same⟩
    rw [State.updateSeat, List.getElem?_modify] at at_h'
    obtain ⟨before, was, rfl⟩ := Option.map_eq_some_iff.mp at_h'
    by_cases hh : h = h'
    · rw [if_pos hh] at listed same
      exact ⟨before, was, (kept before).2 listed, (kept before).1.symm.trans same⟩
    · rw [if_neg hh] at listed same
      exact ⟨before, was, listed, same⟩
  next := rfl

structure Apart (s : State) : Prop where
  distinct : ∀ h h' id, s.Listed h id → s.Listed h' id → h = h'
  next : ∃ m, s.nextSessionId = ordinal m

theorem Apart.shrinks (apart : Apart s) (shrinks : Shrinks s s') : Apart s' where
  distinct h h' id listed listed' :=
    apart.distinct h h' id (shrinks.listed h id listed) (shrinks.listed h' id listed')
  next := shrinks.next ▸ apart.next

theorem Apart.find?_iff (apart : Apart s) : s.find? id = some h ↔ s.Listed h id := by
  refine ⟨find?_spec, fun listed => ?_⟩
  cases found : s.find? id with
  | some h' => rw [apart.distinct h' h id (find?_spec found) listed]
  | none =>
    obtain ⟨seat, at_h, on, same⟩ := listed
    have missed := List.findIdx?_eq_none_iff.mp found seat (List.mem_of_getElem? at_h)
    simp [on, same] at missed

theorem openSession_apart (apart : Apart s) (room : s.hasFreeId = true)
    (peer : Option Text.SocketAddress) (link : Option Link) : Apart (s.openSession g peer link).2 := by
  obtain ⟨m, start⟩ := apart.next
  obtain ⟨j, free, _, unused⟩ := free_candidate start room
  have fresh : ∀ h, ¬s.Listed h (ordinal (m + j)) := by
    intro h listed
    rw [apart.find?_iff.mpr listed] at unused
    cases unused
  have seats : (s.openSession g peer link).2.seats = s.seats ++ [{
      session := .start (ordinal (m + j)) peer g.rate (max 1 g.queueCapacity) s.clock
      listed := true, link }] := by
    simp only [State.openSession, free]
  have seen (h : Handle) (id : SessionId) : (s.openSession g peer link).2.Listed h id →
      s.Listed h id ∨ h = s.seats.length ∧ id = ordinal (m + j) := by
    rintro ⟨seat, at_h, on, rfl⟩
    rw [seats] at at_h
    rcases Nat.lt_or_ge h s.seats.length with old | beyond
    · rw [List.getElem?_append_left old] at at_h
      exact Or.inl ⟨seat, at_h, on, rfl⟩
    · rw [List.getElem?_append_right beyond] at at_h
      obtain rfl := List.mem_singleton.mp (List.mem_of_getElem? at_h)
      have first := (List.getElem?_eq_some_iff.mp at_h).1
      have here : h - s.seats.length = 0 := Nat.lt_one_iff.mp first
      exact Or.inr ⟨Nat.le_antisymm (Nat.le_of_sub_eq_zero here) beyond, rfl⟩
  refine ⟨?_, m + j + 1, by simp only [State.openSession, free]⟩
  intro h h' id listed listed'
  rcases seen h id listed with old | ⟨here, new⟩ <;> rcases seen h' id listed' with old' | ⟨here', new'⟩
  · exact apart.distinct h h' id old old'
  · exact absurd (new' ▸ old) (fresh h)
  · exact absurd (new ▸ old') (fresh h')
  · exact here.trans here'.symm

/-! ### What is done for one session -/

/-- Nothing is touched but the seat `a` and the requests under the id `own`, and nobody comes on the
list. -/
structure Touches (a : Handle) (own : SessionId) (s s' : State) : Prop where
  seats : ∀ h, h ≠ a → s'.seats[h]? = s.seats[h]?
  waiting : ∀ k, k.session ≠ own → (k ∈ s'.pending.keys ↔ k ∈ s.pending.keys)
  shrinks : Shrinks s s'

theorem touches_of_update {f : Session → Session}
    (kept : ∀ session, s.session? a = some session → (f session).id = session.id)
    (seats : s'.seats = (s.updateSession a f).seats) (next : s'.nextSessionId = s.nextSessionId)
    (waiting : ∀ k, k.session ≠ own → (k ∈ s'.pending.keys ↔ k ∈ s.pending.keys)) :
    Touches a own s s' where
  seats := by
    intro h other
    rw [seats]
    simp [State.updateSession, State.updateSeat, other.symm]
  waiting
  shrinks := by
    have roster : s'.roster = (s.updateSession a f).roster := congrArg (List.map Seat.badge) seats
    exact shrinks_of_roster (roster.trans (roster_updateSession kept)) next

theorem Traffic.others {before after : Pending} {c : ClientPacket} {outcome : Outcome}
    {news : List Occurrence} (traffic : Traffic before h own c outcome after news) {k : RequestKey}
    (other : k.session ≠ own) : k ∈ after.keys ↔ k ∈ before.keys := by
  have differs : k ≠ ⟨own, c.seq.toInt32⟩ := fun same => other (congrArg RequestKey.session same)
  cases traffic with
  | unasked => rfl
  | refused => simp [differs]
  | sent => simp [differs]

theorem receive_heartbeat (g : Setup) {found : Session} (hs : s.session? h = some found)
    {c answer : ClientPacket} (reserved : isReserved c.msgId = true)
    (responds : Heartbeat.response (.client c) s.clock.wall = .client answer) : ∃ outcome,
      (s.receive g h c).2 = (s.updateSession h fun session =>
        { session.touch s.clock with
          queue := if c.msgId = heartbeatRequestId ∧ found.isActive ∧ found.queue.length < found.capacity
            then found.queue ++ [answer] else found.queue }).record (.handled h found c outcome) := by
  have updated {f : Session → Session} (queue : List ClientPacket)
      (same : f found = { found.touch s.clock with queue }) :
      s.updateSession h f = s.updateSession h fun session => { session.touch s.clock with queue } := by
    apply State.updateSession_congr
    intro session hsession
    obtain rfl := Option.some.inj (hs.symm.trans hsession)
    exact same
  simp only [isReserved, Bool.or_eq_true, beq_iff_eq] at reserved
  unfold State.receive State.handle
  rw [hs]
  dsimp only
  by_cases request : c.msgId = heartbeatRequestId
  · have now : (s.updateSession h (·.touch s.clock)).clock = s.clock := rfl
    rw [if_pos request, State.answerHeartbeat, now, responds]
    refine ⟨.heartbeatAnswered, congrArg (State.record · _) ?_⟩
    dsimp only
    rw [State.updateSession_twice]
    apply updated
    have active : (found.touch s.clock).isActive = found.isActive := rfl
    have queue : (found.touch s.clock).queue = found.queue := rfl
    have capacity : (found.touch s.clock).capacity = found.capacity := rfl
    simp only [Function.comp_apply, Session.send_eq, active, queue, capacity, request, true_and,
      Bool.and_eq_true, decide_eq_true_eq]
  · rw [if_neg request, if_pos (reserved.resolve_left request)]
    refine ⟨.heartbeatIgnored, ?_⟩
    dsimp only
    refine congrArg (State.record · _) (updated _ ?_)
    rw [if_neg fun answered => request answered.1]
    rfl

theorem receive_touches (g : Setup) {found : Session} (hs : s.session? a = some found)
    (c : ClientPacket) : Touches a found.id s (s.receive g a c).2 := by
  cases business : isReserved c.msgId with
  | true =>
    obtain ⟨outcome, result⟩ := receive_heartbeat g hs business rfl
    rw [result]
    exact touches_of_update (f := fun session => { session.touch s.clock with queue := _ })
      (fun _ _ => rfl) rfl rfl fun _ _ => Iff.rfl
  | false =>
    obtain ⟨outcome, after, traffic, news, received⟩ := receive_received g hs business
    refine touches_of_update (f := fun _ => after) ?_ received.seats received.nextSessionId
      fun k other => received.traffic.others other
    intro session hsession
    obtain rfl := Option.some.inj (hs.symm.trans hsession)
    rw [received.client]

/-- A reply touches the seat that its session id leads to. -/
theorem reply_touches (g : Setup) {p : NodePacket} (found : s.find? p.session = some a) :
    Touches a p.session s (s.reply g p).2 := by
  have struck (k : RequestKey) (other : k.session ≠ p.session) :
      k ∈ (s.pending.take ⟨p.session, p.seq⟩).2.keys ↔ k ∈ s.pending.keys := by
    have differs : k ≠ ⟨p.session, p.seq⟩ := fun same => other (congrArg RequestKey.session same)
    simp [differs]
  rcases reply_cases g s p with ⟨_, result⟩ | ⟨_, gone, _⟩ |
    ⟨h, session, calls, after, noted, queued, outcome, answered, result⟩
  · rw [result]
    exact ⟨fun _ _ => rfl, fun _ _ => Iff.rfl, shrinks_of_roster rfl rfl⟩
  · cases found.symm.trans gone
  · obtain rfl := Option.some.inj (found.symm.trans answered.found)
    rw [result]
    refine touches_of_update (f := fun _ => after) ?_ rfl rfl struck
    intro waiter hw
    obtain rfl := Option.some.inj (answered.waiter.symm.trans hw)
    have called := perform_all_id s.clock session calls
    cases answered.queues with
    | queued => exact called
    | dropped => exact called

theorem reply_unheard (g : Setup) {p : NodePacket}
    (unheard : s.find? p.session = none ∨ ⟨p.session, p.seq⟩ ∉ s.pending.keys) :
    (s.reply g p).2.seats = s.seats ∧ (s.reply g p).2.nextSessionId = s.nextSessionId ∧
    ∀ k, k ≠ ⟨p.session, p.seq⟩ ∨ s.find? p.session ≠ none →
      (k ∈ (s.reply g p).2.pending.keys ↔ k ∈ s.pending.keys) := by
  rcases reply_cases g s p with ⟨_, result⟩ | ⟨_, gone, result⟩ |
    ⟨h, _, _, _, _, _, _, answered, _⟩
  · rw [result]
    exact ⟨rfl, rfl, fun _ _ => Iff.rfl⟩
  · rw [result]
    refine ⟨rfl, rfl, ?_⟩
    intro k other
    have differs := other.resolve_right (absurd gone)
    simp [differs]
  · rcases unheard with gone | unasked
    · cases answered.found.symm.trans gone
    · exact absurd answered.waiting unasked

theorem disconnect_touches (apart : Apart s) (listed : s.Listed a own) :
    Touches a own s (s.disconnect a) := by
  obtain ⟨session, hs, rfl⟩ := listed.exists_session
  have roster : (s.updateSession a (·.close)).roster = s.roster := roster_updateSession fun _ _ => rfl
  have found : { s.updateSession a (·.close) with
      pending := (s.pending.forget session.id).2 }.find? session.id = some a := by
    have before := apart.find?_iff.mpr listed
    rw [find?_eq_roster] at before ⊢
    rw [← roster] at before
    exact before
  have result : s.disconnect a = { s with
      seats := s.seats.modify a fun seat => { seat with session := seat.session.close, listed := false }
      pending := (s.pending.forget session.id).2 } := by
    simp only [State.disconnect, hs, State.unlist]
    have pending : (s.updateSession a (·.close)).pending = s.pending := rfl
    rw [pending, found]
    simp [State.updateSession, State.updateSeat, List.modify_modify_eq, Function.comp_def]
  rw [result]
  refine ⟨?_, ?_, ?_⟩
  · intro h other
    simp [other.symm]
  · intro k other
    simp [other]
  · have left := updateSeat_shrinks s a
      (f := fun seat => { seat with session := seat.session.close, listed := false })
      fun _ => ⟨rfl, by simp⟩
    exact ⟨left.listed, rfl⟩

theorem disconnect_shrinks (s : State) (h : Handle) : Shrinks s (s.disconnect h) := by
  unfold State.disconnect
  split
  · exact .refl s
  · rename_i session _
    have closed : Shrinks s { s.updateSession h (·.close) with
        pending := (s.pending.forget session.id).2 } :=
      shrinks_of_roster (roster_updateSession fun _ _ => rfl) rfl
    unfold State.unlist
    dsimp only
    split
    · exact closed.trans (updateSeat_shrinks _ _ fun _ => ⟨rfl, by simp⟩)
    · exact closed

/-! ### Operations -/

/-- What is done for the session at `a`, which is known under `own`: a frame of its client is handled, a
reply for it is dispatched, something is asked of it, or its client is gone. -/
inductive Operates (g : Setup) (a : Handle) (own : SessionId) (s : State) : State → Prop where
  | receives (c : ClientPacket) : Operates g a own s (s.receive g a c).2
  | replies (p : NodePacket) : p.session = own → Operates g a own s (s.reply g p).2
  | asks (call : SessionCall) : Operates g a own s (s.updateSession a (·.perform s.clock call))
  | disconnects : Operates g a own s (s.disconnect a)

theorem operates_touches (apart : Apart s) (listed : s.Listed a own) (done : Operates g a own s s') :
    Touches a own s s' := by
  obtain ⟨session, hs, same⟩ := listed.exists_session
  cases done with
  | receives c => exact same ▸ receive_touches g hs c
  | replies p for_own =>
    subst for_own
    exact reply_touches g (apart.find?_iff.mpr listed)
  | asks call =>
    exact touches_of_update (fun session _ => session.perform_id s.clock call) rfl rfl fun _ _ => Iff.rfl
  | disconnects => exact disconnect_touches apart listed

theorem receive_shrinks (g : Setup) (s : State) (h : Handle) (c : ClientPacket) :
    Shrinks s (s.receive g h c).2 := by
  cases hs : s.session? h with
  | none =>
    have same : (s.receive g h c).2 = s := by simp [State.receive, hs]
    rw [same]
    exact .refl s
  | some found => exact (receive_touches g hs c).shrinks

theorem reply_shrinks (g : Setup) (s : State) (p : NodePacket) : Shrinks s (s.reply g p).2 := by
  cases found : s.find? p.session with
  | none =>
    obtain ⟨seats, next, _⟩ := reply_unheard g (Or.inl found)
    exact shrinks_of_roster (congrArg (List.map Seat.badge) seats) next
  | some h => exact (reply_touches g found).shrinks

theorem perform_shrinks (s : State) (h : Handle) (call : SessionCall) :
    Shrinks s (s.updateSession h (·.perform s.clock call)) :=
  shrinks_of_roster (roster_updateSession fun session _ => session.perform_id s.clock call) rfl

theorem operates_shrinks (done : Operates g a own s s') : Shrinks s s' := by
  cases done with
  | receives c => exact receive_shrinks g s a c
  | replies p _ => exact reply_shrinks g s p
  | asks call => exact perform_shrinks s a call
  | disconnects => exact disconnect_shrinks s a

/-! ### Reachable states -/

theorem endClient_shrinks (s : State) (h : Handle) (why : Ending) : Shrinks s (s.endClient h why) := by
  unfold State.endClient
  split
  · exact .refl s
  · have abandoned : Shrinks (s.disconnect h) ((s.disconnect h).updateSeat h fun seat =>
        { seat with session := seat.session.abandon, link := none }) :=
      updateSeat_shrinks _ h fun _ => ⟨rfl, fun on => on⟩
    have recorded := (disconnect_shrinks s h).trans abandoned
    exact recorded.trans (shrinks_of_roster rfl rfl)

theorem move_preserves_apart (apart : Apart s) (move : Move g asked s s') : Apart s' := by
  have same {s' : State} (roster : s'.roster = s.roster) (next : s'.nextSessionId = s.nextSessionId) :
      Apart s' := apart.shrinks (shrinks_of_roster roster next)
  cases move with
  | waits | reads | rewires | lists | configures | stops | drains | settles | shows | relinksNode =>
    exact same rfl rfl
  | asks h call => exact apart.shrinks (perform_shrinks s h call)
  | closes => exact same (roster_closeSessions s) rfl
  | touches h => exact same (roster_updateSession fun _ _ => rfl) rfl
  | empties h => exact same (roster_updateSession fun _ _ => rfl) rfl
  | opens peer link room _ =>
    exact (openSession_apart apart room peer (some link)).shrinks (shrinks_of_roster rfl rfl)
  | relinks h old link connected => exact same (roster_setClientLink connected link) rfl
  | receives h link c _ _ => exact apart.shrinks (receive_shrinks g s h c)
  | ends h link why _ => exact apart.shrinks (endClient_shrinks s h why)
  | replies p _ => exact apart.shrinks (reply_shrinks g s p)
  | beats id p _ =>
    rcases writeNode_cases g s id p with ⟨_, _, hw⟩ | ⟨_, hw⟩ | ⟨_, _, _, hw⟩ <;> rw [hw] <;>
      exact same rfl rfl
  | endsNode id why =>
    obtain ⟨_, rewired, _⟩ := endLink_rewires s id why
    rw [rewired.state]
    exact same rfl rfl
  | leaves address =>
    obtain ⟨_, rewired⟩ := endLinkTo_rewires s address
    rw [rewired.state]
    exact same rfl rfl

/-- Where a gateway can get: by moves of its own, by sessions that are opened without a client, and by
whatever is done for a session, listed or not. -/
inductive Reachable (g : Setup) (start : State) : State → Prop where
  | start : Reachable g start start
  | move {s s' : State} : Reachable g start s → Move g (fun _ _ => True) s s' → Reachable g start s'
  | opens {s : State} (peer : Option Text.SocketAddress) (link : Option Link) : Reachable g start s →
      s.hasFreeId = true → Reachable g start (s.openSession g peer link).2
  | operation {s s' : State} (a : Handle) (own : SessionId) : Reachable g start s →
      Operates g a own s s' → Reachable g start s'

theorem reachable_apart {resolver : Selection.Resolver} {clock : SessionClock}
    {network : Network} (reachable : Reachable g (.initial resolver clock network) s) : Apart s := by
  induction reachable with
  | start =>
    have first : (1 : SessionId) = ordinal 0 := by decide
    exact ⟨by simp [State.Listed, State.initial], 0, first⟩
  | move _ move ih => exact move_preserves_apart ih move
  | opens peer link _ room ih => exact openSession_apart ih room peer link
  | operation a own _ done ih => exact ih.shrinks (operates_shrinks done)

theorem Reachable.moves {start : State} (path : Moves g (fun _ _ => True) s s')
    (reachable : Reachable g start s) : Reachable g start s' := by
  induction path with
  | refl => exact reachable
  | tail _ move ih => exact .move ih move

/-! ### The others -/

/-- The session at `h`, which is listed under `id`, is as it was, with all it waits for. -/
structure Undisturbed (h : Handle) (id : SessionId) (s s' : State) : Prop where
  seat : s'.seats[h]? = s.seats[h]?
  found : s'.find? id = s.find? id
  waiting : ∀ k, k.session = id → (k ∈ s'.pending.keys ↔ k ∈ s.pending.keys)

theorem Undisturbed.listed (still : Undisturbed h id s s') (listed : s.Listed h id) : s'.Listed h id := by
  unfold State.Listed
  rw [still.seat]
  exact listed

theorem Undisturbed.trans (first : Undisturbed h id s s') (second : Undisturbed h id s' s'') :
    Undisturbed h id s s'' where
  seat := second.seat.trans first.seat
  found := second.found.trans first.found
  waiting k same := (second.waiting k same).trans (first.waiting k same)

theorem undisturbed_of_seat (apart : Apart s) (apart' : Apart s') (listed : s.Listed h id)
    (seat : s'.seats[h]? = s.seats[h]?)
    (waiting : ∀ k, k.session = id → (k ∈ s'.pending.keys ↔ k ∈ s.pending.keys)) :
    Undisturbed h id s s' := by
  have still : s'.Listed h id := by
    unfold State.Listed
    rw [seat]
    exact listed
  exact ⟨seat, by rw [apart'.find?_iff.mpr still, apart.find?_iff.mpr listed], waiting⟩

theorem Touches.undisturbed (touches : Touches a own s s') (apart : Apart s) (listed : s.Listed a own)
    (other : h ≠ a) (there : s.Listed h id) : Undisturbed h id s s' := by
  refine undisturbed_of_seat apart (apart.shrinks touches.shrinks) there (touches.seats h other) ?_
  intro k same
  apply touches.waiting k
  intro own_key
  exact other (apart.distinct h a id there (own_key.symm.trans same ▸ listed))

/-- Something is done for a listed session other than the one at `h`. -/
def Elsewhere (g : Setup) (h : Handle) (s s' : State) : Prop :=
  ∃ a own, a ≠ h ∧ s.Listed a own ∧ Operates g a own s s'

/-- However much is done for other sessions, frames handled, replies dispatched whatever an interceptor
makes of them, sessions closed or gone, a listed session is as it was: its place on the list, its player,
its node, its phase, its tokens, its queue, and the requests it waits for. A reply for a session that is
not listed, or that does not wait for it, changes no session at all. -/
theorem sessions_isolated (g : Setup) (resolver : Selection.Resolver) (clock : SessionClock)
    (network : Network) (s : State)
    (reachable : Reachable g (.initial resolver clock network) s) :
    (∀ h id, s.Listed h id → ∀ s', Relation.ReflTransGen (Elsewhere g h) s s' → Undisturbed h id s s') ∧
    (∀ p : NodePacket, s.find? p.session = none ∨ ⟨p.session, p.seq⟩ ∉ s.pending.keys →
      (s.reply g p).2.seats = s.seats ∧
      ∀ h id, s.Listed h id → Undisturbed h id s (s.reply g p).2) := by
  have apart := reachable_apart reachable
  refine ⟨?_, ?_⟩
  · intro h id there s' path
    have kept : Undisturbed h id s s' ∧ Apart s' := by
      induction path with
      | refl => exact ⟨⟨rfl, rfl, fun _ _ => Iff.rfl⟩, apart⟩
      | tail _ step ih =>
        obtain ⟨still, apart⟩ := ih
        obtain ⟨a, own, other, listed, done⟩ := step
        have touches := operates_touches apart listed done
        have next := touches.undisturbed apart listed other.symm (still.listed there)
        exact ⟨still.trans next, apart.shrinks touches.shrinks⟩
    exact kept.1
  · intro p unheard
    obtain ⟨seats, _, waiting⟩ := reply_unheard g unheard
    refine ⟨seats, ?_⟩
    intro h id there
    refine ⟨by rw [seats], ?_, ?_⟩
    · unfold State.find?
      rw [seats]
    · intro k same
      apply waiting
      by_cases its_own : p.session = id
      · right
        rw [its_own, apart.find?_iff.mpr there]
        nofun
      · exact Or.inl fun key => its_own ((congrArg RequestKey.session key).symm.trans same)

namespace Neighbours

/-! Two clients have logged in and wait. Then the first is answered, sends a frame, and is gone. -/

def start : State := .initial Guarded.resolver ⟨0, 0⟩ (.steady fun _ => .accepting)

def login : Octets := Guarded.octets Guarded.setup.clientCodec (.client Guarded.login)

def both : State := start.run Guarded.setup
  [.addNode "a" "n:1", .clientConnects none, .clientConnects none, .clientSends 0 login,
    .clientSends 1 login]

def answered : State := (both.reply Guarded.setup (Guarded.login.wrap 1)).2

def further : State := (answered.receive Guarded.setup 0 Guarded.business).2

def left : State := further.disconnect 0

end Neighbours

theorem neighbour_undisturbed :
    Reachable Guarded.setup Neighbours.start Neighbours.both ∧ Neighbours.both.Listed 1 2 ∧
    Neighbours.left.seats[1]? = Neighbours.both.seats[1]? ∧
    Neighbours.left.pending.keys = [⟨2, 1⟩] ∧ Neighbours.both.pending.keys = [⟨2, 1⟩, ⟨1, 1⟩] ∧
    (Neighbours.both.reply Guarded.setup (Guarded.login.wrap 3)).2.seats = Neighbours.both.seats := by
  have reachable : Reachable Guarded.setup Neighbours.start Neighbours.both :=
    Reachable.start.moves (run_moves _ _ fun _ _ _ => trivial)
  obtain ⟨others, replies⟩ := sessions_isolated Guarded.setup _ _ _ _ reachable
  have second : Neighbours.both.Listed 1 2 := find?_spec (by decide +kernel)
  have first : Elsewhere Guarded.setup 1 Neighbours.both Neighbours.answered :=
    ⟨0, 1, by decide, find?_spec (by decide +kernel), .replies _ rfl⟩
  have next : Elsewhere Guarded.setup 1 Neighbours.answered Neighbours.further :=
    ⟨0, 1, by decide, find?_spec (by decide +kernel), .receives _⟩
  have last : Elsewhere Guarded.setup 1 Neighbours.further Neighbours.left :=
    ⟨0, 1, by decide, find?_spec (by decide +kernel), .disconnects⟩
  have still := others 1 2 second Neighbours.left (.tail (.tail (.single first) next) last)
  refine ⟨reachable, second, still.seat, by decide +kernel, by decide +kernel, ?_⟩
  exact (replies (Guarded.login.wrap 3) (Or.inl (by decide +kernel))).1

end SessionGateway.Gateway
