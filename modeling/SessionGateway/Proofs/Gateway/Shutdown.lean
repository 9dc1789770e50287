import SessionGateway.Gateway.Listeners
import SessionGateway.Proofs.Gateway.Endings
import SessionGateway.Proofs.Gateway.Lifecycle
import SessionGateway.Proofs.Gateway.LinkLedger

/-! How a gateway ends. It is told to stop at any time and in any state. Then the loops that accept clients
return, one after the other and perhaps after one client more; the sessions are closed and their connections
come to their ends, in any order and with all that may still happen meanwhile; and when the last of them
is gone the links to the nodes are ended. Nothing is left then. -/
namespace SessionGateway.Gateway

open Wire

variable {g : Setup} {listening : Except ServerError (List Endpoint)}
  {asked : Handle → SessionCall → Prop} {s s' : State} {h : Handle}

/-! ### The life of a gateway -/

/-- How far a gateway that was told to start has come. -/
inductive Stage where
  | idle
  /-- Clients are accepted. -/
  | serving
  /-- No further client is accepted, and the connections that there are come to their ends. -/
  | closing
  /-- The links to these addresses are still to be ended. -/
  | draining (addresses : List String)
  | ended (result : Except ServerError Unit)

def Stage.running : Stage → Bool
  | serving | closing | draining _ => true
  | idle | ended _ => false

/-- A client has come, whether or not the gateway was told to stop in the meantime. -/
def State.welcome (g : Setup) (s : State) (peer : Option Text.SocketAddress) : State :=
  (s.openSession g peer (some (.start .gateway g.heartbeats s.now))).2.record (.clientOpened s.seats.length)

/-- No client comes. The session of one that goes is closed, and of one that is gone it stays closed. -/
structure Thins (s s' : State) : Prop where
  link : ∀ h, s.clientLink? h = none → s'.clientLink? h = none
  gone : ∀ h after, s.clientLink? h = none → s'.session? h = some after →
    ∃ before, s.session? h = some before ∧ (before.phase = .closed → after.phase = .closed)
  left : ∀ h link after, s.clientLink? h = some link → s'.clientLink? h = none →
    s'.session? h = some after → after.phase = .closed

theorem thins_of_link (link : ∀ h, s'.clientLink? h = s.clientLink? h)
    (gone : ∀ h after, s.clientLink? h = none → s'.session? h = some after →
      ∃ before, s.session? h = some before ∧ (before.phase = .closed → after.phase = .closed)) :
    Thins s s' where
  link := fun h none => (link h).trans none
  gone := gone
  left := by
    intro h client after connected none
    cases (connected.symm.trans (link h).symm).trans none

theorem thins_of_same (link : ∀ h, s'.clientLink? h = s.clientLink? h)
    (session : ∀ h, s'.session? h = s.session? h) : Thins s s' :=
  thins_of_link link fun h after _ hs => ⟨after, (session h).symm.trans hs, id⟩

theorem thins_of_quiet (quiet : Quiet s s') : Thins s s' :=
  thins_of_same (fun h => quiet.link h not_false) (fun h => quiet.session h not_false)

theorem thins_of_update {f : Session → Session}
    (closed : ∀ session, session.phase = .closed → (f session).phase = .closed) :
    Thins s (s.updateSession h f) := by
  apply thins_of_link
  · exact fun h' => State.clientLink?_updateSession s h h' f
  · intro h' after _ hs
    rw [State.session?_updateSession] at hs
    by_cases hh : h = h'
    · rw [if_pos hh] at hs
      obtain ⟨before, hb, rfl⟩ := Option.map_eq_some_iff.mp hs
      exact ⟨before, hb, closed before⟩
    · rw [if_neg hh] at hs
      exact ⟨after, hs, id⟩

theorem thins_of_connected {link : Link} (connected : s.clientLink? h = some link)
    (links : ∀ h', s'.clientLink? h' = s.clientLink? h')
    (others : ∀ h', h ≠ h' → s'.session? h' = s.session? h') : Thins s s' := by
  apply thins_of_link links
  intro h' after gone hs
  by_cases hh : h = h'
  · subst h'
    cases connected.symm.trans gone
  · exact ⟨after, (others h' hh).symm.trans hs, id⟩

theorem setClientLink_thins {old : Link} (connected : s.clientLink? h = some old) (link : Link) :
    Thins s (s.setClientLink h link) := by
  have links (h' : Handle) : (s.setClientLink h link).clientLink? h' =
      if h' = h then some link else s.clientLink? h' := by
    by_cases here : h' = h
    · subst h'
      rw [if_pos rfl, State.clientLink?_setClientLink link connected]
    · rw [if_neg here]
      exact (updateSeat_confined s h fun seat => { seat with link := some link }).link h' here
  refine ⟨?_, fun h' after _ hs => ⟨after, ?_, id⟩, ?_⟩
  · intro h' gone
    rw [links, if_neg, gone]
    rintro rfl
    cases connected.symm.trans gone
  · rw [← State.session?_setClientLink s h h' link]
    exact hs
  · intro h' client after was gone
    rw [links] at gone
    split at gone
    · cases gone
    · cases was.symm.trans gone

theorem closeSessions_thins (s : State) : Thins s s.closeSessions := by
  apply thins_of_link (clientLink?_closeSessions s)
  intro h after _ hs
  obtain ⟨seat, at_h, rfl⟩ := State.session?_eq_some.mp hs
  simp only [State.closeSessions, List.getElem?_map, Option.map_eq_some_iff] at at_h
  obtain ⟨before, was, rfl⟩ := at_h
  refine ⟨before.session, State.session?_eq_some.mpr ⟨before, was, rfl⟩, ?_⟩
  by_cases listed : before.listed = true
  · rw [if_pos listed]
    exact fun _ => rfl
  · rw [if_neg listed]
    exact id

theorem endClient_thins (inv : RegistryInvariant s) {link : Link} (connected : s.clientLink? h = some link)
    (why : Ending) : Thins s (s.endClient h why) := by
  have others := endClient_confined s h why
  have elsewhere {h' : Handle} (gone : s.clientLink? h' = none) : ¬h' = h := by
    rintro rfl
    cases connected.symm.trans gone
  refine ⟨fun h' gone => (others.link h' (elsewhere gone)).trans gone, ?_, ?_⟩
  · intro h' after gone hs
    exact ⟨after, (others.session h' (elsewhere gone)).symm.trans hs, id⟩
  · intro h' client after was gone hs
    by_cases here : h' = h
    · subst h'
      obtain ⟨seat, at_h, _, result⟩ := endClient_eq inv connected why
      rw [result, State.session?, List.getElem?_modify_eq, at_h] at hs
      cases hs
      rfl
    · cases (was.symm.trans (others.link h' here).symm).trans gone

/-- A client comes only to a gateway that was not told to stop. -/
theorem move_thins (inv : RegistryInvariant s) (move : Move g asked s s') : Thins s s' ∨
    s.stopping = false ∧ s.hasFreeId = true ∧ ∃ peer, s' = s.welcome g peer := by
  cases move with
  | waits | reads | rewires | lists | configures | stops | drains | settles | shows | relinksNode =>
    exact Or.inl (thins_of_same (fun _ => rfl) (fun _ => rfl))
  | asks h call =>
    have still (session : Session) (closed : session.phase = .closed) :
        (session.perform s.clock call).phase = .closed :=
      (Session.follow_closed closed (.asks s.clock call)).1
    exact Or.inl (thins_of_update still)
  | closes => exact Or.inl (closeSessions_thins s)
  | touches h => exact Or.inl (thins_of_update fun _ closed => closed)
  | empties h => exact Or.inl (thins_of_update fun _ closed => closed)
  | opens peer link room going fresh =>
    subst fresh
    exact Or.inr ⟨going, room, peer, rfl⟩
  | relinks h old link connected => exact Or.inl (setClientLink_thins connected link)
  | receives h link p connected business =>
    left
    obtain ⟨found, hs⟩ := session_of_link connected
    obtain ⟨outcome, after, traffic, news, received⟩ := receive_received g hs business
    apply thins_of_connected connected
    · intro h'
      have same : (s.receive g h p).2.clientLink? h' = (s.updateSession h fun _ => after).clientLink? h' := by
        rw [State.clientLink?, received.seats]
        rfl
      rw [same, State.clientLink?_updateSession]
    · intro h' other
      rw [received.session?_eq hs, if_neg other]
  | ends h link why connected => exact Or.inl (endClient_thins inv connected why)
  | replies p _ =>
    left
    rcases reply_cases g s p with ⟨_, result⟩ | ⟨_, _, result⟩ |
      ⟨h, session, calls, after, noted, queued, outcome, answered, result⟩
    · rw [result]
      exact thins_of_same (fun _ => rfl) (fun _ => rfl)
    · rw [result]
      exact thins_of_same (fun _ => rfl) (fun _ => rfl)
    · obtain ⟨link, connected⟩ := clientLink?_badge.mpr
        ((inv.find?_iff.mp answered.found).imp fun _ => And.left)
      rw [result]
      apply thins_of_connected connected
      · intro h'
        have kept := State.clientLink?_updateSession s h h' fun _ => after
        exact kept
      · intro h' other
        have seen := answered.session?_eq h'
        rw [if_neg other] at seen
        exact seen
  | beats id p _ => exact Or.inl (thins_of_quiet (writeNode_quiet s id p))
  | endsNode id why => exact Or.inl (thins_of_quiet (endLink_quiet s id why))
  | leaves address => exact Or.inl (thins_of_quiet (endLinkTo_quiet s address))

theorem move_stopping (inv : RegistryInvariant s) (move : Move g asked s s')
    (stopping : s.stopping = true) : s'.stopping = true := by
  cases move with
  | waits | reads | rewires | lists | configures | drains | settles | asks | closes | touches | empties
    | opens | relinks | shows | relinksNode => exact stopping
  | stops => rfl
  | receives h link p connected business =>
    obtain ⟨found, hs⟩ := session_of_link connected
    obtain ⟨after, traffic, news, handled, _⟩ := handle_decided g hs business
    have kept : (s.handle g h p).2.stopping = s.stopping := by rw [handled.state]
    have recorded : (s.receive g h p).2.stopping = (s.handle g h p).2.stopping := by
      simp only [State.receive, hs, State.record]
    exact (recorded.trans kept).trans stopping
  | ends h link why connected =>
    obtain ⟨_, _, _, result⟩ := endClient_eq inv connected why
    rw [result]
    exact stopping
  | replies p _ =>
    rcases reply_cases g s p with ⟨_, result⟩ | ⟨_, _, result⟩ | ⟨_, _, _, _, _, _, _, _, result⟩ <;>
      rw [result] <;> exact stopping
  | beats id p _ =>
    rcases writeNode_cases g s id p with ⟨_, _, result⟩ | ⟨_, result⟩ | ⟨_, _, _, result⟩ <;>
      rw [result] <;> exact stopping
  | endsNode id why =>
    obtain ⟨_, rewired, _⟩ := endLink_rewires s id why
    rw [rewired.state]
    exact stopping
  | leaves address =>
    obtain ⟨_, rewired⟩ := endLinkTo_rewires s address
    rw [rewired.state]
    exact stopping

/-! ### What holds in each stage -/

structure Tidy (g : Setup) (s : State) : Prop where
  registry : RegistryInvariant s
  departed : ∀ h session, s.session? h = some session → s.clientLink? h = none →
    session.phase = .closed
  ledger : s.ledger.Sound
  within : s.Within g.heartbeats

theorem Tidy.thins (tidy : Tidy g s) (thins : Thins s s') (registry : RegistryInvariant s')
    (ledger : s'.ledger.Sound) (within : s'.Within g.heartbeats) : Tidy g s' where
  registry
  within
  departed := by
    intro h after hs gone
    cases was : s.clientLink? h with
    | none =>
      obtain ⟨before, hb, kept⟩ := thins.gone h after was hs
      exact kept (tidy.departed h before hb was)
    | some link => exact thins.left h link after was gone hs
  ledger

theorem welcome_tidy (tidy : Tidy g s) (room : s.hasFreeId = true) (peer : Option Text.SocketAddress) :
    Tidy g (s.welcome g peer) where
  registry := registers_preserves_invariant tidy.registry (openSession_registers peer _ room _)
  within := by
    have opened := openSession_within tidy.within peer
    exact ⟨opened.clients, opened.nodes⟩
  departed := by
    intro h session hs gone
    obtain ⟨seat, at_h, rfl⟩ := State.session?_eq_some.mp hs
    have unlinked : seat.link = none := by simpa [State.clientLink?, at_h] using gone
    simp only [State.welcome, State.record, State.openSession] at at_h
    by_cases old : h < s.seats.length
    · rw [List.getElem?_append_left old] at at_h
      have was : s.clientLink? h = none := by simp [State.clientLink?, at_h, unlinked]
      exact tidy.departed h seat.session (State.session?_eq_some.mpr ⟨seat, at_h, rfl⟩) was
    · rw [List.getElem?_append_right (Nat.le_of_not_lt old)] at at_h
      obtain rfl := List.mem_singleton.mp (List.mem_of_getElem? at_h)
      cases unlinked
  ledger := by
    have same : (s.welcome g peer).ledger = s.ledger := ledger_record (by trivial) _
    exact same ▸ tidy.ledger

theorem move_tidy (tidy : Tidy g s) (move : Move g asked s s') : Tidy g s' := by
  rcases move_thins tidy.registry move with thins | ⟨_, room, peer, rfl⟩
  · exact tidy.thins thins (move_preserves_registry s s' tidy.registry move)
      ((move_steps tidy.ledger move).sound tidy.ledger) (move_within tidy.within move)
  · exact welcome_tidy tidy room peer

/-- When links are drained, only those remain in the table that are still to be ended. -/
structure Draining (g : Setup) (addresses : List String) (s : State) : Prop where
  tidy : Tidy g s
  stopping : s.stopping = true
  draining : s.draining = true
  nobody : ∀ h, s.clientLink? h = none
  slots : ∀ e ∈ s.pool.slots, e.1 ∈ addresses

theorem Draining.move {addresses : List String} (inv : Draining g addresses s) (move : Move g asked s s') :
    Draining g addresses s' where
  tidy := move_tidy inv.tidy move
  stopping := move_stopping inv.tidy.registry move inv.stopping
  draining := (move_steps inv.tidy.ledger move).draining inv.draining
  nobody := by
    rcases move_thins inv.tidy.registry move with thins | ⟨going, _⟩
    · exact fun h => thins.link h (inv.nobody h)
    · cases inv.stopping.symm.trans going
  slots := fun e member => inv.slots e ((move_steps inv.tidy.ledger move).slots_subset inv.draining member)

/-- When all connections were ended, each in its turn. -/
def State.dismissed (s : State) : State :=
  (List.range s.seats.length).foldl (fun s h => s.endClient h .shutdown) s

theorem endClient_unlinks (s : State) (h : Handle) (why : Ending) :
    (s.endClient h why).clientLink? h = none := by
  cases connected : s.clientLink? h with
  | none => rw [endClient_gone connected, connected]
  | some link => exact (endClient_ends connected why).1.link

theorem dismissed_nobody (s : State) (h : Handle) : s.dismissed.clientLink? h = none := by
  have mine : ¬h ≠ h := not_not_intro rfl
  have confined (i : Handle) (s : State) := endClient_confined s i .shutdown
  by_cases inside : h < s.seats.length
  · obtain ⟨turns, _, after⟩ := turns_split confined inside s
    exact (after.link h mine).trans (endClient_unlinks _ h _)
  · have gone : s.clientLink? h = none := by
      by_contra connected
      obtain ⟨link, connected⟩ := Option.ne_none_iff_exists'.mp connected
      exact inside (link_inside connected)
    exact ((turns_beyond confined (Nat.le_of_not_lt inside) s).link h mine).trans gone

theorem dismissed_moves (s : State) : Moves g asked s s.dismissed :=
  (moves_foldl _ (fun s h => endClient_moves s h .shutdown) s _).moves

theorem flush_deserted (g : Setup) (nobody : ∀ h, s.clientLink? h = none) : s.flush g = s := by
  have still (hs : List Handle) : hs.foldl (State.flushClient g) s = s := by
    induction hs with
    | nil => rfl
    | cons h hs ih =>
      have none : s.flushClient g h = s := by simp only [State.flushClient, nobody h]
      rw [List.foldl_cons, none, ih]
  exact still _

theorem shutdown_nobody (s : State) (h : Handle) : s.shutdown.clientLink? h = none :=
  ((drain_quiet _).link h not_false).trans (dismissed_nobody _ h)

theorem step_shutdown (g : Setup) (s : State) : s.step g .shutdown = s.shutdown.settle := by
  have flushed : s.shutdown.flush g = s.shutdown := flush_deserted g (shutdown_nobody s)
  rw [State.step, State.react, flushed]

namespace Evacuated

/-! A client is authenticated and waits for an answer when the gateway is told to stop. -/

def start : State := .initial Guarded.resolver ⟨0, 0⟩ (.steady fun _ => .accepting)

end Evacuated

end SessionGateway.Gateway
