import SessionGateway.Proofs.Gateway.Confinement
import SessionGateway.Proofs.Gateway.Moves

/-! Serving one client. What a client is written, which of its frames are handled and why its connection
ends can be read off the record. Each thing that is done for a client either leaves it connected or ends
its connection for a reason that is told. -/
namespace SessionGateway.Gateway

open Wire Liveness Liveness.Monitor

variable {g : Setup} {s s' : State} {h : Handle} {link : Link} {session : Session}

/-! ### Views -/

/-- The frames that a client was written, latest first. -/
def written (h : Handle) (history : List Occurrence) : List Packet :=
  history.filterMap fun
    | .clientReceived h' p => if h' = h then some p else none
    | _ => none

/-- The frames of a client that were handled, latest first. -/
def handledFrames (h : Handle) (history : List Occurrence) : List ClientPacket :=
  history.filterMap fun
    | .handled h' _ c _ => if h' = h then some c else none
    | _ => none

/-- Why a client's connection ended. It ends once. -/
def endings (h : Handle) (history : List Occurrence) : List Ending :=
  history.filterMap fun
    | .clientEnded h' why => if h' = h then some why else none
    | _ => none

structure View where
  session : Option Session
  link : Option Link
  written : List Packet
  handled : List ClientPacket
  endings : List Ending

def State.view (s : State) (h : Handle) : View where
  session := s.session? h
  link := s.clientLink? h
  written := Gateway.written h s.history
  handled := handledFrames h s.history
  endings := Gateway.endings h s.history

theorem Confined.view_eq {own : Handle → Prop} (confined : Confined own s s') (foreign : ¬own h) :
    s'.view h = s.view h := by
  have same {α : Type} {view : Occurrence → Option α}
      (blind : ∀ o : Occurrence, o.Regards own → view o = none) := confined.filterMap_eq blind
  have other {i : Handle} (mine : own i) : ¬i = h := by
    rintro rfl
    exact foreign mine
  have written : written h s'.history = written h s.history := by
    apply same
    intro o regards
    cases o <;> first | rfl | exact if_neg (other regards)
  have handled : handledFrames h s'.history = handledFrames h s.history := by
    apply same
    intro o regards
    cases o <;> first | rfl | exact if_neg (other regards)
  have endings : endings h s'.history = endings h s.history := by
    apply same
    intro o regards
    cases o <;> first | rfl | exact if_neg (other regards)
  rw [State.view, State.view, confined.session h foreign, confined.link h foreign, written, handled,
    endings]

/-- What lasts as long as a connection: octets that wait to be decoded are only touched when more come,
and the layout and the patience of the monitor not at all. -/
structure Link.Lasts (before after : Link) : Prop where
  input : after.input = before.input
  layout : after.monitor.layout = before.monitor.layout
  limit : after.monitor.missed.limit = before.monitor.missed.limit

theorem Link.Lasts.refl (link : Link) : link.Lasts link := ⟨rfl, rfl, rfl⟩

theorem Link.Lasts.trans {a b c : Link} (first : a.Lasts b) (second : b.Lasts c) : a.Lasts c where
  input := second.input.trans first.input
  layout := second.layout.trans first.layout
  limit := second.limit.trans first.limit

theorem Link.lasts_onOutbound (link : Link) (now : Time) :
    link.Lasts { link with monitor := link.monitor.onOutbound now } := ⟨rfl, rfl, rfl⟩

/-- The client stays connected, and nothing that waits for it is touched. -/
structure Stays (v v' : View) : Prop where
  link : ∃ before after, v.link = some before ∧ v'.link = some after ∧ before.Lasts after
  session : ∃ before after, v.session = some before ∧ v'.session = some after ∧
    after.queue = before.queue ∧ after.cancelled = before.cancelled
  endings : v'.endings = v.endings

theorem Stays.trans {v v' v'' : View} (first : Stays v v') (second : Stays v' v'') : Stays v v'' where
  link := by
    obtain ⟨a, b, ha, hb, same⟩ := first.link
    obtain ⟨b', c, hb', hc, same'⟩ := second.link
    obtain rfl := Option.some.inj (hb.symm.trans hb')
    exact ⟨a, c, ha, hc, same.trans same'⟩
  session := by
    obtain ⟨a, b, ha, hb, same⟩ := first.session
    obtain ⟨b', c, hb', hc, same'⟩ := second.session
    obtain rfl := Option.some.inj (hb.symm.trans hb')
    exact ⟨a, c, ha, hc, same'.1.trans same.1, same'.2.trans same.2⟩
  endings := second.endings.trans first.endings

structure Ends (v v' : View) (why : Ending) : Prop where
  link : v'.link = none
  endings : v'.endings = why :: v.endings

theorem Ends.behind {v₁ v v' : View} {why : Ending} (ends : Ends v₁ v' why) (same : v₁.endings = v.endings) :
    Ends v v' why :=
  ⟨ends.link, by rw [ends.endings, same]⟩

theorem session_of_link (connected : s.clientLink? h = some link) :
    ∃ session, s.session? h = some session := by
  obtain ⟨seat, at_h, _⟩ := Option.bind_eq_some_iff.mp connected
  exact ⟨seat.session, State.session?_eq_some.mpr ⟨seat, at_h, rfl⟩⟩

theorem link_inside (connected : s.clientLink? h = some link) : h < s.seats.length := by
  obtain ⟨seat, at_h, _⟩ := Option.bind_eq_some_iff.mp connected
  exact (List.getElem?_eq_some_iff.mp at_h).1

/-! ### Ending and writing -/

theorem endClient_gone (gone : s.clientLink? h = none) (why : Ending) : s.endClient h why = s := by
  rw [State.endClient, gone]

theorem endClient_view (connected : s.clientLink? h = some link) (why : Ending) :
    ∃ session, (s.endClient h why).view h =
      { s.view h with session, link := none, endings := why :: (s.view h).endings } := by
  refine ⟨(s.endClient h why).session? h, ?_⟩
  have history : (s.endClient h why).history = .clientEnded h why :: s.history := by
    simp only [State.endClient, connected, State.record, State.updateSeat, State.disconnect_history]
  simp [State.view, clientLink?_endClient, history, written, handledFrames, endings]

theorem endClient_ends (connected : s.clientLink? h = some link) (why : Ending) :
    Ends (s.view h) ((s.endClient h why).view h) why ∧
      ((s.endClient h why).view h).written = (s.view h).written ∧
      ((s.endClient h why).view h).handled = (s.view h).handled := by
  obtain ⟨session, result⟩ := endClient_view connected why
  rw [result]
  exact ⟨⟨rfl, rfl⟩, rfl, rfl⟩

theorem writeClient_gone (gone : s.clientLink? h = none) (p : Packet) : s.writeClient g h p = s := by
  rw [State.writeClient, gone]

theorem writeClient_fails (connected : s.clientLink? h = some link) {p : Packet} {fault : Fault}
    (met : fault? g.clientCodec p (s.network.toClient h) = some fault) :
    s.writeClient g h p = s.endClient h fault.ending := by
  simp [State.writeClient, connected, met]

theorem writeClient_view (connected : s.clientLink? h = some link) {p : Packet}
    (clear : fault? g.clientCodec p (s.network.toClient h) = none) : (s.writeClient g h p).view h =
      { s.view h with
        link := some { link with monitor := link.monitor.onOutbound s.now }
        written := p :: (s.view h).written } := by
  have result : s.writeClient g h p =
      (s.setClientLink h { link with monitor := link.monitor.onOutbound s.now }).record
        (.clientReceived h p) := by
    simp [State.writeClient, connected, clear]
  have history : (s.writeClient g h p).history = .clientReceived h p :: s.history := by
    rw [result]
    rfl
  rw [State.view, history, result, State.session?_record, State.clientLink?_record,
    State.session?_setClientLink, State.clientLink?_setClientLink _ connected]
  simp [State.view, written, handledFrames, endings]

theorem writeClient_stays (connected : s.clientLink? h = some link) {p : Packet}
    (clear : fault? g.clientCodec p (s.network.toClient h) = none) :
    Stays (s.view h) ((s.writeClient g h p).view h) := by
  obtain ⟨session, hs⟩ := session_of_link connected
  rw [writeClient_view connected clear]
  exact ⟨⟨link, _, connected, rfl, rfl, rfl, rfl⟩, ⟨session, session, hs, hs, rfl, rfl⟩, rfl⟩

theorem writeClient_network (g : Setup) (s : State) (h : Handle) (p : Packet) :
    (s.writeClient g h p).network = s.network := by
  have path : SteadyMoves g (fun _ _ => True) s (s.writeClient g h p) := writeClient_moves s h p
  exact path.steady.network

/-! ### Queues -/

theorem writeAll_gone (gone : s.clientLink? h = none) (queue : List ClientPacket) :
    queue.foldl (fun s c => s.writeClient g h (.client c)) s = s := by
  induction queue with
  | nil => rfl
  | cons c queue ih => rw [List.foldl_cons, writeClient_gone gone, ih]

/-- The frames that are written of those that wait: all up to the first that meets a fault. -/
def Setup.passing (g : Setup) (delivery : Delivery) (queue : List ClientPacket) : List Packet :=
  (queue.map Packet.client).takeWhile (fault? g.clientCodec · delivery = none)

theorem writeAll_view (connected : s.clientLink? h = some link) (queue : List ClientPacket) :
    let v' := (queue.foldl (fun s c => s.writeClient g h (.client c)) s).view h
    v'.written = (g.passing (s.network.toClient h) queue).reverse ++ (s.view h).written ∧
    v'.handled = (s.view h).handled ∧
    ((∀ c ∈ queue, fault? g.clientCodec (.client c) (s.network.toClient h) = none) ∧
        v'.session = (s.view h).session ∧ v'.endings = (s.view h).endings ∧
        (∃ link', v'.link = some link' ∧ link.Lasts link') ∨
      ∃ c ∈ queue, ∃ fault, fault? g.clientCodec (.client c) (s.network.toClient h) = some fault ∧
        Ends (s.view h) v' fault.ending) := by
  induction queue generalizing s link with
  | nil => exact ⟨rfl, rfl, Or.inl ⟨by simp, rfl, rfl, link, connected, .refl link⟩⟩
  | cons c queue ih =>
    cases met : fault? g.clientCodec (.client c) (s.network.toClient h) with
    | none =>
      have first := writeClient_view connected met
      have linked : (s.writeClient g h (.client c)).clientLink? h =
          some { link with monitor := link.monitor.onOutbound s.now } := congrArg View.link first
      obtain ⟨written, handled, rest⟩ := ih linked
      rw [writeClient_network, first] at written rest
      rw [first] at handled
      refine ⟨?_, handled, ?_⟩
      · rw [List.foldl_cons, written]
        simp [Setup.passing, met]
      · rcases rest with ⟨clear, session, endings, link', linked', lasts⟩ | ⟨c', member, fault, met', ends⟩
        · refine Or.inl ⟨?_, session, endings, link', linked', (link.lasts_onOutbound s.now).trans lasts⟩
          intro c' member
          rcases List.mem_cons.mp member with rfl | member
          · exact met
          · exact clear c' member
        · exact Or.inr ⟨c', List.mem_cons_of_mem c member, fault, met', ends.link, ends.endings⟩
    | some fault =>
      obtain ⟨ends, written, handled⟩ := endClient_ends connected fault.ending
      rw [List.foldl_cons, writeClient_fails connected met, writeAll_gone (clientLink?_endClient s h _)]
      refine ⟨?_, handled, Or.inr ⟨c, List.mem_cons_self, fault, met, ends⟩⟩
      rw [written]
      simp [Setup.passing, met]

/-- What is still written of the queue: all of it, or so much as goes out when the session was closed. -/
def Session.waiting (session : Session) (parting : Nat) : List ClientPacket :=
  if session.cancelled then session.queue.take parting else session.queue

/-- What the turn of a connected client does: its queue is written, and if its session was closed or a
frame meets a fault its connection ends. -/
structure Flushed (g : Setup) (delivery : Delivery) (parting : Nat) (old : Link) (session : Session)
    (v v' : View) : Prop where
  written : v'.written = (g.passing delivery (session.waiting parting)).reverse ++ v.written
  handled : v'.handled = v.handled
  cases : (session.cancelled = false ∧ (∃ link, v'.link = some link ∧ old.Lasts link) ∧
      v'.session = some { session with queue := [] } ∧ v'.endings = v.endings) ∨
    (session.cancelled = true ∧ Ends v v' .sessionClosed) ∨
    ∃ c ∈ session.queue, ∃ fault, fault? g.clientCodec (.client c) delivery = some fault ∧
      Ends v v' fault.ending

theorem Session.mem_waiting {session : Session} {parting : Nat} {c : ClientPacket}
    (member : c ∈ session.waiting parting) : c ∈ session.queue := by
  unfold Session.waiting at member
  split at member
  · exact List.mem_of_mem_take member
  · exact member

theorem flushClient_flushed (g : Setup) (connected : s.clientLink? h = some link)
    (hs : s.session? h = some session) :
    Flushed g (s.network.toClient h) (s.network.parting h) link session (s.view h)
      ((s.flushClient g h).view h) := by
  have linked : (s.updateSession h (·.receive.2)).clientLink? h = some link := by
    rw [State.clientLink?_updateSession, connected]
  have emptied : (s.updateSession h (·.receive.2)).view h =
      { s.view h with session := some { session with queue := [] } } := by
    simp [State.view, hs, Session.receive]
  have network : (s.updateSession h (·.receive.2)).network = s.network := rfl
  obtain ⟨written, handled, rest⟩ := writeAll_view (g := g) linked (session.waiting (s.network.parting h))
  rw [emptied, network] at written rest
  rw [emptied] at handled
  have result : s.flushClient g h =
      let s₁ := (session.waiting (s.network.parting h)).foldl (fun s c => s.writeClient g h (.client c))
        (s.updateSession h (·.receive.2))
      if session.cancelled then s₁.endClient h .sessionClosed else s₁ := by
    simp only [State.flushClient, connected, hs]
    rfl
  rw [result]
  generalize (session.waiting (s.network.parting h)).foldl (fun s c => s.writeClient g h (.client c))
    (s.updateSession h (·.receive.2)) = s₁ at written handled rest ⊢
  dsimp only
  rcases rest with ⟨_, same, endings, link', linked', lasts⟩ | ⟨c, member, fault, met, ends⟩
  · cases cancelled : session.cancelled with
    | false => exact ⟨written, handled, Or.inl ⟨cancelled, ⟨link', linked', lasts⟩, same, endings⟩⟩
    | true =>
      obtain ⟨ends, written', handled'⟩ := endClient_ends linked' .sessionClosed
      rw [if_pos rfl]
      exact ⟨written'.trans written, handled'.trans handled, Or.inr (Or.inl ⟨cancelled, ends.behind endings⟩)⟩
  · have gone : s₁.clientLink? h = none := ends.link
    rw [endClient_gone gone, ite_self]
    exact ⟨written, handled, Or.inr (Or.inr ⟨c, Session.mem_waiting member, fault, met, ends.link, ends.endings⟩)⟩

theorem flush_flushed (g : Setup) (connected : s.clientLink? h = some link)
    (hs : s.session? h = some session) :
    Flushed g (s.network.toClient h) (s.network.parting h) link session (s.view h) ((s.flush g).view h) := by
  obtain ⟨turns, before, after⟩ := turns_split (fun i s => flushClient_confined (g := g) s i)
    (link_inside connected) s
  have own : ¬h ≠ h := not_not_intro rfl
  have path : SteadyMoves g (fun _ _ => True) s (turns.foldl (State.flushClient g) s) :=
    moves_foldl _ flushClient_moves s turns
  have network := path.steady.network
  have turn := flushClient_flushed g ((before.link h own).trans connected)
    ((before.session h own).trans hs)
  rw [before.view_eq own, ← after.view_eq own, network] at turn
  exact turn

theorem flush_gone (g : Setup) (gone : s.clientLink? h = none) : (s.flush g).view h = s.view h := by
  have own : ¬h ≠ h := not_not_intro rfl
  by_cases inside : h < s.seats.length
  · obtain ⟨turns, before, after⟩ := turns_split (fun i s => flushClient_confined (g := g) s i) inside s
    have still : (turns.foldl (State.flushClient g) s).flushClient g h =
        turns.foldl (State.flushClient g) s := by
      simp only [State.flushClient, (before.link h own).trans gone]
    rw [still] at after
    exact (after.view_eq own).trans (before.view_eq own)
  · exact (turns_beyond (fun i s => flushClient_confined (g := g) s i) (Nat.le_of_not_lt inside) s).view_eq
      own

/-! ### Frames of clients -/

def heard : Packet → Option ClientPacket
  | .client c => if isReserved c.msgId then none else some c
  | _ => none

/-- The answer to a heartbeat request meets this fault. -/
def Setup.Unanswered (g : Setup) (delivery : Delivery) (asked : Packet) (fault : Fault) : Prop :=
  ∃ now, fault? g.clientCodec (Heartbeat.response asked now) delivery = some fault

theorem Stays.connected (stays : Stays (s.view h) (s'.view h)) : ∃ link, s'.clientLink? h = some link := by
  obtain ⟨_, after, _, linked, _⟩ := stays.link
  exact ⟨after, linked⟩

theorem stays_refl (connected : s.clientLink? h = some link) : Stays (s.view h) (s.view h) := by
  obtain ⟨session, hs⟩ := session_of_link connected
  exact ⟨⟨link, link, connected, connected, .refl link⟩, ⟨session, session, hs, hs, rfl, rfl⟩, rfl⟩

theorem updateSession_stays (connected : s.clientLink? h = some link) {f : Session → Session}
    (same : ∀ session, (f session).queue = session.queue ∧ (f session).cancelled = session.cancelled) :
    Stays (s.view h) ((s.updateSession h f).view h) where
  link := ⟨link, link, connected, (State.clientLink?_updateSession s h h f).trans connected, .refl link⟩
  session := by
    obtain ⟨session, hs⟩ := session_of_link connected
    refine ⟨session, f session, hs, ?_, same session⟩
    simp [State.view, hs]
  endings := rfl

theorem setClientLink_stays (connected : s.clientLink? h = some link) {after : Link}
    (lasts : link.Lasts after) : Stays (s.view h) ((s.setClientLink h after).view h) where
  link := ⟨link, after, connected, State.clientLink?_setClientLink after connected, lasts⟩
  session := by
    obtain ⟨session, hs⟩ := session_of_link connected
    exact ⟨session, session, hs, (State.session?_setClientLink s h h after).trans hs, rfl, rfl⟩
  endings := rfl

theorem receive_stays (connected : s.clientLink? h = some link) {c : ClientPacket}
    (business : isReserved c.msgId = false) :
    Stays (s.view h) ((s.receive g h c).2.view h) ∧
      ((s.receive g h c).2.view h).handled = c :: (s.view h).handled := by
  obtain ⟨session, hs⟩ := session_of_link connected
  obtain ⟨outcome, after, traffic, news, received⟩ := receive_received g hs business
  have linked : (s.receive g h c).2.clientLink? h = some link := by
    have updated := State.clientLink?_updateSession s h h fun _ => after
    unfold State.clientLink? at updated connected ⊢
    rw [received.seats, updated, connected]
  have seen : (s.receive g h c).2.session? h = some after := by
    rw [received.session?_eq hs, if_pos rfl]
  have silent {α : Type} {view : Occurrence → Option α}
      (asks : ∀ key, view (.requested h key) = none)
      (goes : ∀ link place p, view (.nodeReceived link place p) = none)
      (prepares : ∀ o : Occurrence, o.Prepares → view o = none) :
      (traffic ++ (news ++ s.history)).filterMap view = s.history.filterMap view := by
    have nothing : (traffic ++ news).filterMap view = [] := by
      apply List.filterMap_eq_nil_iff.mpr
      intro o member
      rcases List.mem_append.mp member with member | member
      · rcases received.traffic.recorded member with rfl | ⟨_, _, rfl⟩ | ⟨_, _, _, rfl⟩
        · exact asks _
        · exact goes _ _ _
        · exact prepares _ trivial
      · exact prepares o (received.news o member)
    rw [← List.append_assoc, List.filterMap_append, nothing, List.nil_append]
  have handled : handledFrames h (traffic ++ (news ++ s.history)) = handledFrames h s.history := by
    refine silent (fun _ => rfl) (fun _ _ _ => rfl) fun o prepares => ?_
    cases o <;> first | rfl | exact prepares.elim
  have ended : endings h (traffic ++ (news ++ s.history)) = endings h s.history := by
    refine silent (fun _ => rfl) (fun _ _ _ => rfl) fun o prepares => ?_
    cases o <;> first | rfl | exact prepares.elim
  refine ⟨⟨⟨link, link, connected, linked, .refl link⟩, ⟨session, after, hs, seen, ?_⟩, ?_⟩, ?_⟩
  · rw [received.client]
    exact ⟨rfl, rfl⟩
  · simp only [State.view, received.history]
    rw [← ended]
    rfl
  · simp only [State.view, received.history]
    rw [← handled]
    simp [handledFrames]

theorem onInbound_heartbeat {m monitor : Monitor} {now : Time} {wall : Heartbeat.WallClock} {p : Packet}
    {inbound : Inbound} (hin : m.onInbound now wall p = (inbound, monitor))
    (kept : ∀ q, inbound ≠ .deliver q) :
    heard p = none ∧ ∀ answer, inbound = .reply answer → answer = Heartbeat.response p wall := by
  unfold onInbound at hin
  split at hin
  · cases hin
    refine ⟨?_, by rintro answer ⟨⟩; rfl⟩
    cases p <;> simp_all [heard, Heartbeat.isRequest, isReserved, Packet.msgId]
  split at hin
  · cases hin
    refine ⟨?_, by rintro answer ⟨⟩⟩
    cases p <;> simp_all [heard, Heartbeat.isResponse, isReserved, Packet.msgId]
  · cases hin
    exact absurd rfl (kept p)

theorem clientFrame_view (connected : s.clientLink? h = some link) (p : Packet) :
    let v' := (s.clientFrame g h p).view h
    (Stays (s.view h) v' ∧ v'.handled = (heard p).toList ++ (s.view h).handled) ∨
      ∃ fault, g.Unanswered (s.network.toClient h) p fault ∧ Ends (s.view h) v' fault.ending ∧
        v'.handled = (s.view h).handled := by
  have touched := updateSession_stays connected (f := (·.touch s.clock)) fun _ => ⟨rfl, rfl⟩
  have linked : (s.updateSession h (·.touch s.clock)).clientLink? h = some link :=
    (State.clientLink?_updateSession s h h _).trans connected
  have sameHandled : ((s.updateSession h (·.touch s.clock)).view h).handled = (s.view h).handled := rfl
  have network : (s.updateSession h (·.touch s.clock)).network = s.network := rfl
  simp only [State.clientFrame, connected]
  generalize s.updateSession h (·.touch s.clock) = s₁ at touched linked sameHandled network ⊢
  rcases hin : link.monitor.onInbound s₁.now s₁.clock.wall p with ⟨inbound, monitor⟩
  have lasts : link.Lasts { link with monitor } := by
    have after := onInbound_snd link.monitor s₁.now s₁.clock.wall p
    rw [hin] at after
    exact ⟨rfl, congrArg (·.layout) after, congrArg (·.missed.limit) after⟩
  have start := touched.trans (setClientLink_stays linked lasts)
  have open₁ := State.clientLink?_setClientLink { link with monitor } linked
  have kept : ((s₁.setClientLink h { link with monitor }).view h).handled = (s.view h).handled :=
    sameHandled
  dsimp only
  cases inbound with
  | reply answer =>
    obtain ⟨unheard, answers⟩ := onInbound_heartbeat hin (by rintro _ ⟨⟩)
    obtain rfl := answers answer rfl
    cases met : fault? g.clientCodec (Heartbeat.response p s₁.clock.wall)
        ((s₁.setClientLink h { link with monitor }).network.toClient h) with
    | none =>
      left
      have written := writeClient_view open₁ met
      refine ⟨start.trans (writeClient_stays open₁ met), ?_⟩
      rw [written, unheard]
      exact kept
    | some fault =>
      right
      obtain ⟨ends, _, handled⟩ := endClient_ends open₁ fault.ending
      dsimp only
      rw [writeClient_fails open₁ met]
      refine ⟨fault, ⟨s₁.clock.wall, ?_⟩, ends.behind start.endings, handled.trans kept⟩
      rw [← network]
      exact met
  | absorbed =>
    left
    obtain ⟨unheard, _⟩ := onInbound_heartbeat hin (by rintro _ ⟨⟩)
    refine ⟨start, ?_⟩
    rw [unheard]
    exact kept
  | deliver q =>
    left
    obtain ⟨rfl, business⟩ := onInbound_deliver hin
    cases q with
    | client c =>
      have said : heard (.client c) = some c := if_neg (ne_true_of_eq_false business)
      obtain ⟨stays, handled⟩ := receive_stays (g := g) open₁ business
      refine ⟨start.trans stays, ?_⟩
      rw [said, handled, kept]
      rfl
    | node => exact ⟨start, kept⟩
    | server => exact ⟨start, kept⟩

theorem clientFrame_gone (gone : s.clientLink? h = none) (p : Packet) : s.clientFrame g h p = s := by
  rw [State.clientFrame, gone]

theorem clientFrames_gone (gone : s.clientLink? h = none) (packets : List Packet) :
    packets.foldl (State.clientFrame g h) s = s := by
  induction packets with
  | nil => rfl
  | cons p packets ih => rw [List.foldl_cons, clientFrame_gone gone, ih]

theorem clientFrame_network (g : Setup) (s : State) (h : Handle) (p : Packet) :
    (s.clientFrame g h p).network = s.network := by
  have path : SteadyMoves g (fun _ _ => True) s (s.clientFrame g h p) := clientFrame_moves s h p
  exact path.steady.network

theorem clientFrames_view (connected : s.clientLink? h = some link) (packets : List Packet) :
    let v' := (packets.foldl (State.clientFrame g h) s).view h
    (Stays (s.view h) v' ∧ v'.handled = (packets.filterMap heard).reverse ++ (s.view h).handled) ∨
      (∃ p ∈ packets, ∃ fault, g.Unanswered (s.network.toClient h) p fault ∧
        Ends (s.view h) v' fault.ending) ∧
        ∃ first, first <+: packets ∧ v'.handled = (first.filterMap heard).reverse ++ (s.view h).handled := by
  induction packets generalizing s link with
  | nil =>
    exact Or.inl ⟨stays_refl connected, rfl⟩
  | cons p packets ih =>
    have heads (rest : List Packet) (handled : List ClientPacket) :
        (rest.filterMap heard).reverse ++ ((heard p).toList ++ handled) =
          ((p :: rest).filterMap heard).reverse ++ handled := by
      rw [List.filterMap_cons]
      cases heard p <;> simp
    rw [List.foldl_cons]
    rcases clientFrame_view (g := g) connected p with ⟨stays, handled⟩ | ⟨fault, unanswered, ends, handled⟩
    · obtain ⟨link₁, linked⟩ := stays.connected
      rcases ih linked with ⟨later, all⟩ | ⟨⟨q, member, fault, unanswered, ends⟩, first, front, some⟩
      · exact Or.inl ⟨stays.trans later, by rw [all, handled, heads]⟩
      · rw [clientFrame_network] at unanswered
        refine Or.inr ⟨⟨q, List.mem_cons_of_mem p member, fault, unanswered, ends.behind stays.endings⟩,
          p :: first, ?_, ?_⟩
        · exact (List.prefix_cons_inj p).mpr front
        · rw [some, handled, heads]
    · right
      rw [clientFrames_gone ends.link]
      exact ⟨⟨p, List.mem_cons_self, fault, unanswered, ends⟩, [], List.nil_prefix, handled⟩

/-- What octets do that come from a connected client: the frames they complete are handled, and unless
one of them asks for an answer that meets a fault, only a violation of the framing ends the connection. -/
structure Reads (g : Setup) (delivery : Delivery) (link : Link) (drained : Codec.Drained) (v v' : View) :
    Prop where
  handled : ∃ first, first <+: drained.packets ∧
    v'.handled = (first.filterMap heard).reverse ++ v.handled
  cases : (drained.error = none ∧ Stays { v with link := some { link with input := drained.rest } } v' ∧
      v'.handled = (drained.packets.filterMap heard).reverse ++ v.handled) ∨
    (∃ e, drained.error = some e ∧ Ends v v' (.framing e)) ∨
    ∃ p ∈ drained.packets, ∃ fault, g.Unanswered delivery p fault ∧ Ends v v' fault.ending

theorem clientOctets_reads (g : Setup) (connected : s.clientLink? h = some link) (bytes : Octets) :
    Reads g (s.network.toClient h) link (g.clientCodec.drain (link.input ++ bytes)) (s.view h)
      ((s.clientOctets g h bytes).view h) := by
  rw [State.clientOctets, connected]
  dsimp only
  generalize g.clientCodec.drain (link.input ++ bytes) = drained
  have start : (s.setClientLink h { link with input := drained.rest }).view h =
      { s.view h with link := some { link with input := drained.rest } } := by
    rw [State.view, State.session?_setClientLink, State.clientLink?_setClientLink _ connected]
    rfl
  have network : (s.setClientLink h { link with input := drained.rest }).network = s.network := rfl
  have handling := clientFrames_view (g := g) (congrArg View.link start) drained.packets
  rw [start, network] at handling
  generalize drained.packets.foldl (State.clientFrame g h)
    (s.setClientLink h { link with input := drained.rest }) = s₁ at handling ⊢
  rcases handling with ⟨stays, all⟩ | ⟨⟨p, member, fault, unanswered, ends⟩, front⟩
  · obtain ⟨_, after, _, linked, _⟩ := stays.link
    cases refused : drained.error with
    | none => exact ⟨⟨_, List.prefix_rfl, all⟩, Or.inl ⟨refused, stays, all⟩⟩
    | some e =>
      obtain ⟨ends, _, handled⟩ := endClient_ends linked (.framing e)
      exact ⟨⟨_, List.prefix_rfl, handled.trans all⟩, Or.inr (Or.inl ⟨e, refused, ends.behind stays.endings⟩)⟩
  · have lost : ∃ p ∈ drained.packets, ∃ fault, g.Unanswered (s.network.toClient h) p fault ∧
        Ends (s.view h) (s₁.view h) fault.ending := ⟨p, member, fault, unanswered, ends.link, ends.endings⟩
    cases drained.error with
    | none => exact ⟨front, Or.inr (Or.inr lost)⟩
    | some e =>
      have gone : s₁.clientLink? h = none := ends.link
      dsimp only
      rw [endClient_gone gone]
      exact ⟨front, Or.inr (Or.inr lost)⟩

/-! ### Silence -/

theorem due_spec {m after : Monitor} {now : Time} {wall : Heartbeat.WallClock} {action : IdleAction}
    (due : m.due now wall = some (action, after)) :
    after.layout = m.layout ∧ after.missed.limit = m.missed.limit ∧
      (∀ p, action = .heartbeat p → p = Heartbeat.request m.layout wall) ∧
      ∀ count, action = .close count → m.missed.limit ≤ count := by
  unfold Monitor.due at due
  split at due
  · rcases ht : m.timers.next now with ⟨event, woken, timers⟩
    simp only [Monitor.next, ht, Option.some.injEq] at due
    cases event with
    | reader =>
      simp only [Monitor.onIdle] at due
      split at due
      · rename_i exhausted
        cases due
        refine ⟨rfl, rfl, by simp, ?_⟩
        rintro count ⟨⟩
        exact of_decide_eq_true exhausted
      · cases due
        exact ⟨rfl, rfl, by simp, by simp⟩
    | writer =>
      cases due
      exact ⟨rfl, rfl, fun p asked => (IdleAction.heartbeat.inj asked).symm, by simp⟩
    | all =>
      cases due
      exact ⟨rfl, rfl, fun p asked => (IdleAction.heartbeat.inj asked).symm, by simp⟩
  · cases due

/-- The idle events that are due at an instant, as the monitor of a connection takes them: silent periods
are counted and heartbeats are written. -/
inductive Idles (now : Time) (wall : Heartbeat.WallClock) : Monitor → Monitor → Prop where
  | done (m : Monitor) : Idles now wall m m
  | misses {m next after : Monitor} {count : UInt32} : m.due now wall = some (.missed count, next) →
      Idles now wall next after → Idles now wall m after
  | beats {m next after : Monitor} {p : Packet} : m.due now wall = some (.heartbeat p, next) →
      Idles now wall (next.onOutbound now) after → Idles now wall m after

/-- Nothing that is done for a client takes time. -/
structure Instant (s s' : State) : Prop where
  now : s'.now = s.now
  clock : s'.clock = s.clock

end SessionGateway.Gateway
