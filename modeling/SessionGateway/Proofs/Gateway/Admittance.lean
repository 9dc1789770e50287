import SessionGateway.Proofs.Gateway.Isolation
import SessionGateway.Proofs.Admission.Tokens
import SessionGateway.Proofs.Selection.Resolution

/-! What frames cost. A frame of a client costs a token if it could go to a node: it is no heartbeat, and is
the login or follows one that was granted. The token is asked for once, before anything else is done for the
frame, and no other frame touches the bucket of its session. -/
namespace SessionGateway.Gateway

open Wire Selection Admission

variable {g : Setup} {asked : Handle → SessionCall → Prop} {s s' : State} {h : Handle}

/-- Whether a frame costs the session, as the frame finds it, a token. -/
def Admissible (g : Setup) (found : Session) (c : ClientPacket) : Prop :=
  isReserved c.msgId = false ∧ (c.msgId = g.loginId ∨ found.isAuthenticated = true)

instance (g : Setup) (found : Session) (c : ClientPacket) : Decidable (Admissible g found c) :=
  inferInstanceAs (Decidable (_ ∧ _))

/-- A session once a frame of it was seen and a token asked for. -/
def Session.charged (found : Session) (clock : SessionClock) : Session :=
  { found with lastActive := clock.wall, bucket := (found.bucket.take clock.bucket).2 }

/-- The session of a frame that is let in. Whoever logs in is no longer authenticated. -/
def Session.admitted (g : Setup) (found : Session) (clock : SessionClock) (c : ClientPacket) : Session :=
  if c.msgId = g.loginId then (found.charged clock).setPhase .authenticating else found.charged clock

/-- The address that a frame let in is sent to, and the state with the node that may be chosen for it. -/
def State.destination (g : Setup) (s : State) (h : Handle) (admitted : Session) (c : ClientPacket) :
    Option String × State :=
  if c.msgId = g.loginId then s.selectNode g h g.strategy
  else (admitted.node.bind s.resolver.address?, s)

theorem Session.admitted_eq (g : Setup) (found : Session) (clock : SessionClock) (c : ClientPacket) :
    found.admitted g clock c = { found.touch clock with
      bucket := (found.bucket.take clock.bucket).2
      phase := if c.msgId = g.loginId ∧ found.phase ≠ .closed then .authenticating else found.phase } := by
  unfold admitted
  by_cases login : c.msgId = g.loginId
  · by_cases closed : found.phase = .closed
    · simp [login, setPhase_eq, charged, touch, closed]
    · simp [login, setPhase_eq, charged, touch, closed]
  · simp [login, charged, touch]

theorem session?_update_const {found : Session} (hs : s.session? h = some found) (after : Session) :
    (s.updateSession h fun _ => after).session? h = some after := by
  rw [State.session?_updateSession, if_pos rfl, hs]
  rfl

/-! ### One frame -/

theorem charge_eq {session : Session} (hs : s.session? h = some session) :
    s.charge h = ((session.bucket.take s.clock.bucket).1,
      s.updateSession h fun _ => { session with bucket := (session.bucket.take s.clock.bucket).2 }) := by
  simp [State.charge, hs, Session.acquire]

/-- What becomes of a frame that costs a token. -/
theorem handle_admissible {found : Session} (hs : s.session? h = some found) {c : ClientPacket}
    (admissible : Admissible g found c) : s.handle g h c =
      if (found.bucket.take s.clock.bucket).1 then
        let (address, s) := (s.updateSession h fun _ => found.admitted g s.clock c).destination g h
          (found.admitted g s.clock c) c
        s.forwardTo g address h c
      else (.rateLimited, s.updateSession h fun _ => found.charged s.clock) := by
  obtain ⟨business, permitted⟩ := admissible
  simp only [isReserved, Bool.or_eq_false_iff, beq_eq_false_iff_ne] at business
  have touched : (s.updateSession h (·.touch s.clock)).session? h = some (found.touch s.clock) := by
    rw [State.session?_updateSession, if_pos rfl, hs]
    rfl
  have charged : (s.updateSession h (·.touch s.clock)).charge h =
      ((found.bucket.take s.clock.bucket).1, s.updateSession h fun _ => found.charged s.clock) := by
    rw [charge_eq touched, State.updateSession_twice]
    rfl
  unfold State.handle
  rw [hs]
  dsimp only
  rw [if_neg business.1, if_neg business.2]
  by_cases login : c.msgId = g.loginId
  · rw [if_pos login, State.login, charged]
    cases (found.bucket.take s.clock.bucket).1 with
    | false => rfl
    | true =>
      have again : (s.updateSession h fun _ => found.charged s.clock).updateSession h
          (·.setPhase .authenticating) = s.updateSession h fun _ => found.admitted g s.clock c := by
        rw [State.updateSession_twice, Session.admitted, if_pos login]
        rfl
      simp only [again, State.destination, if_pos login]
      rfl
  · have auth : found.isAuthenticated = true := permitted.resolve_left login
    rw [if_neg login, auth]
    simp only [Bool.not_true, Bool.false_eq_true, if_false]
    rw [State.business, charged]
    cases (found.bucket.take s.clock.bucket).1 with
    | false => rfl
    | true =>
      simp only [session?_update_const hs, State.destination, if_neg login, Session.admitted]
      rfl

/-- A frame goes to the node of its session. If that is none, and the frame is a login, one is chosen. -/
theorem destination_cases {session : Session} (hs : s.session? h = some session) (c : ClientPacket) :
    s.destination g h session c = (session.node.bind s.resolver.address?, s) ∨
    c.msgId = g.loginId ∧ session.node = none ∧ ∃ node address rotation,
      s.resolver.choose g.draws g.strategy session.player =
        (some (node, address), { s.resolver with rotation }) ∧
      s.destination g h session c = (some address,
        ({ s with resolver := { s.resolver with rotation } }.updateSession h
          fun _ => { session with node := some node }).record (.bound h node)) := by
  unfold State.destination
  by_cases login : c.msgId = g.loginId
  · rw [if_pos login, State.selectNode, hs]
    dsimp only
    cases bound : session.node with
    | some node => exact Or.inl rfl
    | none =>
      obtain ⟨rotation, turned⟩ := choose_resolver g.draws s.resolver g.strategy session.player
      rcases hc : s.resolver.choose g.draws g.strategy session.player with ⟨_ | ⟨node, address⟩, resolver⟩
      · left
        obtain ⟨none_live, none_configured⟩ :=
          (s.resolver.choose_eq_none_iff g.draws g.strategy session.player).mp (by rw [hc])
        have same := s.resolver.choose_of_unlisted g.draws g.strategy session.player none_live none_configured
        obtain rfl := (Prod.mk.inj (hc.symm.trans same)).2
        rfl
      · rw [hc] at turned
        subst turned
        refine Or.inr ⟨login, rfl, node, address, rotation, rfl, ?_⟩
        have bind : (session.bind node).2 = { session with node := some node } := by
          simp [Session.bind, bound]
        have update := State.updateSession_const (s := { s with resolver := { s.resolver with rotation } })
          hs fun session => (session.bind node).2
        rw [bind] at update
        simp only [update]
  · rw [if_neg login]
    exact Or.inl rfl

/-- A frame that costs nothing gets no further than its session, whose bucket is left alone. -/
theorem handle_unadmissible {found : Session} (hs : s.session? h = some found) {c : ClientPacket}
    (free : ¬Admissible g found c) :
    (c.msgId = heartbeatRequestId ∧ (s.handle g h c).1 = .heartbeatAnswered ∨
      (s.handle g h c).1 = .heartbeatIgnored ∧ (s.handle g h c).2 = s.updateSession h (·.touch s.clock) ∨
      (s.handle g h c).1 = .unauthenticated ∧ (s.handle g h c).2 = s.updateSession h (·.touch s.clock)) ∧
    ((s.handle g h c).2.session? h).map (·.bucket) = some found.bucket := by
  have touched : (s.updateSession h (·.touch s.clock)).session? h = some (found.touch s.clock) := by
    rw [State.session?_updateSession, if_pos rfl, hs]
    rfl
  unfold State.handle
  rw [hs]
  dsimp only
  by_cases request : c.msgId = heartbeatRequestId
  · rw [if_pos request]
    refine ⟨Or.inl ⟨request, rfl⟩, ?_⟩
    unfold State.answerHeartbeat
    split
    · rw [State.session?_updateSession, if_pos rfl, touched]
      simp [Session.send_eq, Session.touch]
    · rw [touched]
      rfl
  · rw [if_neg request]
    by_cases response : c.msgId = heartbeatResponseId
    · rw [if_pos response]
      exact ⟨Or.inr (Or.inl ⟨rfl, rfl⟩), by rw [touched]; rfl⟩
    · rw [if_neg response]
      have business : isReserved c.msgId = false := by simp [isReserved, request, response]
      have login : c.msgId ≠ g.loginId := fun login => free ⟨business, Or.inl login⟩
      have auth : found.isAuthenticated = false := by
        cases auth : found.isAuthenticated with
        | false => rfl
        | true => exact absurd ⟨business, Or.inr auth⟩ free
      rw [if_neg login, if_pos (by rw [auth]; rfl)]
      exact ⟨Or.inr (Or.inr ⟨rfl, rfl⟩), by rw [touched]; rfl⟩

/-! ### Buckets -/

def State.bucket? (s : State) (h : Handle) : Option TokenBucket := (s.session? h).map (·.bucket)

theorem State.bucket?_eq {found : Session} (hs : s.session? h = some found) :
    s.bucket? h = some found.bucket := by
  rw [bucket?, hs]
  rfl

theorem bucket?_of_seats (same : s'.seats[h]? = s.seats[h]?) : s'.bucket? h = s.bucket? h := by
  simp only [State.bucket?, State.session?, same]

theorem bucket?_updateSeat (s : State) (a : Handle) {f : Seat → Seat}
    (kept : ∀ seat, (f seat).session.bucket = seat.session.bucket) :
    (s.updateSeat a f).bucket? h = s.bucket? h := by
  simp only [State.bucket?, State.session?, State.updateSeat, List.getElem?_modify]
  cases s.seats[h]? with
  | none => rfl
  | some seat =>
    by_cases hh : a = h
    · simp [hh, kept]
    · simp [hh]

theorem bucket?_updateSession {found : Session} (hs : s.session? h = some found) (f : Session → Session) :
    (s.updateSession h f).bucket? h = some (f found).bucket := by
  rw [State.bucket?, State.session?_updateSession, if_pos rfl, hs]
  rfl

theorem bucket?_unlist (s : State) (id : SessionId) : (s.unlist id).2.bucket? h = s.bucket? h := by
  unfold State.unlist
  split
  · apply bucket?_updateSeat
    exact fun _ => rfl
  · rfl

theorem bucket?_disconnect (s : State) (a : Handle) : (s.disconnect a).bucket? h = s.bucket? h := by
  unfold State.disconnect
  split
  · rfl
  · refine (bucket?_unlist _ _).trans ?_
    apply bucket?_updateSeat s a
    exact fun _ => rfl

theorem bucket?_endClient (s : State) (a : Handle) (why : Ending) :
    (s.endClient a why).bucket? h = s.bucket? h := by
  unfold State.endClient
  split
  · rfl
  · refine Eq.trans ?_ (bucket?_disconnect s a)
    apply bucket?_updateSeat (s.disconnect a) a
    exact fun _ => rfl

theorem bucket?_closeSessions (s : State) : s.closeSessions.bucket? h = s.bucket? h := by
  simp only [State.bucket?, State.session?, State.closeSessions, List.getElem?_map, Option.map_map]
  congr 1
  funext seat
  by_cases listed : seat.listed = true <;> simp [listed, Session.close]

theorem perform_bucket (clock : SessionClock) (session : Session) (call : SessionCall) :
    (session.perform clock call).bucket =
      if call = .acquire then (session.bucket.take clock.bucket).2 else session.bucket := by
  cases call <;> simp [Session.perform, Session.setPhase_eq, Session.authenticate_eq, Session.bind_eq,
    Session.send_eq, Session.acquire, Session.touch, Session.close]

theorem perform_all_bucket (clock : SessionClock) (session : Session) (calls : List SessionCall) :
    (calls.foldl (Session.perform clock) session).bucket =
      (session.bucket.takeUpTo clock.bucket (calls.count .acquire)).2 := by
  induction calls generalizing session with
  | nil => rfl
  | cons call calls ih =>
    rw [List.foldl_cons, ih, perform_bucket]
    by_cases acquires : call = .acquire
    · rw [if_pos acquires, acquires, List.count_cons_self]
      rfl
    · rw [if_neg acquires, List.count_cons_of_ne acquires]

theorem handle_charged {found : Session} (hs : s.session? h = some found) {c : ClientPacket}
    (admissible : Admissible g found c) :
    ((s.handle g h c).1 = .rateLimited ↔ (found.bucket.take s.clock.bucket).1 = false) ∧
    (s.handle g h c).2.bucket? h = some (found.bucket.take s.clock.bucket).2 := by
  rw [handle_admissible hs admissible]
  cases taken : (found.bucket.take s.clock.bucket).1 with
  | false =>
    simp only [Bool.false_eq_true, if_false]
    exact ⟨by simp, bucket?_updateSession hs _⟩
  | true =>
    simp only [if_true]
    have placed := session?_update_const hs (found.admitted g s.clock c)
    have bucket : (found.admitted g s.clock c).bucket = (found.bucket.take s.clock.bucket).2 := by
      rw [Session.admitted_eq]
    generalize s.updateSession h (fun _ => found.admitted g s.clock c) = admitted at placed ⊢
    generalize found.admitted g s.clock c = session at placed bucket ⊢
    obtain ⟨after, hafter, same⟩ : ∃ after, (admitted.destination g h session c).2.session? h = some after ∧
        after.bucket = session.bucket := by
      rcases destination_cases (g := g) placed c with result | ⟨_, _, node, _, _, _, result⟩ <;> rw [result]
      · exact ⟨_, placed, rfl⟩
      · exact ⟨_, session?_update_const placed { session with node := some node }, rfl⟩
    obtain ⟨lastActive, _, _, asked, unlimited, _⟩ :=
      forwardTo_asked g hafter (admitted.destination g h session c).1 c
    refine ⟨by simp [unlimited], ?_⟩
    have forwarded := bucket?_updateSession hafter fun _ => { after with lastActive }
    rw [asked.state]
    exact forwarded.trans (congrArg some (same.trans bucket))

theorem handle_uncharged {found : Session} (hs : s.session? h = some found) {c : ClientPacket}
    (free : ¬Admissible g found c) :
    (s.handle g h c).1 ≠ .rateLimited ∧ (s.handle g h c).2.bucket? h = some found.bucket := by
  obtain ⟨⟨_, outcome⟩ | ⟨outcome, _⟩ | ⟨outcome, _⟩, bucket⟩ := handle_unadmissible hs free <;>
    exact ⟨by simp [outcome], bucket⟩

/-! ### The frames that were handled -/

/-- The frames of a session that were handled, with the session as each found it, latest first. -/
def handlings (h : Handle) (history : List Occurrence) : List (Session × ClientPacket × Outcome) :=
  history.filterMap fun
    | .handled h' found c outcome => if h' = h then some (found, c, outcome) else none
    | _ => none

theorem handlings_append {news : List Occurrence} (others : ∀ o ∈ news, ¬o.Handles)
    (history : List Occurrence) : handlings h (news ++ history) = handlings h history := by
  have none : handlings h news = [] := by
    rw [handlings, List.filterMap_eq_nil_iff]
    intro o hm
    cases o with
    | handled => exact absurd trivial (others _ hm)
    | _ => rfl
  rw [handlings, List.filterMap_append]
  exact (congrArg (· ++ _) none).trans (List.nil_append _)

theorem Occurrence.Prepares.handles {o : Occurrence} (prepares : o.Prepares) : ¬o.Handles := by
  cases o with
  | handled => exact prepares.elim
  | _ => exact id

theorem handle_handlings {a : Handle} {found : Session} (hs : s.session? a = some found)
    (c : ClientPacket) : handlings h (s.handle g a c).2.history = handlings h s.history := by
  cases business : isReserved c.msgId with
  | true =>
    obtain ⟨outcome, _, _, history⟩ := receive_reserved g hs business
    rw [receive_eq g hs] at history
    rw [(List.cons.inj history).2]
  | false =>
    obtain ⟨after, traffic, news, asked, _⟩ := handle_decided g hs business
    rw [asked.state]
    apply handlings_append
    intro o hm
    rcases List.mem_append.mp hm with hm | hm
    · rcases asked.traffic.recorded hm with rfl | ⟨_, _, rfl⟩ | ⟨_, _, _, rfl⟩ <;> exact id
    · exact (asked.news o hm).handles

theorem receive_handlings {a : Handle} {found : Session} (hs : s.session? a = some found)
    (c : ClientPacket) : handlings h (s.receive g a c).2.history =
      if a = h then (found, c, (s.receive g a c).1) :: handlings h s.history
      else handlings h s.history := by
  have before := handle_handlings (g := g) (h := h) hs c
  rw [receive_eq g hs]
  by_cases mine : a = h
  · rw [if_pos mine, ← before]
    simp [handlings, State.record, mine]
  · rw [if_neg mine, ← before]
    simp [handlings, State.record, mine]

/-! ### Everything else -/

/-- What may happen to a gateway, and be asked of it from inside: a move of its own, a session that is opened,
with or without a client, a frame or a reply that is handled, or a client that is gone. -/
inductive Deed (g : Setup) (asked : Handle → SessionCall → Prop) (s : State) : State → Prop where
  | moves {s' : State} : Move g asked s s' → Deed g asked s s'
  | opens (peer : Option Text.SocketAddress) (link : Option Link) :
      Deed g asked s (s.openSession g peer link).2
  | receives (a : Handle) (c : ClientPacket) : Deed g asked s (s.receive g a c).2
  | replies (p : NodePacket) : Deed g asked s (s.reply g p).2
  | disconnects (a : Handle) : Deed g asked s (s.disconnect a)

/-- What a deed means for the bucket of a session and for the frames of it that were handled. -/
inductive Accounts (g : Setup) (asked : Handle → SessionCall → Prop) (h : Handle) (s : State) :
    State → Prop where
  | spares {s' : State} : s'.bucket? h = s.bucket? h →
      handlings h s'.history = handlings h s.history → Accounts g asked h s s'
  | opens {s' : State} : s.bucket? h = none → s'.bucket? h = some (.full g.rate s.clock.bucket) →
      handlings h s'.history = handlings h s.history → Accounts g asked h s s'
  | asks (call : SessionCall) : asked h call →
      Accounts g asked h s (s.updateSession h (·.perform s.clock call))
  | receives (c : ClientPacket) : Accounts g asked h s (s.receive g h c).2
  | replies (p : NodePacket) : Accounts g asked h s (s.reply g p).2

theorem openSession_accounts (peer : Option Text.SocketAddress) (link : Option Link) {s' : State}
    (seats : s'.seats = (s.openSession g peer link).2.seats)
    (history : handlings h s'.history = handlings h s.history) : Accounts g asked h s s' := by
  obtain ⟨seat, fresh, opened⟩ : ∃ seat : Seat, seat.session.bucket = .full g.rate s.clock.bucket ∧
      s'.seats = s.seats ++ [seat] := ⟨_, rfl, seats⟩
  rcases Nat.lt_trichotomy h s.seats.length with old | rfl | beyond
  · refine .spares (bucket?_of_seats ?_) history
    rw [opened, List.getElem?_append_left old]
  · refine .opens ?_ ?_ history
    · simp [State.bucket?, State.session?]
    · simp [State.bucket?, State.session?, opened, fresh]
  · refine .spares (bucket?_of_seats ?_) history
    rw [List.getElem?_eq_none (Nat.le_of_lt beyond), List.getElem?_eq_none]
    rw [opened, List.length_append]
    exact beyond

theorem receive_accounts (a : Handle) (c : ClientPacket) : Accounts g asked h s (s.receive g a c).2 := by
  by_cases mine : a = h
  · subst mine
    exact .receives c
  · cases hs : s.session? a with
    | none =>
      have same : (s.receive g a c).2 = s := by simp [State.receive, hs]
      rw [same]
      exact .spares rfl rfl
    | some found =>
      refine .spares (bucket?_of_seats ((receive_touches g hs c).seats h (Ne.symm mine))) ?_
      rw [receive_handlings hs, if_neg mine]

theorem rewired_accounts {news : List Occurrence} (rewired : Rewired s news s') : Accounts g asked h s s' := by
  rw [rewired.state]
  exact .spares rfl (handlings_append (fun o member => (rewired.news o member).prepares.handles) _)

theorem move_accounts (h : Handle) (move : Move g asked s s') : Accounts g asked h s s' := by
  cases move with
  | waits | reads | rewires | lists | configures | stops | drains | settles | relinksNode | shows =>
    exact .spares rfl rfl
  | asks a call permitted =>
    by_cases mine : a = h
    · subst mine
      exact .asks call permitted
    · refine .spares (bucket?_of_seats ?_) rfl
      simp [State.updateSession, State.updateSeat, mine]
  | closes => exact .spares (bucket?_closeSessions s) rfl
  | touches a =>
    refine .spares ?_ rfl
    apply bucket?_updateSeat
    exact fun _ => rfl
  | empties a =>
    refine .spares ?_ rfl
    apply bucket?_updateSeat
    exact fun _ => rfl
  | opens peer link => exact openSession_accounts peer (some link) rfl rfl
  | relinks a old link =>
    refine .spares ?_ rfl
    apply bucket?_updateSeat
    exact fun _ => rfl
  | receives a link c => exact receive_accounts a c
  | ends a link why =>
    refine .spares (bucket?_endClient s a why) ?_
    unfold State.endClient
    split
    · rfl
    · have before := congrArg (handlings h) (s.disconnect_history a)
      exact before
  | replies p => exact .replies p
  | beats id p =>
    rcases writeNode_cases g s id p with ⟨_, _, hw⟩ | ⟨_, hw⟩ | ⟨_, _, _, hw⟩ <;> rw [hw] <;>
      exact .spares rfl rfl
  | endsNode id why =>
    obtain ⟨_, rewired, _⟩ := endLink_rewires s id why
    exact rewired_accounts rewired
  | leaves address =>
    obtain ⟨_, rewired⟩ := endLinkTo_rewires s address
    exact rewired_accounts rewired

theorem deed_accounts (h : Handle) (deed : Deed g asked s s') : Accounts g asked h s s' := by
  cases deed with
  | moves move => exact move_accounts h move
  | opens peer link => exact openSession_accounts peer link rfl rfl
  | receives a c => exact receive_accounts a c
  | replies p => exact .replies p
  | disconnects a =>
    exact .spares (bucket?_disconnect s a) (congrArg (handlings h) (s.disconnect_history a))

theorem Moves.deeds (path : Moves g asked s s') : Relation.ReflTransGen (Deed g asked) s s' :=
  Relation.ReflTransGen.mono (fun _ _ => Deed.moves) _ _ path

theorem reachable_deeds {start : State} (reachable : Reachable g start s) :
    Relation.ReflTransGen (Deed g fun _ _ => True) start s := by
  induction reachable with
  | start => exact .refl
  | move _ move ih => exact ih.tail (.moves move)
  | opens peer link _ _ ih => exact ih.tail (.opens peer link)
  | operation a own _ done ih =>
    refine ih.tail ?_
    cases done with
    | receives c => exact .receives a c
    | replies p => exact .replies p
    | asks call => exact .moves (.asks a call trivial)
    | disconnects => exact .disconnects a

theorem reply_accounts (g : Setup) (h : Handle) (p : NodePacket) :
    handlings h (s.reply g p).2.history = handlings h s.history ∧
    ((s.reply g p).2.bucket? h = s.bucket? h ∨
      ∃ found calls interceptor, s.session? h = some found ∧ g.interceptor = some interceptor ∧
        calls = interceptor s.history found p ∧ (s.reply g p).2.bucket? h =
          some (found.bucket.takeUpTo s.clock.bucket (calls.count .acquire)).2) := by
  rcases reply_cases g s p with ⟨_, result⟩ | ⟨_, _, result⟩ |
    ⟨a, found, calls, after, noted, queued, outcome, answered, result⟩
  · rw [result]
    exact ⟨rfl, Or.inl rfl⟩
  · rw [result]
    exact ⟨rfl, Or.inl rfl⟩
  · have called := perform_all_bucket s.clock found calls
    have bucket : after.bucket = (calls.foldl (Session.perform s.clock) found).bucket := by
      cases answered.queues with
      | queued => rfl
      | dropped => rfl
    rw [result]
    refine ⟨?_, ?_⟩
    · have silent : ∀ o ∈ queued ++ noted, ¬o.Handles := by
        intro o hm
        rcases List.mem_append.mp hm with hm | hm
        · cases answered.queues with
          | queued => rw [List.mem_singleton.mp hm]; exact id
          | dropped => cases hm
        · cases answered.inspects with
          | unseen => cases hm
          | seen => rw [List.mem_singleton.mp hm]; exact id
      exact handlings_append silent s.history
    · by_cases mine : a = h
      · subst mine
        have now := bucket?_updateSession answered.waiter fun _ => after
        cases answered.inspects with
        | unseen =>
          left
          refine now.trans ?_
          rw [bucket, called, State.bucket?_eq answered.waiter]
          rfl
        | seen interceptor set =>
          exact Or.inr ⟨found, _, interceptor, answered.waiter, set, rfl,
            now.trans (congrArg some (bucket.trans called))⟩
      · left
        apply bucket?_of_seats
        simp [State.updateSession, State.updateSeat, mine]

end SessionGateway.Gateway
