import SessionGateway.Proofs.Gateway.Passing

/-! Who gets through to the nodes. A frame does that is a login frame, or whose session the interceptor
authenticated over a reply to one of that session's own requests, after the session's last login. -/
namespace SessionGateway.Gateway

open Wire Selection

variable {g : Setup} {s s' : State} {h : Handle}

/-! ### What the record tells -/

/-- Calls after which a session may count as authenticated. -/
def SessionCall.opens : SessionCall → Bool
  | .authenticate _ | .setPhase .authenticated => true
  | _ => false

/-- The frames that nodes got besides heartbeats, latest first. -/
def nodeFrames (history : List Occurrence) : List Packet :=
  history.filterMap fun
    | .nodeReceived _ _ p => if isReserved p.msgId then none else some p
    | _ => none

/-- The frames of clients that were forwarded, as nodes get them. -/
def forwardedFrames (history : List Occurrence) : List Packet :=
  history.filterMap fun
    | .handled _ found c (.forwarded _) => some (.node (c.wrap found.id))
    | _ => none

/-- A request of the session went to a node under this number. -/
def Sent (h : Handle) (id : SessionId) (q : Int32) (history : List Occurrence) : Prop :=
  ∃ found c address, .handled h found c (.forwarded address) ∈ history ∧ found.id = id ∧
    c.seq.toInt32 = q

/-- The interceptor authenticated the session over a reply to a request that the session had sent. -/
def Granted (h : Handle) (id : SessionId) (player : Int64) (history : List Occurrence) : Prop :=
  ∃ newer q calls older, history = newer ++ .inspected h q calls :: older ∧
    .authenticate player ∈ calls ∧ q.session = id ∧ Sent h id q.seq older

def Occurrence.Handles : Occurrence → Prop
  | .handled _ _ _ _ => True
  | _ => False

def Shuts (g : Setup) (h : Handle) (o : Occurrence) : Prop :=
  ∃ found c outcome, o = .handled h found c outcome ∧ c.msgId = g.loginId ∧ outcome ≠ .rateLimited

def Opens (h : Handle) (history : List Occurrence) : Prop :=
  ∃ q calls call, .inspected h q calls ∈ history ∧ call ∈ calls ∧ call.opens = true

/-- After each login frame that was let in the interceptor opened the gate. -/
def Reopened (g : Setup) (h : Handle) (history : List Occurrence) : Prop :=
  ∀ later o earlier, history = later ++ o :: earlier → Shuts g h o → Opens h later

def Admitted (g : Setup) (h : Handle) (found : Session) (c : ClientPacket)
    (earlier : List Occurrence) : Prop :=
  c.msgId = g.loginId ∨ found.phase = .authenticated ∧
    (∃ player, found.player = some player ∧ Granted h found.id player earlier) ∧ Reopened g h earlier

def GateKept (g : Setup) (history : List Occurrence) : Prop :=
  ∀ later h found c address earlier,
    history = later ++ .handled h found c (.forwarded address) :: earlier →
    isReserved c.msgId = false ∧ Admitted g h found c earlier

theorem Sent.later {id : SessionId} {q : Int32} {history : List Occurrence} (sent : Sent h id q history)
    (news : List Occurrence) : Sent h id q (news ++ history) := by
  obtain ⟨found, c, address, member, same⟩ := sent
  exact ⟨found, c, address, List.mem_append_right news member, same⟩

theorem Granted.later {id : SessionId} {player : Int64} {history : List Occurrence}
    (granted : Granted h id player history) (news : List Occurrence) :
    Granted h id player (news ++ history) := by
  obtain ⟨newer, q, calls, older, rfl, call, same, sent⟩ := granted
  exact ⟨news ++ newer, q, calls, older, by simp, call, same, sent⟩

theorem Opens.later {history : List Occurrence} (opened : Opens h history) (o : Occurrence) :
    Opens h (o :: history) := by
  obtain ⟨q, calls, call, member, opens⟩ := opened
  exact ⟨q, calls, call, List.mem_cons_of_mem o member, opens⟩

theorem Reopened.cons {o : Occurrence} {history : List Occurrence} (reopened : Reopened g h history)
    (passes : ¬Shuts g h o) : Reopened g h (o :: history) := by
  intro later o' earlier split shuts
  cases later with
  | nil =>
    obtain ⟨rfl, rfl⟩ := List.cons.inj split
    exact absurd shuts passes
  | cons first later =>
    obtain ⟨rfl, rest⟩ := List.cons.inj split
    exact (reopened later o' earlier rest shuts).later o

theorem Shuts.handles {o : Occurrence} (shuts : Shuts g h o) : o.Handles := by
  obtain ⟨found, c, outcome, rfl, _⟩ := shuts
  trivial

theorem Reopened.later {history : List Occurrence} (reopened : Reopened g h history)
    {news : List Occurrence} (none : ∀ o ∈ news, ¬o.Handles) : Reopened g h (news ++ history) := by
  induction news with
  | nil => exact reopened
  | cons o news ih =>
    have rest := ih fun o' member => none o' (List.mem_cons_of_mem o member)
    exact rest.cons fun shuts => none o List.mem_cons_self shuts.handles

theorem reopened_now {q : NodePacket} {calls : List SessionCall} {call : SessionCall}
    (member : call ∈ calls) (opens : call.opens = true) (history : List Occurrence) :
    Reopened g h (.inspected h q calls :: history) := by
  intro later o earlier split shuts
  cases later with
  | nil =>
    obtain ⟨rfl, rfl⟩ := List.cons.inj split
    obtain ⟨found, c, outcome, impossible, _⟩ := shuts
    cases impossible
  | cons first later =>
    obtain ⟨rfl, _⟩ := List.cons.inj split
    exact ⟨q, calls, call, List.mem_cons_self, member, opens⟩

theorem gateKept_cons {o : Occurrence} {history : List Occurrence} (kept : GateKept g history)
    (now : ∀ h found c address, o = .handled h found c (.forwarded address) →
      isReserved c.msgId = false ∧ Admitted g h found c history) : GateKept g (o :: history) := by
  intro later h found c address earlier split
  cases later with
  | nil =>
    obtain ⟨rfl, rfl⟩ := List.cons.inj split
    exact now h found c address rfl
  | cons first later =>
    obtain ⟨rfl, rest⟩ := List.cons.inj split
    exact kept later h found c address earlier rest

theorem gateKept_later {news history : List Occurrence} (none : ∀ o ∈ news, ¬o.Handles)
    (kept : GateKept g history) : GateKept g (news ++ history) := by
  induction news with
  | nil => exact kept
  | cons o news ih =>
    refine gateKept_cons (ih fun o' member => none o' (List.mem_cons_of_mem o member)) ?_
    rintro h found c address rfl
    exact absurd trivial (none _ List.mem_cons_self)

/-- Occurrences by which no client's frame gets through. -/
def Occurrence.Unrelated : Occurrence → Prop
  | .handled _ _ _ _ => False
  | .nodeReceived _ _ p => isReserved p.msgId = true
  | _ => True

theorem Occurrence.Unrelated.not_handles {o : Occurrence} (ho : o.Unrelated) : ¬o.Handles := by
  intro handles
  cases o with
  | handled => exact ho
  | _ => exact handles

theorem frames_unrelated {news : List Occurrence} (unrelated : ∀ o ∈ news, o.Unrelated)
    (history : List Occurrence) : nodeFrames (news ++ history) = nodeFrames history ∧
      forwardedFrames (news ++ history) = forwardedFrames history := by
  induction news with
  | nil => exact ⟨rfl, rfl⟩
  | cons o news ih =>
    have rest := ih fun o' member => unrelated o' (List.mem_cons_of_mem o member)
    have this := unrelated o List.mem_cons_self
    unfold nodeFrames forwardedFrames at rest ⊢
    rw [List.cons_append, List.filterMap_cons, List.filterMap_cons, rest.1, rest.2]
    cases o with
    | handled => cases this
    | nodeReceived link address p =>
      simp only [Occurrence.Unrelated] at this
      simp [this]
    | _ => exact ⟨rfl, rfl⟩

/-! ### Sessions under calls -/

theorem perform_phase (clock : SessionClock) (session : Session) (call : SessionCall)
    (authenticated : (session.perform clock call).phase = .authenticated) :
    session.phase = .authenticated ∨ call.opens = true := by
  cases call with
  | setPhase phase =>
    by_cases same : phase = .authenticated
    · rw [same]
      exact Or.inr rfl
    · rw [Session.perform, Session.setPhase_eq] at authenticated
      dsimp only at authenticated
      split at authenticated
      · cases authenticated
      · exact absurd authenticated same
  | authenticate player => exact Or.inr rfl
  | bind node => exact Or.inl (by simpa [Session.perform, Session.bind_eq] using authenticated)
  | send p => exact Or.inl (by simpa [Session.perform, Session.send_eq] using authenticated)
  | acquire => exact Or.inl authenticated
  | touch => exact Or.inl authenticated
  | close => cases authenticated

theorem perform_all_phase (clock : SessionClock) (session : Session) (calls : List SessionCall)
    (authenticated : (calls.foldl (Session.perform clock) session).phase = .authenticated) :
    session.phase = .authenticated ∨ ∃ call ∈ calls, call.opens = true := by
  induction calls generalizing session with
  | nil => exact Or.inl authenticated
  | cons call calls ih =>
    rcases ih (session.perform clock call) authenticated with before | ⟨call', member, opens⟩
    · rcases perform_phase clock session call before with before | opens
      · exact Or.inl before
      · exact Or.inr ⟨call, List.mem_cons_self, opens⟩
    · exact Or.inr ⟨call', List.mem_cons_of_mem call member, opens⟩

theorem perform_all_player (clock : SessionClock) (session : Session) (calls : List SessionCall)
    {player : Int64} (known : (calls.foldl (Session.perform clock) session).player = some player) :
    session.player = some player ∨ .authenticate player ∈ calls := by
  induction calls generalizing session with
  | nil => exact Or.inl known
  | cons call calls ih =>
    rcases ih (session.perform clock call) known with before | member
    · rcases session.perform_player clock call with kept | ⟨other, rfl, set⟩
      · exact Or.inl (kept.symm.trans before)
      · obtain rfl := Option.some.inj (set.symm.trans before)
        exact Or.inr List.mem_cons_self
    · exact Or.inr (List.mem_cons_of_mem call member)

/-! ### The invariant -/

/-- What the record has to tell of the sessions as they are and the requests that wait. -/
structure Justified (g : Setup) (s : State) (history : List Occurrence) : Prop where
  gate : GateKept g history
  players : ∀ h session player, s.session? h = some session → session.player = some player →
    Granted h session.id player history
  opened : ∀ h session, s.session? h = some session → session.phase = .authenticated →
    Reopened g h history
  waiting : ∀ h b k, s.Connected h b → k ∈ s.pending.keys → b.id = k.session →
    Sent h k.session k.seq history

theorem Justified.later {history news : List Occurrence} (justified : Justified g s history)
    (none : ∀ o ∈ news, ¬o.Handles) : Justified g s (news ++ history) where
  gate := gateKept_later none justified.gate
  players := fun h session player hs known => (justified.players h session player hs known).later news
  opened := fun h session hs authenticated => (justified.opened h session hs authenticated).later none
  waiting := fun h b k connected hk id => (justified.waiting h b k connected hk id).later news

structure GateInvariant (g : Setup) (s : State) : Prop where
  registry : RegistryInvariant s
  frames : nodeFrames s.history = forwardedFrames s.history
  justified : Justified g s s.history
  asked : ∀ h q calls, .inspected h q calls ∈ s.history →
    ∃ interceptor history session, g.interceptor = some interceptor ∧
      calls = interceptor history session q

def Idle (_ : Handle) (call : SessionCall) : Prop := call.opens = false

theorem Occurrence.Incidental.unrelated {o : Occurrence} (ho : o.Incidental) : o.Unrelated := by
  cases o <;> first | exact ho | trivial

theorem follows_gate {before after : Session} (follows : before.Follows (Idle h) after) :
    after.id = before.id ∧ after.player = before.player ∧
    (after.phase = .authenticated → before.phase = .authenticated) := by
  rcases follows with ⟨player, id, _, phase⟩ | ⟨clock, call, idle, rfl⟩
  · refine ⟨id, player, fun authenticated => ?_⟩
    rcases phase with kept | closed
    · exact kept.symm.trans authenticated
    · cases closed.symm.trans authenticated
  · have closed : call.opens ≠ true := by simp [show call.opens = false from idle]
    refine ⟨before.perform_id clock call, ?_, fun authenticated => ?_⟩
    · rcases before.perform_player clock call with kept | ⟨player, rfl, _⟩
      · exact kept
      · exact absurd rfl closed
    · exact (perform_phase clock before call authenticated).resolve_right closed

theorem passes_justified {history : List Occurrence} (registry : RegistryInvariant s)
    (change : Registers s s') (passes : Passes Idle s s') (justified : Justified g s history) :
    Justified g s' history where
  gate := justified.gate
  players := by
    intro h after player hs known
    rcases passes.sessions h after hs with ⟨_, unknown, _⟩ | ⟨before, hb, follows⟩
    · cases unknown.symm.trans known
    · obtain ⟨id, same, _⟩ := follows_gate follows
      rw [id]
      exact justified.players h before player hb (same ▸ known)
  opened := by
    intro h after hs authenticated
    rcases passes.sessions h after hs with ⟨_, _, _, fresh⟩ | ⟨before, hb, follows⟩
    · cases fresh.symm.trans authenticated
    · obtain ⟨_, _, phase⟩ := follows_gate follows
      exact justified.opened h before hb (phase authenticated)
  waiting := by
    intro h b k connected hk id
    have waits := passes.waiting k hk
    exact justified.waiting h b k (waiting_connected registry change waits connected id) waits id

theorem passes_preserves_gate (inv : GateInvariant g s) (change : Registers s s')
    (passes : Passes Idle s s') : GateInvariant g s' := by
  obtain ⟨news, history, incidental⟩ := passes.history
  have unrelated : ∀ o ∈ news, o.Unrelated := fun o member => (incidental o member).unrelated
  have none : ∀ o ∈ news, ¬o.Handles := fun o member => (unrelated o member).not_handles
  have frames := frames_unrelated unrelated s.history
  refine ⟨registers_preserves_invariant inv.registry change, ?_, ?_, ?_⟩
  · rw [history, frames.1, frames.2, inv.frames]
  · rw [history]
    exact passes_justified inv.registry change passes (inv.justified.later none)
  · intro h q calls member
    rw [history] at member
    rcases List.mem_append.mp member with new | old
    · exact False.elim (incidental _ new)
    · exact inv.asked h q calls old

theorem Traffic.frames {before after : Pending} {found : Session} {p : ClientPacket}
    {outcome : Outcome} {traffic : List Occurrence}
    (t : Traffic before h found.id p outcome after traffic) (business : isReserved p.msgId = false)
    {history : List Occurrence} (same : nodeFrames history = forwardedFrames history) :
    nodeFrames (.handled h found p outcome :: (traffic ++ history)) =
      forwardedFrames (.handled h found p outcome :: (traffic ++ history)) := by
  have plain : isReserved (Packet.node (p.wrap found.id)).msgId = false := business
  unfold nodeFrames forwardedFrames at same ⊢
  cases t with
  | unasked outcome unsent =>
    cases outcome with
    | forwarded address => exact absurd rfl (unsent address)
    | _ => exact same
  | refused ended named =>
    have unrelated : ∀ o ∈ ended ++ [.requested h ⟨found.id, p.seq.toInt32⟩], o.Unrelated := by
      intro o member
      rcases List.mem_append.mp member with late | early
      · obtain ⟨_, _, _, rfl⟩ := named o late
        trivial
      · obtain rfl := List.mem_singleton.mp early
        trivial
    obtain ⟨asked, forwarded⟩ := frames_unrelated unrelated history
    exact asked.trans (same.trans forwarded.symm)
  | sent address link place => simp [plain, same]

theorem received_justified {found after : Session} {b : Badge} {p : ClientPacket} {outcome : Outcome}
    {traffic news history : List Occurrence} (registry : RegistryInvariant s)
    (hs : s.session? h = some found) (connected : s.Connected h b) (id : b.id = found.id)
    (business : isReserved p.msgId = false) (roster : s'.roster = s.roster)
    (received : Received g s h found p outcome after traffic news s')
    (justified : Justified g s history) :
    Justified g s' (.handled h found p outcome :: history) where
  gate := by
    refine gateKept_cons justified.gate ?_
    intro h' found' c address same
    cases same
    refine ⟨business, ?_⟩
    rcases received.gate with login | authenticated | refused
    · exact Or.inl login
    · simp only [Session.isAuthenticated, Bool.and_eq_true, decide_eq_true_eq] at authenticated
      obtain ⟨player, known⟩ := Option.isSome_iff_exists.mp authenticated.1
      exact Or.inr ⟨authenticated.2, ⟨player, known, justified.players h found player hs known⟩,
        justified.opened h found hs authenticated.2⟩
    · cases refused
  players := by
    intro h' session player hsession known
    rw [received.session?_eq hs] at hsession
    by_cases hh : h = h'
    · subst h'
      rw [if_pos rfl] at hsession
      obtain rfl := Option.some.inj hsession
      rw [received.client] at known ⊢
      exact (justified.players h found player hs known).later [_]
    · rw [if_neg hh] at hsession
      exact (justified.players h' session player hsession known).later [_]
  opened := by
    intro h' session hsession authenticated
    rw [received.session?_eq hs] at hsession
    by_cases hh : h = h'
    · subst h'
      rw [if_pos rfl] at hsession
      obtain rfl := Option.some.inj hsession
      by_cases login : p.msgId = g.loginId ∧ outcome ≠ .rateLimited
      · -- A login that is let in leaves the session authenticating or closed.
        rw [received.login_phase login.1 login.2, Session.setPhase_eq] at authenticated
        dsimp only at authenticated
        split at authenticated <;> cases authenticated
      · have phase := received.other_phase (by tauto)
        refine (justified.opened h found hs (phase ▸ authenticated)).cons ?_
        rintro ⟨_, _, _, same, msgId, limited⟩
        cases same
        exact login ⟨msgId, limited⟩
    · rw [if_neg hh] at hsession
      refine (justified.opened h' session hsession authenticated).cons ?_
      rintro ⟨_, _, _, same, _⟩
      cases same
      exact hh rfl
  waiting := by
    intro h' b' k connected' hk same
    have was := (connected_of_roster roster).mp connected'
    rcases received.traffic.waiting hk with hk | ⟨rfl, address, rfl⟩
    · exact (justified.waiting h' b' k was hk same).later [_]
    · -- The new wait is this frame's own: no other connected session has its id.
      obtain rfl := registry.distinct h' h b' b was connected (same.trans id.symm)
      exact ⟨found, p, address, List.mem_cons_self, rfl, rfl⟩

theorem receive_preserves_gate (inv : GateInvariant g s) {found : Session} {b : Badge}
    {p : ClientPacket} (hs : s.session? h = some found) (connected : s.Connected h b)
    (id : b.id = found.id) (business : isReserved p.msgId = false) :
    GateInvariant g (s.receive g h p).2 := by
  obtain ⟨outcome, after, traffic, news, received⟩ := receive_received g hs business
  have roster := receive_roster (g := g) hs business
  have change := receive_registers (g := g) hs connected id business
  have prepared : ∀ o ∈ news, o.Unrelated := fun o member =>
    (received.news o member).incidental.unrelated
  have sent : ∀ o ∈ traffic, ¬o.Handles := by
    intro o member handles
    rcases received.traffic.recorded member with rfl | ⟨_, _, rfl⟩ | ⟨_, _, _, rfl⟩ <;> exact handles
  have justified := (inv.justified.later fun o member => (prepared o member).not_handles).later sent
  have frames := frames_unrelated prepared s.history
  refine ⟨registers_preserves_invariant inv.registry change, ?_, ?_, ?_⟩
  · rw [received.history]
    exact received.traffic.frames business (by rw [frames.1, frames.2, inv.frames])
  · rw [received.history]
    exact received_justified inv.registry hs connected id business roster received justified
  · intro h' q calls member
    rw [received.history] at member
    simp only [List.mem_cons, List.mem_append, reduceCtorEq, false_or] at member
    rcases member with member | member | member
    · rcases received.traffic.recorded member with same | ⟨_, _, same⟩ | ⟨_, _, _, same⟩ <;> cases same
    · exact False.elim (received.news _ member)
    · exact inv.asked h' q calls member

theorem Queues.gate {session after : Session} {p : NodePacket} {result : Dispatch}
    {queued : List Occurrence} (queues : Queues h session p result after queued) :
    after.id = session.id ∧ after.player = session.player ∧ after.phase = session.phase ∧
    ∀ o ∈ queued, o.Unrelated := by
  cases queues with
  | queued => exact ⟨rfl, rfl, rfl, by simp [Occurrence.Unrelated]⟩
  | dropped => exact ⟨rfl, rfl, rfl, by simp⟩

theorem Queues.uninspected {h' : Handle} {session after : Session} {p q : NodePacket}
    {result : Dispatch} {queued : List Occurrence} {calls : List SessionCall}
    (queues : Queues h session p result after queued) : .inspected h' q calls ∉ queued := by
  cases queues <;> simp

theorem Inspects.asked {h' : Handle} {history : List Occurrence} {session : Session}
    {p q : NodePacket} {calls asked : List SessionCall} {noted : List Occurrence}
    (inspects : Inspects g history h session p calls noted) (member : .inspected h' q asked ∈ noted) :
    ∃ interceptor, g.interceptor = some interceptor ∧ q = p ∧ asked = interceptor history session p := by
  cases inspects with
  | unseen => cases member
  | seen interceptor given =>
    cases List.mem_singleton.mp member
    exact ⟨interceptor, given, rfl, rfl⟩

theorem Inspects.unrelated {history : List Occurrence} {session : Session} {p : NodePacket}
    {calls : List SessionCall} {noted : List Occurrence}
    (inspects : Inspects g history h session p calls noted) : ∀ o ∈ noted, o.Unrelated := by
  intro o member
  cases inspects with
  | unseen => cases member
  | seen =>
    obtain rfl := List.mem_singleton.mp member
    trivial

theorem answered_justified (inv : GateInvariant g s) {p : NodePacket} {session after : Session}
    {calls : List SessionCall} {noted queued : List Occurrence} {result : Dispatch}
    (answered : Answered g s p h session calls after noted queued result)
    (sessions : ∀ h', s'.session? h' = if h = h' then some after else s.session? h')
    (roster : s'.roster = s.roster) (pending : ∀ k ∈ s'.pending.keys, k ∈ s.pending.keys) :
    Justified g s' (noted ++ s.history) := by
  obtain ⟨b, connected, id⟩ := inv.registry.find?_iff.mp answered.found
  obtain ⟨found, hfound, same⟩ := roster_session connected.1
  obtain rfl : session = found := Option.some.inj (answered.waiter.symm.trans hfound)
  obtain ⟨kept, player_eq, phase_eq, _⟩ := answered.queues.gate
  rw [perform_all_id] at kept
  have request := inv.justified.waiting h b _ connected answered.waiting id
  have before := inv.justified.later fun o member => (answered.inspects.unrelated o member).not_handles
  refine ⟨before.gate, ?_, ?_, ?_⟩
  · intro h' session' player hsession known
    rw [sessions] at hsession
    by_cases hh : h = h'
    · subst h'
      rw [if_pos rfl] at hsession
      obtain rfl := Option.some.inj hsession
      rw [kept]
      rcases perform_all_player s.clock session calls (player_eq ▸ known) with old | granted
      · exact before.players h session player answered.waiter old
      · cases answered.inspects with
        | unseen => cases granted
        | seen =>
          have own := same.trans id
          exact ⟨[], p, _, s.history, rfl, granted, own.symm, own ▸ request⟩
    · rw [if_neg hh] at hsession
      exact before.players h' session' player hsession known
  · intro h' session' hsession authenticated
    rw [sessions] at hsession
    by_cases hh : h = h'
    · subst h'
      rw [if_pos rfl] at hsession
      obtain rfl := Option.some.inj hsession
      rcases perform_all_phase s.clock session calls (phase_eq ▸ authenticated) with
        old | ⟨call, member, opens⟩
      · exact before.opened h session answered.waiter old
      · cases answered.inspects with
        | unseen => cases member
        | seen => exact reopened_now member opens s.history
    · rw [if_neg hh] at hsession
      exact before.opened h' session' hsession authenticated
  · intro h' b' k connected' hk same'
    have was := (connected_of_roster roster).mp connected'
    exact before.waiting h' b' k was (pending k hk) same'

theorem reply_preserves_gate (inv : GateInvariant g s) (p : NodePacket) :
    GateInvariant g (s.reply g p).2 := by
  have change := reply_registers (g := g) (s := s) p
  rcases reply_passes Idle g s p with passes |
    ⟨h, session, calls, after, noted, queued, outcome, answered, result⟩
  · exact passes_preserves_gate inv change passes
  · rw [result] at change ⊢
    obtain ⟨_, _, _, delivered⟩ := answered.queues.gate
    have looked := answered.inspects.unrelated
    have news : ∀ o ∈ .dispatched p outcome :: queued, o.Unrelated := by
      intro o member
      rcases List.mem_cons.mp member with rfl | member
      · trivial
      · exact delivered o member
    have history : .dispatched p outcome :: (queued ++ noted ++ s.history) =
        .dispatched p outcome :: queued ++ (noted ++ s.history) := by simp
    have first := frames_unrelated looked s.history
    have last := frames_unrelated news (noted ++ s.history)
    refine ⟨registers_preserves_invariant inv.registry change, ?_, ?_, ?_⟩
    · rw [history, last.1, last.2, first.1, first.2, inv.frames]
    · rw [history]
      refine Justified.later ?_ fun o member => (news o member).not_handles
      apply answered_justified inv answered
      · exact fun h' => answered.session?_eq h'
      · exact answered_roster answered
      · exact fun k hk => ((Pending.mem_take _ _ _).mp hk).1
    · intro h' q asked member
      simp only [List.mem_cons, List.mem_append, reduceCtorEq, false_or] at member
      rcases member with (new | new) | old
      · exact absurd new answered.queues.uninspected
      · obtain ⟨interceptor, given, rfl, rfl⟩ := answered.inspects.asked new
        exact ⟨interceptor, s.history, session, given, rfl⟩
      · exact inv.asked h' q asked old

theorem initial_gate (g : Setup) (resolver : Resolver) (clock : SessionClock)
    (network : Network) : GateInvariant g (State.initial resolver clock network) where
  registry := initial_registry resolver clock network
  frames := rfl
  justified := by
    refine ⟨?_, ?_, ?_, ?_⟩
    · intro later h found c address earlier split
      cases later <;> cases split
    · simp [State.initial, State.session?]
    · simp [State.initial, State.session?]
    · simp [State.initial, Pending.empty]
  asked := by simp [State.initial]

theorem move_preserves_gate (s s' : State) (inv : GateInvariant g s) (move : Move g Idle s s') :
    GateInvariant g s' := by
  have change := move_registers inv.registry move
  rcases move_cases inv.registry move with passes | ⟨h, found, b, p, hs, hb, id, business, rfl⟩ |
    ⟨p, _, rfl⟩
  · exact passes_preserves_gate inv change passes
  · exact receive_preserves_gate inv hs hb id business
  · exact reply_preserves_gate inv p

/-! ### Runs -/

/-- Nobody but a login frame gets through unless an interceptor authenticates. -/
theorem GateInvariant.login_only (inv : GateInvariant g s)
    (never : ∀ interceptor, g.interceptor = some interceptor → ∀ history session q player,
      .authenticate player ∉ interceptor history session q) :
    ∀ p ∈ nodeFrames s.history, p.msgId = g.loginId := by
  intro p member
  rw [inv.frames] at member
  obtain ⟨o, recorded, frame⟩ := List.mem_filterMap.mp member
  obtain ⟨later, earlier, split⟩ := List.append_of_mem recorded
  cases o with
  | handled h found c outcome =>
    cases outcome with
    | forwarded address =>
      obtain rfl := Option.some.inj frame
      rcases (inv.justified.gate later h found c address earlier split).2 with login | ⟨_, granted, _⟩
      · exact login
      · obtain ⟨player, _, newer, q, calls, older, rfl, call, _⟩ := granted
        have inspected : .inspected h q calls ∈ s.history := by simp [split]
        obtain ⟨interceptor, history, session, given, rfl⟩ := inv.asked h q calls inspected
        exact absurd call (never interceptor given history session q player)
    | _ => cases frame
  | _ => cases frame

/-- The gate that logins and interceptors keep, over every run in which sessions are authenticated from
inside a gateway only. Nodes get heartbeats of the gateway's own and the frames that were forwarded, never
a heartbeat of a client. A forwarded frame is a login frame, or its session was authenticated then by an
interceptor's call over a reply to one of the session's own forwarded requests, and since the last login
frame that was let in the interceptor opened the gate. -/
theorem gate_kept (g : Setup) (resolver : Resolver) (clock : SessionClock) (network : Network)
    (events : List Event) (inside : ∀ h call, .ask h call ∈ events → call.opens = false) :
    let history := ((State.initial resolver clock network).run g events).history
    nodeFrames history = forwardedFrames history ∧
    (∀ (s : State) h found (c : ClientPacket), s.session? h = some found →
      isReserved c.msgId = true → ∃ outcome : Outcome, (∀ address, outcome ≠ .forwarded address) ∧
        (s.receive g h c).2.history = .handled h found c outcome :: s.history) ∧
    (∀ later h found c address earlier,
      history = later ++ .handled h found c (.forwarded address) :: earlier →
      c.msgId ≠ heartbeatRequestId ∧ c.msgId ≠ heartbeatResponseId ∧
      (c.msgId = g.loginId ∨ found.phase = .authenticated ∧
        ∃ player, found.player = some player ∧ Granted h found.id player earlier)) ∧
    (∀ h q calls, .inspected h q calls ∈ history → ∃ interceptor past session,
      g.interceptor = some interceptor ∧ calls = interceptor past session q) ∧
    ((∀ interceptor, g.interceptor = some interceptor → ∀ past session q player,
      .authenticate player ∉ interceptor past session q) →
      ∀ p ∈ nodeFrames history, p.msgId = g.loginId) ∧
    ∀ later h found c address middle found' c' outcome earlier,
      history = later ++ .handled h found c (.forwarded address) ::
        (middle ++ .handled h found' c' outcome :: earlier) →
      c'.msgId = g.loginId → outcome ≠ .rateLimited → c.msgId ≠ g.loginId → Opens h middle := by
  intro history
  have inv : GateInvariant g ((State.initial resolver clock network).run g events) :=
    run_invariant move_preserves_gate (initial_gate g resolver clock network) inside
  have gate := inv.justified.gate
  refine ⟨inv.frames, ?_, ?_, inv.asked, inv.login_only, ?_⟩
  · intro s h found c hs reserved
    obtain ⟨outcome, unsent, _, recorded⟩ := receive_reserved g hs reserved
    exact ⟨outcome, unsent, recorded⟩
  · intro later h found c address earlier split
    obtain ⟨business, admitted⟩ := gate later h found c address earlier split
    simp only [isReserved, Bool.or_eq_false_iff, beq_eq_false_iff_ne] at business
    refine ⟨business.1, business.2, ?_⟩
    rcases admitted with login | ⟨authenticated, granted, _⟩
    · exact Or.inl login
    · exact Or.inr ⟨authenticated, granted⟩
  · intro later h found c address middle found' c' outcome earlier split login admitted other
    obtain ⟨_, passed⟩ := gate later h found c address _ split
    obtain ⟨_, _, reopened⟩ := passed.resolve_left other
    exact reopened middle _ earlier rfl ⟨found', c', outcome, rfl, login, admitted⟩

namespace Guarded

/-! A gateway whose interceptor takes the answer to a login for the player's credentials. -/

def setup : Setup where
  frameLimit := 1024
  queueCapacity := 4
  rate := .standard
  heartbeats := ⟨60000, 30000, none, 3⟩
  connectTimeout := 5000
  loginId := 11000
  strategy := .roundRobin
  interceptor := some fun _ _ p => if p.msgId = 11000 then [.authenticate 7] else []
  draws := id

def login : ClientPacket := { msgId := setup.loginId, seq := 1, magic := 0, body := [] }

def business : ClientPacket := { msgId := 20001, seq := 2, magic := 0, body := [9] }

def octets (codec : Codec) (p : Packet) : Octets :=
  match codec.encode p with
  | .ok bytes => bytes
  | .error _ => []

def resolver : Resolver := ⟨"game-node", none, .empty, ⟨0, 0⟩⟩

/-- The client sends a frame too early, logs in, is authenticated, and sends the frame again. -/
def events : List Event :=
  [.addNode "a" "n:1", .clientConnects none,
    .clientSends 0 (octets setup.clientCodec (.client business)),
    .clientSends 0 (octets setup.clientCodec (.client login)),
    .nodeSends 1 (octets setup.nodeCodec (.node (login.wrap 1))),
    .clientSends 0 (octets setup.clientCodec (.client business))]

end Guarded

theorem login_opens_gate : (∀ h call, .ask h call ∈ Guarded.events → call.opens = false) ∧
    nodeFrames ((State.initial Guarded.resolver ⟨0, 0⟩ (.steady fun _ => .accepting)).run
      Guarded.setup Guarded.events).history =
        [.node (Guarded.business.wrap 1), .node (Guarded.login.wrap 1)] := by
  have inside : ∀ h call, .ask h call ∈ Guarded.events → call.opens = false := by
    simp [Guarded.events]
  have kept := gate_kept Guarded.setup Guarded.resolver ⟨0, 0⟩ (.steady fun _ => .accepting) Guarded.events inside
  refine ⟨inside, kept.1.trans ?_⟩
  decide +kernel

end SessionGateway.Gateway
