import SessionGateway.Proofs.Gateway.Correlation
import SessionGateway.Proofs.Gateway.Service
import SessionGateway.Proofs.Wire.Chunks

/-! The frames of a node, as clients are concerned. They put frames behind what waits for a client, a
reply or what the interceptor sends over one, and only the interceptor can have a session closed over
them. No connection is touched while they are read. -/
namespace SessionGateway.Gateway

open Wire Liveness Liveness.Monitor

variable {g : Setup} {s s' s'' : State} {h : Handle} {news later : List Occurrence}

/-- What may come on record while the frames of a node are read. -/
def Occurrence.Spoken (g : Setup) : Occurrence → Prop
  | .inspected _ p calls => ∃ interceptor history session,
      g.interceptor = some interceptor ∧ calls = interceptor history session p
  | .delivered _ p => g.nodeCodec.Takes (.node p)
  | .dispatched _ _ | .nodeReceived _ _ _ | .linkEnded _ _ _ => True
  | _ => False

/-- Whether a call was asked of the session at `h` over a reply. -/
def AskedOver (news : List Occurrence) (h : Handle) (call : SessionCall) : Prop :=
  ∃ p calls, .inspected h p calls ∈ news ∧ call ∈ calls

/-- What became of the session at `h`, in so far as its client is concerned. -/
structure Supplied (news : List Occurrence) (h : Handle) (before after : Session) : Prop where
  queue : ∃ more, after.queue = before.queue ++ more ∧
    ∀ c ∈ more, (∃ p, .delivered h p ∈ news ∧ c = p.unwrap) ∨ AskedOver news h (.send c)
  cancelled : after.cancelled = true → before.cancelled = true ∨ AskedOver news h .close

/-- Frames of a node were read and this came on record. -/
structure Spoken (g : Setup) (news : List Occurrence) (s s' : State) : Prop where
  history : s'.history = news ++ s.history
  record : ∀ o ∈ news, o.Spoken g
  link : ∀ h, s'.clientLink? h = s.clientLink? h
  session : ∀ h before, s.session? h = some before →
    ∃ after, s'.session? h = some after ∧ Supplied news h before after

theorem AskedOver.mono {call : SessionCall} {wider : List Occurrence} (inside : news ⊆ wider)
    (asked : AskedOver news h call) : AskedOver wider h call := by
  obtain ⟨p, calls, inspected, member⟩ := asked
  exact ⟨p, calls, inside inspected, member⟩

theorem Supplied.refl (news : List Occurrence) (h : Handle) (session : Session) :
    Supplied news h session session where
  queue := ⟨[], by simp, by simp⟩
  cancelled := Or.inl

theorem Supplied.trans {a b c : Session} (first : Supplied news h a b) (second : Supplied later h b c) :
    Supplied (later ++ news) h a c where
  queue := by
    obtain ⟨more, queue, sources⟩ := first.queue
    obtain ⟨more', queue', sources'⟩ := second.queue
    refine ⟨more ++ more', by rw [queue', queue, List.append_assoc], ?_⟩
    intro c hc
    rcases List.mem_append.mp hc with hc | hc
    · rcases sources c hc with ⟨p, delivered, rfl⟩ | asked
      · exact Or.inl ⟨p, List.mem_append_right later delivered, rfl⟩
      · exact Or.inr (asked.mono (List.subset_append_right later news))
    · rcases sources' c hc with ⟨p, delivered, rfl⟩ | asked
      · exact Or.inl ⟨p, List.mem_append_left news delivered, rfl⟩
      · exact Or.inr (asked.mono (List.subset_append_left later news))
  cancelled := by
    intro cancelled
    rcases second.cancelled cancelled with cancelled | asked
    · rcases first.cancelled cancelled with cancelled | asked
      · exact Or.inl cancelled
      · exact Or.inr (asked.mono (List.subset_append_right later news))
    · exact Or.inr (asked.mono (List.subset_append_left later news))

theorem Spoken.refl (g : Setup) (s : State) : Spoken g [] s s where
  history := rfl
  record := by simp
  link := fun _ => rfl
  session := fun h session hs => ⟨session, hs, .refl [] h session⟩

theorem Spoken.trans (first : Spoken g news s s') (second : Spoken g later s' s'') :
    Spoken g (later ++ news) s s'' where
  history := by rw [second.history, first.history, List.append_assoc]
  record := by
    intro o member
    rcases List.mem_append.mp member with member | member
    · exact second.record o member
    · exact first.record o member
  link := fun h => (second.link h).trans (first.link h)
  session := by
    intro h before hs
    obtain ⟨middle, hm, supplied⟩ := first.session h before hs
    obtain ⟨after, ha, supplied'⟩ := second.session h middle hm
    exact ⟨after, ha, supplied.trans supplied'⟩

/-! ### Replies -/

theorem perform_cancelled (clock : SessionClock) (session : Session) (call : SessionCall)
    (cancelled : (session.perform clock call).cancelled = true) :
    session.cancelled = true ∨ call = .close := by
  cases call with
  | close => exact Or.inr rfl
  | _ =>
    left
    simpa [Session.perform, Session.setPhase_eq, Session.authenticate_eq, Session.bind_eq,
      Session.send_eq, Session.acquire, Session.touch] using cancelled

theorem perform_all_cancelled (clock : SessionClock) (session : Session) (calls : List SessionCall)
    (cancelled : (calls.foldl (Session.perform clock) session).cancelled = true) :
    session.cancelled = true ∨ .close ∈ calls := by
  induction calls generalizing session with
  | nil => exact Or.inl cancelled
  | cons call calls ih =>
    rcases ih _ cancelled with cancelled | member
    · rcases perform_cancelled clock session call cancelled with cancelled | rfl
      · exact Or.inl cancelled
      · exact Or.inr List.mem_cons_self
    · exact Or.inr (List.mem_cons_of_mem call member)

theorem Inspects.askedOver {history : List Occurrence} {session : Session} {p : NodePacket}
    {calls : List SessionCall} {noted : List Occurrence}
    (inspects : Inspects g history h session p calls noted) {call : SessionCall} (member : call ∈ calls)
    (inside : noted ⊆ news) : AskedOver news h call := by
  cases inspects with
  | unseen => cases member
  | seen interceptor =>
    exact ⟨p, interceptor history session p, inside List.mem_cons_self, member⟩

theorem answered_supplied {p : NodePacket} {session after : Session} {calls : List SessionCall}
    {noted queued : List Occurrence} {result : Dispatch}
    (answered : Answered g s p h session calls after noted queued result) :
    Supplied (.dispatched p result :: (queued ++ noted)) h session after := by
  have inside : noted ⊆ .dispatched p result :: (queued ++ noted) :=
    List.subset_cons_of_subset _ (List.subset_append_right queued noted)
  obtain ⟨own, queue, sends⟩ := perform_all_queue s.clock session calls
  have closed := perform_all_cancelled s.clock session calls
  have inspects := answered.inspects
  have asked : ∀ c ∈ own, AskedOver (.dispatched p result :: (queued ++ noted)) h (.send c) :=
    fun c hc => inspects.askedOver (sends c hc) inside
  have cancels (cancelled : (calls.foldl (Session.perform s.clock) session).cancelled = true) :
      session.cancelled = true ∨ AskedOver (.dispatched p result :: (queued ++ noted)) h .close :=
    (closed cancelled).imp_right fun member => inspects.askedOver member inside
  cases answered.queues with
  | queued =>
    refine ⟨⟨own ++ [p.unwrap], by simp [queue], ?_⟩, cancels⟩
    intro c hc
    rcases List.mem_append.mp hc with hc | hc
    · exact Or.inr (asked c hc)
    · exact Or.inl ⟨p, by simp, List.mem_singleton.mp hc⟩
  | dropped => exact ⟨⟨own, queue, fun c hc => Or.inr (asked c hc)⟩, cancels⟩

theorem reply_spoken (g : Setup) (s : State) {p : NodePacket} (takes : g.nodeCodec.Takes (.node p)) :
    ∃ news, Spoken g news s (s.reply g p).2 := by
  rcases reply_cases g s p with ⟨_, result⟩ | ⟨_, _, result⟩ |
    ⟨h, session, calls, after, noted, queued, outcome, answered, result⟩
  · rw [result]
    exact ⟨[.dispatched p .noPending], rfl, by simp [Occurrence.Spoken], fun _ => rfl,
      fun h session hs => ⟨session, hs, .refl _ h session⟩⟩
  · rw [result]
    exact ⟨[.dispatched p .sessionGone], rfl, by simp [Occurrence.Spoken], fun _ => rfl,
      fun h session hs => ⟨session, hs, .refl _ h session⟩⟩
  · rw [result]
    refine ⟨.dispatched p outcome :: (queued ++ noted), by simp, ?_, ?_, ?_⟩
    · intro o member
      simp only [List.mem_cons, List.mem_append] at member
      rcases member with rfl | member | member
      · trivial
      · cases answered.queues with
        | queued =>
          obtain rfl := List.mem_singleton.mp member
          exact takes
        | dropped => cases member
      · cases answered.inspects with
        | unseen => cases member
        | seen interceptor asks =>
          obtain rfl := List.mem_singleton.mp member
          exact ⟨interceptor, s.history, session, asks, rfl⟩
    · exact fun h' => State.clientLink?_updateSession s h h' fun _ => after
    · intro h' before hs
      have seen := answered.session?_eq h'
      by_cases hh : h = h'
      · subst h'
        rw [if_pos rfl] at seen
        obtain rfl := Option.some.inj (answered.waiter.symm.trans hs)
        exact ⟨after, seen, answered_supplied answered⟩
      · rw [if_neg hh, hs] at seen
        exact ⟨before, seen, .refl _ h' before⟩

theorem takes_unwrap {p : NodePacket} (takes : g.nodeCodec.Takes (.node p)) :
    g.clientCodec.Takes (.client p.unwrap) := by
  have fits : 16 + p.body.length ≤ g.frameLimit := takes.2
  have shorter : 12 + p.body.length ≤ g.frameLimit := by omega
  exact ⟨rfl, shorter⟩

/-! ### Frames -/

/-- What comes on record when something is written on a link or the link ends. -/
def Occurrence.AtWork : Occurrence → Prop
  | .nodeReceived _ _ _ | .linkEnded _ _ _ => True
  | _ => False

theorem Occurrence.AtWork.spoken {o : Occurrence} (atWork : o.AtWork) : o.Spoken g := by
  cases o <;> trivial

structure Worked (s : State) (news : List Occurrence) (s' : State) : Prop where
  state : s' = { s with links := s'.links, pool := s'.pool, history := news ++ s.history }
  news : ∀ o ∈ news, o.AtWork

theorem Worked.of_links (s : State) (links : List NodeLink) : Worked s [] { s with links } := ⟨rfl, by simp⟩

theorem Worked.trans (first : Worked s news s') (second : Worked s' later s'') :
    Worked s (later ++ news) s'' where
  state := by
    rw [second.state, first.state]
    simp
  news := by
    intro o member
    rcases List.mem_append.mp member with member | member
    · exact second.news o member
    · exact first.news o member

theorem endLink_worked (s : State) (id : Nat) (why : Ending) : ∃ news, Worked s news (s.endLink id why) := by
  unfold State.endLink
  split
  · exact ⟨[], .of_links s s.links⟩
  · exact ⟨[_], rfl, by simp [Occurrence.AtWork]⟩

theorem writeNode_worked (g : Setup) (s : State) (id : Nat) (p : Packet) :
    ∃ news, Worked s news (s.writeNode g id p).2 := by
  rcases writeNode_cases g s id p with ⟨_, _, result⟩ | ⟨_, result⟩ | ⟨_, links, _, result⟩ <;> rw [result]
  · exact ⟨[], .of_links s s.links⟩
  · exact ⟨[], .of_links s s.links⟩
  · exact ⟨[_], rfl, by simp [Occurrence.AtWork]⟩

theorem nodeFrame_cases (g : Setup) (s : State) (id : Nat) (p : Packet) :
    (∃ news, Worked s news (s.nodeFrame g id p)) ∨
    ∃ q links, p = .node q ∧ isReserved q.msgId = false ∧
      s.nodeFrame g id p = ({ s with links }.reply g q).2 := by
  unfold State.nodeFrame
  split
  · exact Or.inl ⟨[], .of_links s s.links⟩
  · rename_i nodeLink _
    rcases hin : nodeLink.link.monitor.onInbound s.now s.clock.wall p with ⟨inbound, monitor⟩
    have noted : Worked s [] (s.updateNodeLink id fun link => { link with monitor }) := .of_links s _
    dsimp only
    cases inbound with
    | reply answer =>
      obtain ⟨news, written⟩ := writeNode_worked g (s.updateNodeLink id fun link => { link with monitor }) id answer
      have answered := noted.trans written
      left
      dsimp only
      split <;> rename_i hw <;> rw [hw] at answered
      · obtain ⟨_, ended⟩ := endLink_worked _ id _
        exact ⟨_, answered.trans ended⟩
      · exact ⟨_, answered⟩
    | absorbed => exact Or.inl ⟨_, noted⟩
    | deliver q =>
      obtain ⟨rfl, business⟩ := onInbound_deliver hin
      cases q with
      | node p => exact Or.inr ⟨p, _, rfl, business, rfl⟩
      | client => exact Or.inl ⟨_, noted⟩
      | server => exact Or.inl ⟨_, noted⟩

theorem nodeFrame_reply {id : Nat} {nodeLink : NodeLink} (opened : s.nodeLink? id = some nodeLink)
    {p : NodePacket} (business : isReserved p.msgId = false) :
    ∃ links, s.nodeFrame g id (.node p) = ({ s with links }.reply g p).2 := by
  rcases hin : nodeLink.link.monitor.onInbound s.now s.clock.wall (.node p) with ⟨inbound, monitor⟩
  have handed : inbound = .deliver (.node p) := by
    simp only [isReserved, Bool.or_eq_false_iff] at business
    simp only [onInbound, Heartbeat.isRequest, Heartbeat.isResponse, Packet.msgId, business,
      Bool.false_eq_true, if_false] at hin
    exact (congrArg Prod.fst hin).symm
  subst inbound
  refine ⟨(s.updateNodeLink id fun link => { link with monitor }).links, ?_⟩
  simp only [State.nodeFrame, opened, hin]
  rfl

theorem Worked.spoken (worked : Worked s news s') : Spoken g news s s' := by
  rw [worked.state]
  exact ⟨rfl, fun o member => (worked.news o member).spoken, fun _ => rfl,
    fun h session hs => ⟨session, hs, .refl news h session⟩⟩

theorem nodeFrame_spoken (s : State) (id : Nat) {p : Packet} (takes : g.nodeCodec.Takes p) :
    ∃ news, Spoken g news s (s.nodeFrame g id p) := by
  rcases nodeFrame_cases g s id p with ⟨news, worked⟩ | ⟨q, links, rfl, _, result⟩
  · exact ⟨news, worked.spoken⟩
  · obtain ⟨news, spoken⟩ := reply_spoken g { s with links } takes
    rw [result]
    exact ⟨news, spoken.history, spoken.record, spoken.link, spoken.session⟩

theorem nodeFrames_spoken (s : State) (id : Nat) (packets : List Packet)
    (taken : ∀ p ∈ packets, g.nodeCodec.Takes p) :
    ∃ news, Spoken g news s (packets.foldl (State.nodeFrame g id) s) := by
  induction packets generalizing s with
  | nil => exact ⟨[], .refl g s⟩
  | cons p packets ih =>
    obtain ⟨news, first⟩ := nodeFrame_spoken s id (taken p List.mem_cons_self)
    obtain ⟨later, rest⟩ := ih (s.nodeFrame g id p) fun q hq => taken q (List.mem_cons_of_mem p hq)
    exact ⟨_, first.trans rest⟩

theorem nodeOctets_links (g : Setup) {id : Nat} {nodeLink : NodeLink}
    (opened : s.nodeLink? id = some nodeLink) (bytes : Octets) :
    let drained := g.nodeCodec.drain (nodeLink.link.input ++ bytes)
    let s₁ := drained.packets.foldl (State.nodeFrame g id)
      (s.updateNodeLink id fun link => { link with input := drained.rest })
    ∃ news, Worked s₁ news (s.nodeOctets g id bytes) := by
  intro drained s₁
  simp only [State.nodeOctets, opened]
  split
  · exact endLink_worked s₁ id _
  · exact ⟨[], .of_links s₁ s₁.links⟩

theorem nodeOctets_spoken (g : Setup) (s : State) (id : Nat) (bytes : Octets) :
    ∃ news, Spoken g news s (s.nodeOctets g id bytes) := by
  cases opened : s.nodeLink? id with
  | none =>
    rw [State.nodeOctets, opened]
    exact ⟨[], .refl g s⟩
  | some nodeLink =>
    obtain ⟨_, taken, _⟩ := Codec.drain_stream g.nodeCodec (nodeLink.link.input ++ bytes)
    obtain ⟨more, worked⟩ := nodeOctets_links g opened bytes
    generalize g.nodeCodec.drain (nodeLink.link.input ++ bytes) = drained at taken worked
    have start : Spoken g [] s (s.updateNodeLink id fun link => { link with input := drained.rest }) :=
      (Worked.of_links s _).spoken
    obtain ⟨news, read⟩ := nodeFrames_spoken
      (s.updateNodeLink id fun link => { link with input := drained.rest }) id drained.packets
      fun p hp => (taken p hp).1
    exact ⟨_, (start.trans read).trans worked.spoken⟩

theorem Spoken.view_eq (spoken : Spoken g news s s') (h : Handle) :
    s'.view h = { s.view h with session := s'.session? h } := by
  have silent {α : Type} {view : Occurrence → Option α}
      (blind : ∀ o : Occurrence, o.Spoken g → view o = none) :
      s'.history.filterMap view = s.history.filterMap view := by
    have nothing : news.filterMap view = [] :=
      List.filterMap_eq_nil_iff.mpr fun o member => blind o (spoken.record o member)
    rw [spoken.history, List.filterMap_append, nothing, List.nil_append]
  have written : written h s'.history = written h s.history := by
    refine silent fun o spoken => ?_
    cases o <;> first | rfl | exact spoken.elim
  have handled : handledFrames h s'.history = handledFrames h s.history := by
    refine silent fun o spoken => ?_
    cases o <;> first | rfl | exact spoken.elim
  have endings : endings h s'.history = endings h s.history := by
    refine silent fun o spoken => ?_
    cases o <;> first | rfl | exact spoken.elim
  rw [State.view, spoken.link, written, handled, endings]
  rfl

end SessionGateway.Gateway
