import SessionGateway.Proofs.Gateway.Handling

/-! What the dispatch of a reply does. It ends the wait it answers, lets the interceptor act on the one
session that waited, and queues one frame for that session's client or none. -/
namespace SessionGateway.Gateway

open Wire

variable {g : Setup} {s : State} {h : Handle}

/-- What the interceptor asks of a session that a reply is meant for, and the record of it. -/
inductive Inspects (g : Setup) (history : List Occurrence) (h : Handle) (session : Session)
    (p : NodePacket) : List SessionCall → List Occurrence → Prop where
  | unseen : g.interceptor = none → Inspects g history h session p [] []
  | seen (calls : Interceptor) : g.interceptor = some calls → Inspects g history h session p
      (calls history session p) [.inspected h p (calls history session p)]

/-- What becomes of the frame, given the session as the interceptor leaves it. -/
inductive Queues (h : Handle) (session : Session) (p : NodePacket) :
    Dispatch → Session → List Occurrence → Prop where
  | queued : session.isActive = true → session.queue.length < session.capacity →
      Queues h session p .delivered { session with queue := session.queue ++ [p.unwrap] }
        [.delivered h p]
  | dropped : ¬(session.isActive = true ∧ session.queue.length < session.capacity) →
      Queues h session p .sessionGone session []

structure Answered (g : Setup) (s : State) (p : NodePacket) (h : Handle) (session : Session)
    (calls : List SessionCall) (after : Session) (noted queued : List Occurrence)
    (result : Dispatch) : Prop where
  waiting : (⟨p.session, p.seq⟩ : RequestKey) ∈ s.pending.keys
  found : s.find? p.session = some h
  waiter : s.session? h = some session
  inspects : Inspects g s.history h session p calls noted
  queues : Queues h (calls.foldl (Session.perform s.clock) session) p result after queued

theorem Answered.session?_eq {p : NodePacket} {session after : Session} {calls : List SessionCall}
    {noted queued : List Occurrence} {result : Dispatch}
    (answered : Answered g s p h session calls after noted queued result) (h' : Handle) :
    (s.updateSession h fun _ => after).session? h' = if h = h' then some after else s.session? h' := by
  rw [State.session?_updateSession]
  by_cases hh : h = h'
  · subst h'
    rw [if_pos rfl, if_pos rfl, answered.waiter]
    rfl
  · rw [if_neg hh, if_neg hh]

theorem find?_spec {id : SessionId} (found : s.find? id = some h) :
    ∃ seat, s.seats[h]? = some seat ∧ seat.listed = true ∧ seat.session.id = id := by
  unfold State.find? at found
  obtain ⟨inside, hit, _⟩ := List.findIdx?_eq_some_iff_getElem.mp found
  simp only [Bool.and_eq_true, beq_iff_eq] at hit
  exact ⟨s.seats[h], List.getElem?_eq_getElem inside, hit.1, hit.2⟩

theorem inspect_cases (g : Setup) {session : Session} (hs : s.session? h = some session)
    (p : NodePacket) : ∃ calls noted, Inspects g s.history h session p calls noted ∧
      s.inspect g h p =
        { s.updateSession h (fun _ => calls.foldl (Session.perform s.clock) session) with
          history := noted ++ s.history } := by
  unfold State.inspect
  rw [hs]
  cases hi : g.interceptor with
  | none =>
    refine ⟨[], [], .unseen hi, ?_⟩
    have kept := State.updateSession_self hs
    simp only [List.foldl_nil, kept, List.nil_append]
  | some calls => exact ⟨_, _, .seen calls hi, rfl⟩

theorem deliver_cases {session : Session} (hs : s.session? h = some session) (p : NodePacket) :
    ∃ after queued, Queues h session p (s.deliver h p).1 after queued ∧
      (s.deliver h p).2 =
        { s.updateSession h (fun _ => after) with history := queued ++ s.history } := by
  unfold State.deliver
  rw [hs]
  dsimp only
  by_cases room : (session.isActive && session.queue.length < session.capacity) = true
  · have sent : session.send p.unwrap =
        (true, { session with queue := session.queue ++ [p.unwrap] }) := by
      rw [Session.send, if_pos room]
    rw [sent]
    simp only [Bool.and_eq_true, decide_eq_true_eq] at room
    exact ⟨_, _, .queued room.1 room.2, rfl⟩
  · have kept := State.updateSession_self hs
    have sent : session.send p.unwrap = (false, session) := by rw [Session.send, if_neg room]
    rw [sent]
    refine ⟨session, [], .dropped (by simpa using room), ?_⟩
    simp only [kept, List.nil_append]

theorem reply_cases (g : Setup) (s : State) (p : NodePacket) :
    let key : RequestKey := ⟨p.session, p.seq⟩
    (key ∉ s.pending.keys ∧ (s.reply g p).2 = s.record (.dispatched p .noPending)) ∨
    (key ∈ s.pending.keys ∧ s.find? p.session = none ∧ (s.reply g p).2 =
      { s with
        pending := (s.pending.take key).2
        history := .dispatched p .sessionGone :: s.history }) ∨
    (∃ h session calls after noted queued result,
      Answered g s p h session calls after noted queued result ∧ (s.reply g p).2 =
        { s.updateSession h (fun _ => after) with
          pending := (s.pending.take key).2
          history := .dispatched p result :: (queued ++ noted ++ s.history) }) := by
  intro key
  unfold State.reply State.dispatch
  by_cases waiting : key ∈ s.pending.keys
  · right
    have taken : s.pending.take ⟨p.session, p.seq⟩ = (some p.session, (s.pending.take key).2) :=
      Prod.ext (Pending.take_of_mem waiting) rfl
    rw [taken]
    cases found : s.find? p.session with
    | none =>
      have gone : { s with pending := (s.pending.take key).2 }.find? p.session = none := found
      refine Or.inl ⟨waiting, rfl, ?_⟩
      simp only [gone]
      rfl
    | some h =>
      obtain ⟨seat, at_h, _⟩ := find?_spec found
      have hs : s.session? h = some seat.session := State.session?_eq_some.mpr ⟨seat, at_h, rfl⟩
      -- The wait has ended when the interceptor is called, so it acts on a state without the key.
      obtain ⟨calls, noted, inspects, inspected⟩ :=
        inspect_cases g (s := { s with pending := (s.pending.take key).2 }) (h := h) hs p
      have seen : ({ s with pending := (s.pending.take key).2 }.inspect g h p).session? h =
          some (calls.foldl (Session.perform s.clock) seat.session) := by
        have updated := State.session?_updateSession s h h
          fun _ => calls.foldl (Session.perform s.clock) seat.session
        rw [if_pos rfl, hs] at updated
        rw [inspected]
        exact updated
      obtain ⟨after, queued, queues, delivered⟩ := deliver_cases seen p
      have still : { s with pending := (s.pending.take key).2 }.find? p.session = some h := found
      refine Or.inr ⟨h, seat.session, calls, after, noted, queued,
        ({ s with pending := (s.pending.take key).2 }.inspect g h p |>.deliver h p).1,
        ⟨waiting, found, hs, inspects, queues⟩, ?_⟩
      simp only [still, delivered, State.record]
      rw [inspected]
      simp [State.updateSession, State.updateSeat, List.modify_modify_eq, Function.comp_def]
  · left
    have taken : s.pending.take ⟨p.session, p.seq⟩ = (none, s.pending) := Pending.take_of_not_mem waiting
    rw [taken]
    exact ⟨waiting, rfl⟩

end SessionGateway.Gateway
