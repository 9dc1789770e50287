import SessionGateway.Proofs.Gateway.Passing

/-! Replies and the requests they answer. A reply reaches the session that its frame names and no other,
a session is sent at most as many replies under a number as it made requests under it, and narrowing
the number of a reply loses nothing. -/
namespace SessionGateway.Gateway

open Wire Selection

variable {g : Setup} {asked : Handle → SessionCall → Prop} {s s' : State} {h : Handle}

/-! ### Counting -/

/-- How many replies under a number were queued for a session's client. -/
def replies (h : Handle) (q : Int32) (history : List Occurrence) : Nat :=
  history.countP fun
    | .delivered h' p => h' == h && p.seq == q
    | _ => false

/-- How many requests of a session were entered as waiting under a number. -/
def requests (h : Handle) (q : Int32) (history : List Occurrence) : Nat :=
  history.countP fun
    | .requested h' k => h' == h && k.seq == q
    | _ => false

/-- At no time were there more replies than requests. -/
def Covered (history : List Occurrence) : Prop :=
  ∀ earlier, earlier <:+ history → ∀ h q, replies h q earlier ≤ requests h q earlier

/-- What a reply leaves on record, and no other move. -/
def Occurrence.Delivers : Occurrence → Prop
  | .delivered _ _ => True
  | _ => False

theorem covered_nil : Covered [] := by
  intro earlier suffix h q
  rw [List.suffix_nil.mp suffix]
  exact Nat.le_refl 0

theorem covered_cons {o : Occurrence} {history : List Occurrence} (covered : Covered history)
    (now : ∀ h q, replies h q (o :: history) ≤ requests h q (o :: history)) : Covered (o :: history) := by
  intro earlier suffix
  rcases List.suffix_cons_iff.mp suffix with rfl | suffix
  · exact now
  · exact covered earlier suffix

theorem Covered.now {history : List Occurrence} (covered : Covered history) (h : Handle) (q : Int32) :
    replies h q history ≤ requests h q history :=
  covered history (List.suffix_refl _) h q

theorem requests_append (h : Handle) (q : Int32) (news history : List Occurrence) :
    requests h q (news ++ history) = requests h q news + requests h q history :=
  List.countP_append

theorem replies_append (h : Handle) (q : Int32) (news history : List Occurrence) :
    replies h q (news ++ history) = replies h q news + replies h q history :=
  List.countP_append

theorem replies_silent {news : List Occurrence} (silent : ∀ o ∈ news, ¬o.Delivers) (h : Handle)
    (q : Int32) : replies h q news = 0 := by
  apply List.countP_eq_zero.mpr
  intro o member counted
  cases o with
  | delivered => exact silent _ member trivial
  | _ => cases counted

/-- News without a reply. -/
theorem counts_silent {news : List Occurrence} (silent : ∀ o ∈ news, ¬o.Delivers) (h : Handle)
    (q : Int32) (history : List Occurrence) :
    replies h q (news ++ history) = replies h q history ∧
    requests h q history ≤ requests h q (news ++ history) := by
  have none := replies_silent silent h q
  have both := replies_append h q news history
  have more := requests_append h q news history
  omega

theorem covered_silent {news history : List Occurrence} (silent : ∀ o ∈ news, ¬o.Delivers)
    (covered : Covered history) : Covered (news ++ history) := by
  induction news with
  | nil => exact covered
  | cons o news ih =>
    have rest := ih fun o' member => silent o' (List.mem_cons_of_mem o member)
    apply covered_cons rest
    intro h q
    have counts := counts_silent silent h q history
    have before := covered.now h q
    rw [← List.cons_append]
    omega

theorem replies_delivered (h h' : Handle) (q : Int32) (p : NodePacket) (history : List Occurrence) :
    replies h' q (.delivered h p :: history) =
      replies h' q history + if h = h' ∧ p.seq = q then 1 else 0 := by
  unfold replies
  rw [List.countP_cons]
  simp

theorem requests_delivered (h h' : Handle) (q : Int32) (p : NodePacket) (history : List Occurrence) :
    requests h' q (.delivered h p :: history) = requests h' q history := by
  unfold requests
  rw [List.countP_cons]
  simp

theorem covered_delivered {p : NodePacket} {history : List Occurrence} (covered : Covered history)
    (owed : replies h p.seq history < requests h p.seq history) :
    Covered (.delivered h p :: history) := by
  apply covered_cons covered
  intro h' q
  rw [replies_delivered, requests_delivered]
  have before := covered.now h' q
  split
  · rename_i same
    obtain ⟨rfl, rfl⟩ := same
    omega
  · omega

/-! ### The invariant -/

/-- The replies that a session was sent are meant for it, and bear a number that a client can give. -/
structure Addressed (s : State) (h : Handle) (p : NodePacket) : Prop where
  session : ∃ b, s.roster[h]? = some b ∧ b.id = p.session
  business : isReserved p.msgId = false
  narrow : ∃ x : Int16, p.seq = x.toInt32

structure CorrelationInvariant (s : State) : Prop where
  registry : RegistryInvariant s
  narrow : ∀ k ∈ s.pending.keys, ∃ x : Int16, k.seq = x.toInt32
  owed : ∀ h b q, s.Connected h b → (⟨b.id, q⟩ : RequestKey) ∈ s.pending.keys →
    replies h q s.history < requests h q s.history
  covered : Covered s.history
  addressed : ∀ h p, .delivered h p ∈ s.history → Addressed s h p

theorem Addressed.later (change : Registers s s') {p : NodePacket} (was : Addressed s h p) :
    Addressed s' h p where
  session := by
    obtain ⟨b, at_h, id⟩ := was.session
    obtain ⟨b', at_h', id'⟩ := registers_id change at_h
    exact ⟨b', at_h', id'.trans id⟩
  business := was.business
  narrow := was.narrow

/-- What is left of the invariant where no reply is delivered. -/
theorem silent_preserves_correlation (inv : CorrelationInvariant s) (change : Registers s s')
    (news : List Occurrence) (history : s'.history = news ++ s.history)
    (silent : ∀ o ∈ news, ¬o.Delivers)
    (narrow : ∀ k ∈ s'.pending.keys, k ∈ s.pending.keys ∨ ∃ x : Int16, k.seq = x.toInt32)
    (asked : ∀ h b q, s'.Connected h b → (⟨b.id, q⟩ : RequestKey) ∈ s'.pending.keys →
      (⟨b.id, q⟩ : RequestKey) ∈ s.pending.keys ∨ 0 < requests h q news) : CorrelationInvariant s' where
  registry := registers_preserves_invariant inv.registry change
  narrow := by
    intro k hk
    rcases narrow k hk with hk | narrow
    · exact inv.narrow k hk
    · exact narrow
  owed := by
    intro h b q connected waits
    have counts := counts_silent silent h q s.history
    rw [history]
    rcases asked h b q connected waits with waits | more
    · have before := inv.owed h b q (waiting_connected inv.registry change waits connected rfl) waits
      omega
    · have before := inv.covered.now h q
      have both := requests_append h q news s.history
      omega
  covered := by
    rw [history]
    exact covered_silent silent inv.covered
  addressed := by
    intro h p member
    rw [history] at member
    rcases List.mem_append.mp member with new | old
    · exact absurd trivial (silent _ new)
    · exact (inv.addressed h p old).later change

theorem passes_preserves_correlation (inv : CorrelationInvariant s) (change : Registers s s')
    (passes : Passes asked s s') : CorrelationInvariant s' := by
  obtain ⟨news, history, incidental⟩ := passes.history
  refine silent_preserves_correlation inv change _ history ?_ ?_ ?_
  · intro o member delivers
    cases o with
    | delivered => exact incidental _ member
    | _ => exact delivers
  · intro k hk
    exact Or.inl (passes.waiting k hk)
  · intro h b q _ hk
    exact Or.inl (passes.waiting _ hk)

theorem receive_preserves_correlation (inv : CorrelationInvariant s) {found : Session} {b : Badge}
    {p : ClientPacket} (hs : s.session? h = some found) (connected : s.Connected h b)
    (id : b.id = found.id) (business : isReserved p.msgId = false) :
    CorrelationInvariant (s.receive g h p).2 := by
  obtain ⟨outcome, after, traffic, news, received⟩ := receive_received g hs business
  have roster := receive_roster (g := g) hs business
  have change := receive_registers (g := g) hs connected id business
  have history : (s.receive g h p).2.history =
      .handled h found p outcome :: (traffic ++ news) ++ s.history := by
    simp [received.history]
  refine silent_preserves_correlation inv change _ history ?_ ?_ ?_
  · intro o member delivers
    simp only [List.mem_cons, List.mem_append] at member
    rcases member with rfl | member | member
    · exact delivers
    · rcases received.traffic.recorded member with rfl | ⟨_, _, rfl⟩ | ⟨_, _, _, rfl⟩ <;> exact delivers
    · have prepares := received.news o member
      cases o with
      | delivered => exact prepares
      | _ => exact delivers
  · intro k hk
    rcases received.traffic.waiting hk with hk | ⟨rfl, _⟩
    · exact Or.inl hk
    · exact Or.inr ⟨p.seq, rfl⟩
  · intro h' b' q connected' hk
    rcases received.traffic.waiting hk with hk | ⟨same, address, rfl⟩
    · exact Or.inl hk
    · right
      obtain ⟨id', rfl⟩ := RequestKey.mk.injEq .. ▸ same
      rw [connected_of_roster roster] at connected'
      obtain rfl := inv.registry.distinct h' h b' b connected' connected (id'.trans id.symm)
      have entered := received.traffic
      generalize (s.receive g h' p).2.pending = pending at entered
      cases entered with
      | unasked _ unsent => exact absurd rfl (unsent address)
      | sent => simp [requests]

theorem Inspects.silent {history : List Occurrence} {session : Session} {p : NodePacket}
    {calls : List SessionCall} {noted : List Occurrence}
    (inspects : Inspects g history h session p calls noted) : ∀ o ∈ noted, ¬o.Delivers := by
  intro o member delivers
  cases inspects with
  | unseen => cases member
  | seen =>
    obtain rfl := List.mem_singleton.mp member
    exact delivers

/-- A reply uses up the request it answers: one was owed, and its key waits no longer. -/
theorem delivered_preserves_correlation (inv : CorrelationInvariant s) {p : NodePacket}
    (business : isReserved p.msgId = false) {session after : Session} {calls : List SessionCall}
    {noted : List Occurrence}
    (answered : Answered g s p h session calls after noted [.delivered h p] .delivered)
    (change : Registers s s') (roster : s'.roster = s.roster)
    (pending : s'.pending = (s.pending.take ⟨p.session, p.seq⟩).2)
    (history : s'.history = .dispatched p .delivered :: .delivered h p :: (noted ++ s.history)) :
    CorrelationInvariant s' := by
  have silent := answered.inspects.silent
  have dispatched : ∀ o ∈ [Occurrence.dispatched p .delivered], ¬o.Delivers := by
    intro o member delivers
    obtain rfl := List.mem_singleton.mp member
    exact delivers
  obtain ⟨b, connected, id⟩ := inv.registry.find?_iff.mp answered.found
  have owed : replies h p.seq (noted ++ s.history) < requests h p.seq (noted ++ s.history) := by
    have before := inv.owed h b p.seq connected (id ▸ answered.waiting)
    have counts := counts_silent silent h p.seq s.history
    omega
  refine ⟨registers_preserves_invariant inv.registry change, ?_, ?_, ?_, ?_⟩
  · intro k hk
    rw [pending, Pending.mem_take] at hk
    exact inv.narrow k hk.1
  · intro h' b' q connected' hk
    rw [pending, Pending.mem_take] at hk
    have was := (connected_of_roster roster).mp connected'
    have before := inv.owed h' b' q was hk.1
    -- What the session still waits for is not what it was sent.
    have another : ¬(h = h' ∧ p.seq = q) := by
      rintro ⟨rfl, rfl⟩
      obtain rfl : b = b' := Option.some.inj (connected.1.symm.trans was.1)
      exact hk.2 (by rw [id])
    have counts := replies_delivered h h' q p (noted ++ s.history)
    have asks := requests_delivered h h' q p (noted ++ s.history)
    have first := counts_silent silent h' q s.history
    have last := counts_silent dispatched h' q (.delivered h p :: (noted ++ s.history))
    rw [if_neg another] at counts
    rw [List.singleton_append] at last
    rw [history]
    omega
  · rw [history]
    have delivered := covered_delivered (covered_silent silent inv.covered) owed
    exact covered_silent dispatched delivered
  · intro h' p' member
    simp only [history, List.mem_cons, List.mem_append, reduceCtorEq, false_or,
      Occurrence.delivered.injEq] at member
    rcases member with ⟨rfl, rfl⟩ | member | member
    · have waited : Addressed s h' p' :=
        ⟨⟨b, connected.1, id⟩, business, inv.narrow _ answered.waiting⟩
      exact waited.later change
    · exact absurd trivial (silent _ member)
    · exact (inv.addressed h' p' member).later change

theorem reply_preserves_correlation (inv : CorrelationInvariant s) {p : NodePacket}
    (business : isReserved p.msgId = false) : CorrelationInvariant (s.reply g p).2 := by
  have change := reply_registers (g := g) (s := s) p
  rcases reply_passes (fun _ _ => True) g s p with passes |
    ⟨h, session, calls, after, noted, queued, outcome, answered, result⟩
  · exact passes_preserves_correlation inv change passes
  · have roster := answered_roster answered
    have silent := answered.inspects.silent
    rw [result] at change ⊢
    cases answered.queues with
    | queued => exact delivered_preserves_correlation inv business answered change roster rfl rfl
    | dropped =>
      refine silent_preserves_correlation inv change (.dispatched p .sessionGone :: noted) rfl
        ?_ ?_ ?_
      · intro o member delivers
        rcases List.mem_cons.mp member with rfl | member
        · exact delivers
        · exact silent o member delivers
      · intro k hk
        exact Or.inl ((Pending.mem_take _ _ _).mp hk).1
      · intro h b q _ hk
        exact Or.inl ((Pending.mem_take _ _ _).mp hk).1

theorem initial_correlation (resolver : Resolver) (clock : SessionClock) (network : Network) :
    CorrelationInvariant (State.initial resolver clock network) where
  registry := initial_registry resolver clock network
  narrow := by simp [State.initial, Pending.empty]
  owed := by simp [State.initial, Pending.empty]
  covered := covered_nil
  addressed := by simp [State.initial]

theorem move_preserves_correlation (s s' : State) (inv : CorrelationInvariant s)
    (move : Move g asked s s') : CorrelationInvariant s' := by
  have change := move_registers inv.registry move
  rcases move_cases inv.registry move with passes | ⟨h, found, b, p, hs, hb, id, business, rfl⟩ |
    ⟨p, business, rfl⟩
  · exact passes_preserves_correlation inv change passes
  · exact receive_preserves_correlation inv hs hb id business
  · exact reply_preserves_correlation inv business

/-! ### What reaches a client -/

theorem perform_all_queue (clock : SessionClock) (session : Session) (calls : List SessionCall) :
    ∃ own, (calls.foldl (Session.perform clock) session).queue = session.queue ++ own ∧
      ∀ c ∈ own, .send c ∈ calls := by
  induction calls generalizing session with
  | nil => exact ⟨[], by simp, by simp⟩
  | cons call calls ih =>
    obtain ⟨own, queue, asked⟩ := ih (session.perform clock call)
    have later : ∀ c ∈ own, .send c ∈ call :: calls := fun c hc => List.mem_cons_of_mem call (asked c hc)
    rw [List.foldl_cons, queue]
    rcases session.perform_queue clock call with kept | ⟨c, rfl, sent⟩
    · exact ⟨own, by rw [kept], later⟩
    · refine ⟨c :: own, by rw [sent]; simp, ?_⟩
      intro c' hc'
      rcases List.mem_cons.mp hc' with rfl | hc'
      · exact List.mem_cons_self
      · exact later c' hc'

/-- The client sees the node's frame as it was, its number not altered by being narrowed. -/
structure Conveys (p : NodePacket) (c : ClientPacket) : Prop where
  msgId : c.msgId = p.msgId
  body : c.body = p.body
  magic : c.magic = 0
  seq : c.seq.toInt = p.seq.toInt

theorem unwrap_conveys {p : NodePacket} (narrow : ∃ x : Int16, p.seq = x.toInt32) :
    Conveys p p.unwrap where
  msgId := rfl
  body := rfl
  magic := rfl
  seq := by
    obtain ⟨x, hx⟩ := narrow
    simp [NodePacket.unwrap, hx]

/-- What a reply adds to the queue of the session at `h`: what the interceptor sends there, and then at
most the reply itself, which is for that session and on record. -/
structure Adds (p : NodePacket) (h : Handle) (before after : Session) (news : List Occurrence)
    (own sent : List ClientPacket) : Prop where
  queue : after.queue = before.queue ++ own ++ sent
  asked : ∀ c ∈ own, ∃ calls, .inspected h p calls ∈ news ∧ .send c ∈ calls
  meant : ∀ c ∈ sent, before.id = p.session ∧ Conveys p c
  single : sent.length ≤ 1
  counted : ∀ q, replies h q news = if p.seq = q then sent.length else 0

theorem adds_nothing {p : NodePacket} {before after : Session} {news : List Occurrence}
    (same : after.queue = before.queue) (none : ∀ q, replies h q news = 0) :
    Adds p h before after news [] [] where
  queue := by simp [same]
  asked := by simp
  meant := by simp
  single := by simp
  counted := by simp [none]

theorem answered_adds (inv : CorrelationInvariant s) {p : NodePacket} {session after : Session}
    {calls : List SessionCall} {noted queued : List Occurrence} {result : Dispatch}
    (answered : Answered g s p h session calls after noted queued result) :
    ∃ own sent, Adds p h session after (.dispatched p result :: (queued ++ noted)) own sent := by
  obtain ⟨b, connected, id⟩ := inv.registry.find?_iff.mp answered.found
  obtain ⟨found, hfound, same⟩ := roster_session connected.1
  obtain rfl : session = found := Option.some.inj (answered.waiter.symm.trans hfound)
  have narrow := inv.narrow _ answered.waiting
  have silent := answered.inspects.silent
  obtain ⟨own, queue, sends⟩ := perform_all_queue s.clock session calls
  have noticed : ∀ c ∈ own, .inspected h p calls ∈ noted ∧ .send c ∈ calls := by
    intro c hc
    refine ⟨?_, sends c hc⟩
    cases answered.inspects with
    | unseen => cases sends c hc
    | seen => exact List.mem_singleton_self _
  cases answered.queues with
  | queued =>
    refine ⟨own, [p.unwrap], by simp [queue], ?_, ?_, by simp, ?_⟩
    · intro c hc
      exact ⟨calls, by simp [(noticed c hc).1], (noticed c hc).2⟩
    · intro c hc
      obtain rfl := List.mem_singleton.mp hc
      exact ⟨same.trans id, unwrap_conveys narrow⟩
    · intro q
      have counts := replies_delivered h h q p noted
      rw [replies_silent silent] at counts
      simpa [replies] using counts
  | dropped =>
    refine ⟨own, [], by simp [queue], ?_, by simp, by simp, ?_⟩
    · intro c hc
      exact ⟨calls, by simp [(noticed c hc).1], (noticed c hc).2⟩
    · intro q
      have counts := replies_silent silent h q
      simpa [replies] using counts

theorem reply_adds (inv : CorrelationInvariant s) (p : NodePacket) {session after : Session}
    (hs : s.session? h = some session) (later : (s.reply g p).2.session? h = some after) :
    ∃ news own sent, (s.reply g p).2.history = news ++ s.history ∧
      Adds p h session after news own sent := by
  rcases reply_cases g s p with ⟨_, result⟩ | ⟨_, _, result⟩ |
    ⟨i, waiter, calls, waited, noted, queued, outcome, answered, result⟩
  · rw [result] at later ⊢
    obtain rfl := Option.some.inj (hs.symm.trans later)
    exact ⟨[.dispatched p .noPending], [], [], rfl, adds_nothing rfl fun q => rfl⟩
  · rw [result] at later ⊢
    obtain rfl := Option.some.inj (hs.symm.trans later)
    exact ⟨[.dispatched p .sessionGone], [], [], rfl, adds_nothing rfl fun q => rfl⟩
  · rw [result] at later ⊢
    have seen := (answered.session?_eq h).symm.trans later
    have history : .dispatched p outcome :: (queued ++ noted ++ s.history) =
        .dispatched p outcome :: (queued ++ noted) ++ s.history := by simp
    by_cases hi : i = h
    · subst i
      rw [if_pos rfl] at seen
      obtain rfl := Option.some.inj seen
      obtain rfl := Option.some.inj (answered.waiter.symm.trans hs)
      obtain ⟨own, sent, adds⟩ := answered_adds inv answered
      exact ⟨_, own, sent, history, adds⟩
    · rw [if_neg hi, hs] at seen
      obtain rfl := Option.some.inj seen
      refine ⟨_, [], [], history, adds_nothing rfl fun q => ?_⟩
      have counts := replies_silent answered.inspects.silent h q
      cases answered.queues with
      | queued =>
        have one := replies_delivered i h q p noted
        rw [counts, if_neg fun same => hi same.1] at one
        simpa [replies] using one
      | dropped => simpa [replies] using counts

/-- Replies keep to themselves. Whatever nodes send, in every state that a gateway gets into a reply adds
to no queue but that of the session it names, and there at most itself. At no point of any run was a
session sent more replies under a number than it had made requests under it. -/
theorem replies_isolated (g : Setup) (resolver : Resolver) (clock : SessionClock)
    (network : Network) :
    (∀ s, Moves g (fun _ _ => True) (.initial resolver clock network) s →
      ∀ (p : NodePacket) h session after,
      s.session? h = some session → (s.reply g p).2.session? h = some after →
      ∃ news own sent, (s.reply g p).2.history = news ++ s.history ∧
        Adds p h session after news own sent) ∧
    ∀ events, let s := (State.initial resolver clock network).run g events
      (∀ h p, .delivered h p ∈ s.history →
        (∃ session, s.session? h = some session ∧ session.id = p.session) ∧
        isReserved p.msgId = false ∧ Conveys p p.unwrap) ∧
      ∀ earlier, earlier <:+ s.history → ∀ h q, replies h q earlier ≤ requests h q earlier := by
  have start := initial_correlation resolver clock network
  constructor
  · intro s path p h session after hs later
    have inv := moves_invariant move_preserves_correlation path start
    exact reply_adds inv p hs later
  · intro events s
    have inv : CorrelationInvariant s := run_invariant_always move_preserves_correlation start events
    refine ⟨?_, inv.covered⟩
    intro h p member
    have addressed := inv.addressed h p member
    obtain ⟨b, at_h, id⟩ := addressed.session
    obtain ⟨session, hs, same⟩ := roster_session at_h
    exact ⟨⟨session, hs, same.trans id⟩, addressed.business, unwrap_conveys addressed.narrow⟩

end SessionGateway.Gateway
