import SessionGateway.Gateway.Run
import SessionGateway.Proofs.Wire.Frames

/-! What the handling of a frame does: to the session the frame came from, to the requests that wait,
and to the history. Nothing but that session, the links and the resolver is touched besides. -/
namespace SessionGateway.Gateway

open Wire Selection

variable {g : Setup} {s : State} {h : Handle}

/-! ### Writing -/

theorem fault?_taken (c : Codec) (p : Packet) :
    fault? c p .taken = if c.Takes p then none else some (.refused (c.refusal p)) := by
  unfold fault?
  rw [Codec.encode_eq]
  by_cases takes : c.Takes p <;> simp [takes]

theorem fault?_eq_none_iff {c : Codec} {p : Packet} {delivery : Delivery} :
    fault? c p delivery = none ↔ delivery = .taken ∧ c.Takes p := by
  cases delivery with
  | taken => by_cases takes : c.Takes p <;> simp [fault?_taken, takes]
  | failed reason => by_cases takes : c.Takes p <;> simp [fault?, Codec.encode_eq, takes]
  | hungUp => simp [fault?]

theorem fault?_of_takes {c : Codec} {p : Packet} (takes : c.Takes p) {delivery : Delivery} {fault : Fault}
    (met : fault? c p delivery = some fault) :
    (∃ reason, delivery = .failed reason ∧ fault = .failed reason) ∨ delivery = .hungUp ∧ fault = .hungUp := by
  cases delivery with
  | taken => simp [fault?_taken, takes] at met
  | failed reason =>
    rw [fault?, Codec.encode_eq, if_pos takes] at met
    exact Or.inl ⟨reason, rfl, (Option.some.inj met).symm⟩
  | hungUp => exact Or.inr ⟨rfl, (Option.some.inj met).symm⟩

theorem fault?_of_not_takes {c : Codec} {p : Packet} (overlong : ¬c.Takes p) {delivery : Delivery}
    {fault : Fault} (met : fault? c p delivery = some fault) :
    delivery ≠ .hungUp ∧ fault = .refused (c.refusal p) ∨ delivery = .hungUp ∧ fault = .hungUp := by
  cases delivery with
  | taken | failed reason =>
    rw [fault?, Codec.encode_eq, if_neg overlong] at met
    exact Or.inl ⟨by simp, (Option.some.inj met).symm⟩
  | hungUp => exact Or.inr ⟨rfl, (Option.some.inj met).symm⟩

theorem clientLink?_endClient (s : State) (h : Handle) (why : Ending) :
    (s.endClient h why).clientLink? h = none := by
  unfold State.endClient
  split
  · assumption
  · simp only [State.clientLink?, State.record, State.updateSeat]
    rw [List.getElem?_modify_eq]
    cases (s.disconnect h).seats[h]? <;> rfl

/-! ### Links -/

def Occurrence.AtLinks : Occurrence → Prop
  | .linkOpened _ _ | .linkEnded _ _ _ => True
  | _ => False

def Occurrence.Prepares : Occurrence → Prop
  | .bound _ _ | .linkOpened _ _ | .linkEnded _ _ _ => True
  | _ => False

theorem Occurrence.AtLinks.prepares {o : Occurrence} (atLinks : o.AtLinks) : o.Prepares := by
  cases o <;> trivial

structure Rewired (s : State) (news : List Occurrence) (s' : State) : Prop where
  state : s' = { s with
    links := s'.links, pool := s'.pool, nextLink := s'.nextLink, history := news ++ s.history }
  news : ∀ o ∈ news, o.AtLinks

theorem Rewired.of_pool (s : State) (pool : Pool) : Rewired s [] { s with pool } := ⟨rfl, by simp⟩

theorem Rewired.trans {s s' s'' : State} {news news' : List Occurrence} (first : Rewired s news s')
    (second : Rewired s' news' s'') : Rewired s (news' ++ news) s'' where
  state := by
    rw [second.state, first.state]
    simp
  news := by
    intro o member
    rcases List.mem_append.mp member with late | early
    · exact second.news o late
    · exact first.news o early

theorem endLink_rewires (s : State) (id : Nat) (why : Ending) : ∃ news, Rewired s news (s.endLink id why) ∧
    ∀ o ∈ news, ∃ place, o = .linkEnded id place why := by
  unfold State.endLink
  split
  · exact ⟨[], ⟨rfl, by simp⟩, by simp⟩
  · rename_i link _
    exact ⟨[.linkEnded id link.address why], ⟨rfl, by simp [Occurrence.AtLinks]⟩, by simp⟩

theorem endLinkTo_rewires (s : State) (address : String) : ∃ news, Rewired s news (s.endLinkTo address).2 := by
  have removed := Rewired.of_pool s (s.pool.remove address).2
  unfold State.endLinkTo
  dsimp only
  split
  · exact ⟨_, removed⟩
  · rename_i id _
    obtain ⟨news, ended, _⟩ := endLink_rewires { s with pool := (s.pool.remove address).2 } id .shutdown
    exact ⟨_, removed.trans ended⟩

theorem openLink_rewires (g : Setup) (s : State) (address : String) :
    ∃ news, Rewired s news (s.openLink g address).2 := by
  unfold State.openLink
  dsimp only
  split
  · exact ⟨[], ⟨rfl, by simp⟩⟩
  · let link : NodeLink := ⟨s.nextLink, address, .start .gatewayInternal g.heartbeats s.now⟩
    have opened : Rewired s [.linkOpened s.nextLink address]
        ({ s with nextLink := s.nextLink + 1, links := s.links ++ [link] }.record
          (.linkOpened s.nextLink address)) := ⟨rfl, by simp [Occurrence.AtLinks]⟩
    split
    · obtain ⟨_, ended, _⟩ := endLink_rewires _ s.nextLink .peerClosed
      exact ⟨_, opened.trans ended⟩
    · exact ⟨_, opened⟩

theorem check_rewires (s : State) (address : String) (slot id : Nat) :
    Rewired s [] (s.check address slot id).2 := by
  unfold State.check
  split
  · exact .of_pool s s.pool
  · exact .of_pool s _

theorem seek_rewires (g : Setup) (s : State) (address : String) :
    ∃ news, Rewired s news (s.seek g address).2 := by
  have entered := Rewired.of_pool s (s.pool.enter address).2
  obtain ⟨news, opened⟩ := openLink_rewires g { s with pool := (s.pool.enter address).2 } address
  unfold State.seek
  dsimp only
  split
  · exact ⟨_, entered.trans (check_rewires _ address _ _)⟩
  · split
    · rename_i e s' failed
      rw [failed] at opened
      exact ⟨_, (entered.trans opened).trans (.of_pool s' _)⟩
    · rename_i id s' found
      rw [found] at opened
      exact ⟨_, ((entered.trans opened).trans (.of_pool s' _)).trans (check_rewires _ address _ id)⟩

theorem linkFor_rewires (g : Setup) (address : String) (looks : Nat) (s : State) :
    ∃ news, Rewired s news (s.linkFor g address looks).2 := by
  induction looks generalizing s with
  | zero => exact ⟨_, .of_pool s s.pool⟩
  | succ looks ih =>
    obtain ⟨news, sought⟩ := seek_rewires g s address
    unfold State.linkFor
    split
    · exact ⟨_, .of_pool s s.pool⟩
    · split <;> rename_i result <;> rw [result] at sought
      · exact ⟨_, sought⟩
      · exact ⟨_, sought⟩
      · obtain ⟨_, later⟩ := ih _
        exact ⟨_, sought.trans later⟩

theorem writeNode_cases (g : Setup) (s : State) (id : Nat) (p : Packet) :
    (∃ fault, fault? g.nodeCodec p (s.network.toNode id) = some fault ∧
      s.writeNode g id p = (some fault, s)) ∨
    (s.nodeLink? id = none ∧ s.writeNode g id p = (none, s)) ∨
    (∃ link links, s.nodeLink? id = some link ∧ s.writeNode g id p =
      (none, { s with links, history := .nodeReceived id link.address p :: s.history })) := by
  unfold State.writeNode
  split
  · rename_i hl
    exact Or.inr (Or.inl ⟨hl, rfl⟩)
  · rename_i link hl
    split
    · rename_i fault hf
      exact Or.inl ⟨fault, hf, rfl⟩
    · exact Or.inr (Or.inr ⟨link, _, hl, rfl⟩)

/-! ### Forwarding -/

/-- What a frame that is not written to an address fails by. -/
def ForwardError.Unwritten (address : String) : ForwardError → Prop
  | .write address' _ | .closed address' => address' = address
  | _ => False

theorem submit_cases (g : Setup) (s : State) (address : String) (id : Nat) (p : Packet) :
    (∃ e ended, (s.submit g address id p).1 = some e ∧ e.Unwritten address ∧
      Rewired s ended (s.submit g address id p).2 ∧ ∀ o ∈ ended, ∃ link place why, o = .linkEnded link place why) ∨
    (∃ place links, s.submit g address id p =
      (none, { s with links, history := .nodeReceived id place p :: s.history })) := by
  unfold State.submit
  split
  · exact Or.inl ⟨_, [], rfl, rfl, .of_pool s s.pool, by simp⟩
  · rename_i found
    rcases writeNode_cases g s id p with ⟨fault, _, hw⟩ | ⟨gone, _⟩ | ⟨link, links, _, hw⟩
    · obtain ⟨ended, rewired, named⟩ := endLink_rewires s id fault.ending
      rw [hw]
      cases fault with
      | refused e => exact Or.inl ⟨_, [], rfl, rfl, .of_pool s s.pool, by simp⟩
      | failed | hungUp =>
        refine Or.inl ⟨_, ended, rfl, rfl, rewired, fun o member => ?_⟩
        obtain ⟨place, same⟩ := named o member
        exact ⟨id, place, _, same⟩
    · rw [gone] at found
      cases found
    · rw [hw]
      exact Or.inr ⟨_, _, rfl⟩

/-- How forwarding a frame ends. Before the request is entered as waiting nothing happened but that links came
and went. After that the frame is not written and the key is struck out, or a node has it. -/
theorem forward_cases (g : Setup) {s : State} {h : Handle} {session : Session}
    (hs : s.session? h = some session) (address : String) (p : ClientPacket) :
    let key : RequestKey := ⟨session.id, p.seq.toInt32⟩
    (∃ e nextLink links pool news, s.forward g address h p =
        (.error e, { s with nextLink, links, pool, history := news ++ s.history }) ∧
      (s.linkFor g address 2).1 = .error e ∧ ∀ o ∈ news, o.AtLinks) ∨
    (∃ e nextLink links pool news ended, s.forward g address h p =
        (.error e,
          { s with
            nextLink, links, pool, pending := ((s.pending.insert key).take key).2
            history := (ended ++ [.requested h key]) ++ news ++ s.history }) ∧
      ((∃ id, (s.linkFor g address 2).1 = .ok id) ∧ e.Unwritten address) ∧
      (∀ o ∈ news, o.AtLinks) ∧ ∀ o ∈ ended, ∃ link place why, o = .linkEnded link place why) ∨
    (∃ id place nextLink links pool news, s.forward g address h p =
        (.ok (),
          { s.updateSession h (·.touch s.clock) with
            nextLink, links, pool, pending := s.pending.insert key
            history := .nodeReceived id place (.node (p.wrap session.id)) ::
              .requested h key :: (news ++ s.history) }) ∧
      ∀ o ∈ news, o.AtLinks) := by
  intro key
  obtain ⟨news, reached⟩ := linkFor_rewires g address 2 s
  unfold State.forward
  rw [hs]
  dsimp only
  rcases hl : s.linkFor g address 2 with ⟨e | id, s₁⟩ <;> rw [hl] at reached
  · exact Or.inl ⟨e, s₁.nextLink, s₁.links, s₁.pool, news, Prod.ext rfl reached.state, rfl, reached.news⟩
  · right
    have state : s₁ = _ := reached.state
    dsimp only
    rcases submit_cases g ({ s₁ with pending := s₁.pending.insert key }.record (.requested h key)) address id
      (.node (p.wrap session.id)) with ⟨e, ended, failed, unwritten, rewired, named⟩ | ⟨place, links, written⟩
    · rcases hw : State.submit g ({ s₁ with pending := s₁.pending.insert key }.record (.requested h key))
        address id (.node (p.wrap session.id)) with ⟨result, s₂⟩
      rw [hw] at failed rewired ⊢
      obtain rfl : result = some e := failed
      refine Or.inl ⟨e, s₂.nextLink, s₂.links, s₂.pool, news, ended, Prod.ext rfl ?_, ⟨⟨id, rfl⟩, unwritten⟩,
        reached.news, named⟩
      have state' : s₂ = _ := rewired.state
      dsimp only
      rw [state', state]
      simp [State.record, key]
    · rw [written]
      refine Or.inr ⟨id, place, s₁.nextLink, links, s₁.pool, news, Prod.ext rfl ?_, reached.news⟩
      dsimp only
      rw [state]
      rfl

/-! ### Handling -/

/-- What a frame leaves of the requests that wait, and what it puts on record by asking a node. -/
inductive Traffic (before : Pending) (h : Handle) (id : SessionId) (p : ClientPacket) :
    Outcome → Pending → List Occurrence → Prop where
  | unasked (outcome : Outcome) : (∀ address, outcome ≠ .forwarded address) →
      Traffic before h id p outcome before []
  | refused (ended : List Occurrence) : (∀ o ∈ ended, ∃ link place why, o = .linkEnded link place why) →
      Traffic before h id p .forwardFailed ((before.insert ⟨id, p.seq.toInt32⟩).take ⟨id, p.seq.toInt32⟩).2
        (ended ++ [.requested h ⟨id, p.seq.toInt32⟩])
  | sent (address : String) (link : Nat) (place : String) : Traffic before h id p (.forwarded address)
      (before.insert ⟨id, p.seq.toInt32⟩)
      [.nodeReceived link place (.node (p.wrap id)), .requested h ⟨id, p.seq.toInt32⟩]

theorem Traffic.waiting {before after : Pending} {id : SessionId} {p : ClientPacket}
    {outcome : Outcome} {news : List Occurrence} (t : Traffic before h id p outcome after news)
    {k : RequestKey} (hk : k ∈ after.keys) :
    k ∈ before.keys ∨ k = ⟨id, p.seq.toInt32⟩ ∧ ∃ address, outcome = .forwarded address := by
  cases t with
  | unasked => exact Or.inl hk
  | refused => exact Or.inl ((Pending.mem_insert_take _ _ _).mp hk).1
  | sent address =>
    rcases (Pending.mem_insert _ _ _).mp hk with rfl | hk
    · exact Or.inr ⟨rfl, address, rfl⟩
    · exact Or.inl hk

theorem Traffic.recorded {before after : Pending} {id : SessionId} {p : ClientPacket}
    {outcome : Outcome} {news : List Occurrence} (t : Traffic before h id p outcome after news)
    {o : Occurrence} (ho : o ∈ news) : o = .requested h ⟨id, p.seq.toInt32⟩ ∨
      (∃ link place, o = .nodeReceived link place (.node (p.wrap id))) ∨
      ∃ link place why, o = .linkEnded link place why := by
  cases t with
  | unasked => cases ho
  | refused ended named =>
    rcases List.mem_append.mp ho with late | early
    · exact Or.inr (Or.inr (named o late))
    · exact Or.inl (List.mem_singleton.mp early)
  | sent address link place =>
    rcases List.mem_cons.mp ho with rfl | ho
    · exact Or.inr (Or.inl ⟨link, place, rfl⟩)
    · exact Or.inl (List.mem_singleton.mp ho)

/-- What a session is besides its node, its phase, its last activity and its tokens. -/
def Session.SameClient (a b : Session) : Prop :=
  b = { a with node := b.node, phase := b.phase, lastActive := b.lastActive, bucket := b.bucket }

theorem Session.SameClient.trans {a b c : Session} (hab : a.SameClient b) (hbc : b.SameClient c) :
    a.SameClient c := by
  unfold SameClient at *
  rw [hbc, hab]

/-- The session at `h` became `after`, turns may have been taken, and `news` came on record. -/
structure Ready (s : State) (h : Handle) (session after : Session) (news : List Occurrence)
    (s' : State) : Prop where
  state : s' = { s with
    seats := (s.updateSession h fun _ => after).seats
    resolver := { s.resolver with rotation := s'.resolver.rotation }
    history := news ++ s.history }
  client : session.SameClient after
  news : ∀ o ∈ news, ∃ node, o = .bound h node

theorem Ready.prepares {session after : Session} {news : List Occurrence} {s' : State}
    (ready : Ready s h session after news s') : ∀ o ∈ news, o.Prepares := by
  intro o member
  obtain ⟨node, rfl⟩ := ready.news o member
  trivial

structure Asked (s : State) (h : Handle) (session : Session) (p : ClientPacket) (outcome : Outcome)
    (after : Session) (traffic news : List Occurrence) (s' : State) : Prop where
  state : s' = { s with
    seats := (s.updateSession h fun _ => after).seats
    resolver := { s.resolver with rotation := s'.resolver.rotation }
    nextLink := s'.nextLink, links := s'.links, pool := s'.pool, pending := s'.pending
    history := traffic ++ news ++ s.history }
  client : session.SameClient after
  traffic : Traffic s.pending h session.id p outcome s'.pending traffic
  news : ∀ o ∈ news, o.Prepares

theorem ready_update {session : Session} (hs : s.session? h = some session) (f : Session → Session)
    (client : session.SameClient (f session)) :
    Ready s h session (f session) [] (s.updateSession h f) where
  state := by
    rw [State.updateSession_const hs]
    rfl
  client := client
  news := by simp

theorem Ready.session?_eq {session after : Session} {news : List Occurrence} {s' : State}
    (ready : Ready s h session after news s') (hs : s.session? h = some session) :
    s'.session? h = some after := by
  have seen : s'.session? h = (s.updateSession h fun _ => after).session? h := by
    rw [ready.state]
    rfl
  rw [seen, State.session?_updateSession, if_pos rfl, hs]
  rfl

theorem Ready.seats_update {session after : Session} {news : List Occurrence} {s' : State}
    (ready : Ready s h session after news s') (x : Session) :
    (s'.updateSession h fun _ => x).seats = (s.updateSession h fun _ => x).seats := by
  have twice := congrArg State.seats (State.updateSession_twice s h (fun _ => after) fun _ => x)
  rw [ready.state]
  exact twice

theorem Ready.trans {session middle after : Session} {news news' : List Occurrence} {s' s'' : State}
    (first : Ready s h session middle news s') (second : Ready s' h middle after news' s'') :
    Ready s h session after (news' ++ news) s'' where
  state := by
    have seats := first.seats_update after
    rw [second.state, seats]
    rw [first.state]
    simp
  client := first.client.trans second.client
  news := by
    intro o hm
    rcases List.mem_append.mp hm with hm | hm
    · exact second.news o hm
    · exact first.news o hm

theorem Ready.asked {session middle after : Session} {p : ClientPacket} {outcome : Outcome}
    {traffic news news' : List Occurrence} {s' s'' : State}
    (first : Ready s h session middle news s')
    (second : Asked s' h middle p outcome after traffic news' s'') :
    Asked s h session p outcome after traffic (news' ++ news) s'' where
  state := by
    have seats := first.seats_update after
    rw [second.state, seats]
    rw [first.state]
    simp
  client := first.client.trans second.client
  traffic := by
    have pending : s'.pending = s.pending := by rw [first.state]
    have id : middle.id = session.id := by rw [first.client]
    rw [← pending, ← id]
    exact second.traffic
  news := by
    intro o hm
    rcases List.mem_append.mp hm with hm | hm
    · exact second.news o hm
    · exact first.prepares o hm

theorem Ready.unasked {session after : Session} {news : List Occurrence} {s' : State}
    (ready : Ready s h session after news s') (p : ClientPacket) (outcome : Outcome)
    (unsent : ∀ address, outcome ≠ .forwarded address) :
    Asked s h session p outcome after [] news s' where
  state := by
    rw [ready.state]
    rfl
  client := ready.client
  traffic := by
    have pending : s'.pending = s.pending := by rw [ready.state]
    rw [pending]
    exact .unasked outcome unsent
  news := ready.prepares

theorem choose_resolver (source : Nat → Nat) (r : Resolver) (strategy : Strategy)
    (player : Option Int64) : ∃ rotation, (r.choose source strategy player).2 = { r with rotation } := by
  unfold Resolver.choose
  split <;> exact ⟨_, rfl⟩

/-- The node of a session, or the one chosen for it if it has none. -/
def State.placement (g : Setup) (s : State) (strategy : Strategy) (session : Session) :
    Option String × Resolver :=
  match session.node with
  | some node => (some node, s.resolver)
  | none =>
    let (chosen, resolver) := s.resolver.choose g.draws strategy session.player
    (chosen.map (·.1), resolver)

theorem selectNode_ready (g : Setup) {session : Session} (hs : s.session? h = some session)
    (strategy : Strategy) : ∃ news,
      Ready s h session { session with node := (s.placement g strategy session).1 } news
        (s.selectNode g h strategy).2 ∧
      (s.selectNode g h strategy).2.resolver = (s.placement g strategy session).2 ∧
      ((s.selectNode g h strategy).1.isSome → (s.placement g strategy session).1.isSome) := by
  have kept := State.updateSession_self hs
  obtain ⟨rotation, turned⟩ := choose_resolver g.draws s.resolver strategy session.player
  cases hn : session.node with
  | some node =>
    have result : s.selectNode g h strategy = (s.resolver.address? node, s) := by
      simp [State.selectNode, hs, hn]
    have placed : s.placement g strategy session = (session.node, s.resolver) := by
      simp [State.placement, hn]
    rw [result, placed]
    refine ⟨[], ⟨?_, rfl, by simp⟩, rfl, fun _ => by rw [hn]; rfl⟩
    rw [kept]
    rfl
  | none =>
    rcases hc : s.resolver.choose g.draws strategy session.player with ⟨_ | ⟨node, address⟩, resolver⟩
      <;> rw [hc] at turned <;> subst turned
    · have result : s.selectNode g h strategy =
          (none, { s with resolver := { s.resolver with rotation } }) := by
        simp [State.selectNode, hs, hn, hc]
      have placed : s.placement g strategy session =
          (session.node, { s.resolver with rotation }) := by
        simp [State.placement, hn, hc]
      rw [result, placed]
      refine ⟨[], ⟨?_, rfl, by simp⟩, rfl, by simp⟩
      rw [kept]
      rfl
    · have bind : (session.bind node).2 = { session with node := some node } := by
        simp [Session.bind, hn]
      have result : s.selectNode g h strategy = (some address,
          ({ s with resolver := { s.resolver with rotation } }.updateSession h
            fun session => (session.bind node).2).record (.bound h node)) := by
        simp [State.selectNode, hs, hn, hc]
      have placed : s.placement g strategy session =
          (some node, { s.resolver with rotation }) := by
        simp [State.placement, hn, hc]
      rw [result, placed]
      refine ⟨[.bound h node], ⟨?_, rfl, by simp⟩, rfl, fun _ => rfl⟩
      rw [← bind, ← State.updateSession_const hs fun session => (session.bind node).2]
      rfl

theorem forwardTo_asked (g : Setup) {session : Session} (hs : s.session? h = some session)
    (address : Option String) (p : ClientPacket) :
    ∃ lastActive traffic news, Asked s h session p (s.forwardTo g address h p).1
      { session with lastActive } traffic news (s.forwardTo g address h p).2 ∧
      (s.forwardTo g address h p).1 ≠ .rateLimited ∧
      (s.forwardTo g address h p).2.resolver = s.resolver ∧
      ((s.forwardTo g address h p).1.isForwarded → address.isSome) := by
  have kept := State.updateSession_self hs
  unfold State.forwardTo
  cases address with
  | none =>
    refine ⟨session.lastActive, [], [], ⟨?_, rfl, .unasked _ (by simp), by simp⟩, by simp, rfl,
      by simp [Outcome.isForwarded]⟩
    rw [kept]
    rfl
  | some address =>
    dsimp only
    rcases forward_cases g hs address p with ⟨e, nextLink, links, pool, news, hf, _, ho⟩ |
      ⟨e, nextLink, links, pool, news, ended, hf, _, ho, named⟩ |
      ⟨id, place, nextLink, links, pool, news, hf, ho⟩
    · rw [hf]
      refine ⟨session.lastActive, [], news,
        ⟨?_, rfl, .unasked _ (by simp), fun o member => (ho o member).prepares⟩, by simp, rfl, fun _ => rfl⟩
      rw [kept]
      rfl
    · rw [hf]
      refine ⟨session.lastActive, _, news,
        ⟨?_, rfl, .refused ended named, fun o member => (ho o member).prepares⟩, by simp, rfl, fun _ => rfl⟩
      rw [kept]
    · rw [hf]
      refine ⟨s.clock.wall, _, news,
        ⟨?_, rfl, .sent address id place, fun o member => (ho o member).prepares⟩, by simp, rfl, fun _ => rfl⟩
      rw [State.updateSession_const hs]
      rfl

theorem charge_ready {session : Session} (hs : s.session? h = some session) : ∃ bucket,
    Ready s h session { session with bucket } [] (s.charge h).2 ∧
    (s.charge h).2.resolver = s.resolver := by
  have ready := ready_update hs (fun session => (session.acquire s.clock).2) rfl
  have result : (s.charge h).2 = s.updateSession h fun _ => (session.acquire s.clock).2 := by
    simp [State.charge, hs]
  rw [State.updateSession_const hs, ← result] at ready
  exact ⟨_, ready, by rw [result]; rfl⟩

/-- What a handled frame does to the node of its session, and whether a node was chosen for it. -/
structure Placed (g : Setup) (s : State) (found : Session) (p : ClientPacket) (outcome : Outcome)
    (after : Session) (s' : State) : Prop where
  login_node : p.msgId = g.loginId → outcome ≠ .rateLimited →
    after.node = (s.placement g g.strategy found).1 ∧
    s'.resolver = (s.placement g g.strategy found).2
  other_node : p.msgId ≠ g.loginId ∨ outcome = .rateLimited →
    after.node = found.node ∧ s'.resolver = s.resolver
  forwarded_node : outcome.isForwarded → after.node.isSome

theorem login_handled (g : Setup) {session : Session} (hs : s.session? h = some session)
    {p : ClientPacket} (login : p.msgId = g.loginId) : ∃ after traffic news,
      Asked s h session p (s.login g h p).1 after traffic news (s.login g h p).2 ∧
      Placed g s session p (s.login g h p).1 after (s.login g h p).2 ∧
      after.phase = if (s.login g h p).1 = .rateLimited then session.phase
        else (session.setPhase .authenticating).phase := by
  obtain ⟨bucket, charged, unchosen⟩ := charge_ready hs
  unfold State.login
  rcases hc : s.charge h with ⟨_ | _, s₁⟩
  · rw [hc] at charged unchosen
    refine ⟨_, [], [], charged.unasked p .rateLimited (by simp), ?_, by simp⟩
    exact ⟨fun _ limited => absurd rfl limited, fun _ => ⟨rfl, unchosen⟩, by simp [Outcome.isForwarded]⟩
  · rw [hc] at charged unchosen
    have hs₁ := charged.session?_eq hs
    have phased := ready_update hs₁ (·.setPhase .authenticating)
      (by rw [Session.setPhase_eq]; rfl)
    obtain ⟨bound, selected, turned, found⟩ := selectNode_ready g (phased.session?_eq hs₁) g.strategy
    have same : (s₁.updateSession h (·.setPhase .authenticating)).placement g g.strategy
        ({ session with bucket }.setPhase .authenticating) = s.placement g g.strategy session := by
      simp only [State.placement, Session.setPhase_eq]
      rw [← unchosen]
      rfl
    rw [same] at selected turned found
    have ready := (charged.trans phased).trans selected
    obtain ⟨lastActive, traffic, opened, asked, unlimited, kept, sent⟩ :=
      forwardTo_asked g (ready.session?_eq hs)
        ((s₁.updateSession h (·.setPhase .authenticating)).selectNode g h g.strategy).1 p
    refine ⟨_, traffic, _, ready.asked asked, ⟨?_, ?_, ?_⟩, ?_⟩
    · intro _ _
      exact ⟨rfl, kept.trans turned⟩
    · rintro (other | limited)
      · exact absurd login other
      · exact absurd limited unlimited
    · exact fun forwarded => found (sent forwarded)
    · rw [if_neg unlimited]
      simp [Session.setPhase_eq]

theorem business_handled (g : Setup) {session : Session} (hs : s.session? h = some session)
    {p : ClientPacket} (other : p.msgId ≠ g.loginId) : ∃ after traffic news,
      Asked s h session p (s.business g h p).1 after traffic news (s.business g h p).2 ∧
      Placed g s session p (s.business g h p).1 after (s.business g h p).2 ∧
      after.phase = session.phase := by
  obtain ⟨bucket, charged, unchosen⟩ := charge_ready hs
  unfold State.business
  rcases hc : s.charge h with ⟨_ | _, s₁⟩
  · rw [hc] at charged unchosen
    refine ⟨_, [], [], charged.unasked p .rateLimited (by simp), ?_, rfl⟩
    exact ⟨fun login => absurd login other, fun _ => ⟨rfl, unchosen⟩, by simp [Outcome.isForwarded]⟩
  · rw [hc] at charged unchosen
    dsimp only
    have hs₁ := charged.session?_eq hs
    obtain ⟨lastActive, traffic, opened, asked, _, kept, sent⟩ := forwardTo_asked g hs₁ _ p
    refine ⟨_, traffic, _, charged.asked asked, ⟨fun login => absurd login other, ?_, ?_⟩, rfl⟩
    · exact fun _ => ⟨rfl, kept.trans unchosen⟩
    · intro forwarded
      obtain ⟨address, found⟩ := Option.isSome_iff_exists.mp (sent forwarded)
      simp only [hs₁, Option.bind_eq_bind, Option.bind_some, Option.bind_eq_some_iff] at found
      obtain ⟨node, bound, _⟩ := found
      exact Option.isSome_iff_exists.mpr ⟨node, bound⟩

/-- What a handled frame does to the phase of its session, and who was let in. -/
structure Decided (g : Setup) (found : Session) (p : ClientPacket) (outcome : Outcome)
    (after : Session) : Prop where
  login_phase : p.msgId = g.loginId → outcome ≠ .rateLimited →
    after.phase = (found.setPhase .authenticating).phase
  other_phase : p.msgId ≠ g.loginId ∨ outcome = .rateLimited → after.phase = found.phase
  gate : p.msgId = g.loginId ∨ found.isAuthenticated = true ∨ outcome = .unauthenticated

theorem handle_decided (g : Setup) {found : Session} (hs : s.session? h = some found)
    {p : ClientPacket} (business : isReserved p.msgId = false) : ∃ after traffic news,
      Asked s h found p (s.handle g h p).1 after traffic news (s.handle g h p).2 ∧
      Placed g s found p (s.handle g h p).1 after (s.handle g h p).2 ∧
      Decided g found p (s.handle g h p).1 after := by
  have touched := ready_update hs (·.touch s.clock) rfl
  have ht := touched.session?_eq hs
  simp only [isReserved, Bool.or_eq_false_iff, beq_eq_false_iff_ne] at business
  unfold State.handle
  rw [hs]
  dsimp only
  rw [if_neg business.1, if_neg business.2]
  by_cases login : p.msgId = g.loginId
  · rw [if_pos login]
    obtain ⟨after, traffic, news, asked, placed, phase⟩ := login_handled g ht login
    refine ⟨after, traffic, _, touched.asked asked,
      ⟨placed.login_node, placed.other_node, placed.forwarded_node⟩, fun _ limited => ?_, fun h => ?_,
      Or.inl login⟩
    · rw [phase, if_neg limited]
      simp [Session.setPhase_eq, Session.touch]
    · rw [phase, if_pos (h.resolve_left (not_not_intro login))]
      rfl
  · rw [if_neg login]
    by_cases auth : found.isAuthenticated = true
    · obtain ⟨after, traffic, news, asked, placed, phase⟩ := business_handled g ht login
      simp only [auth, Bool.not_true, Bool.false_eq_true, if_false]
      exact ⟨after, traffic, _, touched.asked asked,
        ⟨placed.login_node, placed.other_node, placed.forwarded_node⟩,
        fun h => absurd h login, fun _ => phase, Or.inr (Or.inl auth)⟩
    · simp only [auth, Bool.not_false, if_true]
      exact ⟨_, [], [], touched.unasked p .unauthenticated (by simp),
        ⟨fun h => absurd h login, fun _ => ⟨rfl, rfl⟩, by simp [Outcome.isForwarded]⟩,
        fun h => absurd h login, fun _ => rfl, Or.inr (Or.inr rfl)⟩

/-- How the handling of a frame ends once its session is ready: no node is asked, or the frame is forwarded. -/
inductive Goes (g : Setup) (s : State) (h : Handle) (p : ClientPacket) : Outcome → State → Prop where
  | stays (outcome : Outcome) : (∀ address, outcome ≠ .forwarded address) → outcome ≠ .forwardFailed →
      Goes g s h p outcome s
  | sent (address : String) : (s.forward g address h p).1 = .ok () →
      Goes g s h p (.forwarded address) (s.forward g address h p).2
  | failed (address : String) (e : ForwardError) : (s.forward g address h p).1 = .error e →
      Goes g s h p .forwardFailed (s.forward g address h p).2

theorem forwardTo_goes (g : Setup) (s : State) (address : Option String) (h : Handle) (p : ClientPacket) :
    Goes g s h p (s.forwardTo g address h p).1 (s.forwardTo g address h p).2 := by
  unfold State.forwardTo
  cases address with
  | none => exact .stays _ (by simp) (by simp)
  | some address =>
    have sent := Goes.sent (g := g) (s := s) (h := h) (p := p) address
    have failed := Goes.failed (g := g) (s := s) (h := h) (p := p) address
    dsimp only
    rcases hf : s.forward g address h p with ⟨e | _, s'⟩ <;> rw [hf] at sent failed
    · exact failed e rfl
    · exact sent rfl

theorem login_goes (g : Setup) {session : Session} (hs : s.session? h = some session) (p : ClientPacket) :
    ∃ after news s', Ready s h session after news s' ∧
      Goes g s' h p (s.login g h p).1 (s.login g h p).2 := by
  obtain ⟨bucket, charged, _⟩ := charge_ready hs
  unfold State.login
  rcases hc : s.charge h with ⟨_ | _, s₁⟩ <;> rw [hc] at charged
  · exact ⟨_, _, s₁, charged, .stays _ (by simp) (by simp)⟩
  · have hs₁ := charged.session?_eq hs
    have phased := ready_update hs₁ (·.setPhase .authenticating) (by rw [Session.setPhase_eq]; rfl)
    obtain ⟨bound, selected, _⟩ := selectNode_ready g (phased.session?_eq hs₁) g.strategy
    exact ⟨_, _, _, (charged.trans phased).trans selected, forwardTo_goes g _ _ h p⟩

theorem business_goes (g : Setup) {session : Session} (hs : s.session? h = some session)
    (p : ClientPacket) : ∃ after news s', Ready s h session after news s' ∧
      Goes g s' h p (s.business g h p).1 (s.business g h p).2 := by
  obtain ⟨bucket, charged, _⟩ := charge_ready hs
  unfold State.business
  rcases hc : s.charge h with ⟨_ | _, s₁⟩ <;> rw [hc] at charged
  · exact ⟨_, _, s₁, charged, .stays _ (by simp) (by simp)⟩
  · exact ⟨_, _, s₁, charged, forwardTo_goes g s₁ _ h p⟩

theorem handle_goes (g : Setup) {session : Session} (hs : s.session? h = some session) {p : ClientPacket}
    (business : isReserved p.msgId = false) : ∃ after news s',
      Ready s h session after news s' ∧ Goes g s' h p (s.handle g h p).1 (s.handle g h p).2 := by
  have touched := ready_update hs (·.touch s.clock) rfl
  have ht := touched.session?_eq hs
  simp only [isReserved, Bool.or_eq_false_iff, beq_eq_false_iff_ne] at business
  unfold State.handle
  rw [hs]
  dsimp only
  rw [if_neg business.1, if_neg business.2]
  split
  · obtain ⟨after, news, s', ready, goes⟩ := login_goes g ht p
    exact ⟨after, _, s', touched.trans ready, goes⟩
  split
  · exact ⟨_, _, _, touched, .stays _ (by simp) (by simp)⟩
  · obtain ⟨after, news, s', ready, goes⟩ := business_goes g ht p
    exact ⟨after, _, s', touched.trans ready, goes⟩

theorem receive_reserved (g : Setup) {found : Session} (hs : s.session? h = some found)
    {p : ClientPacket} (reserved : isReserved p.msgId = true) : ∃ outcome,
      (∀ address, outcome ≠ .forwarded address) ∧ (s.receive g h p).2.pending = s.pending ∧
      (s.receive g h p).2.history = .handled h found p outcome :: s.history := by
  simp only [isReserved, Bool.or_eq_true, beq_iff_eq] at reserved
  unfold State.receive State.handle
  rw [hs]
  dsimp only
  by_cases request : p.msgId = heartbeatRequestId
  · rw [if_pos request]
    refine ⟨.heartbeatAnswered, by simp, ?_⟩
    unfold State.answerHeartbeat
    split <;> exact ⟨rfl, rfl⟩
  · rw [if_neg request, if_pos (reserved.resolve_left request)]
    exact ⟨.heartbeatIgnored, by simp, rfl, rfl⟩

theorem receive_eq (g : Setup) {session : Session} (hs : s.session? h = some session) (p : ClientPacket) :
    s.receive g h p = ((s.handle g h p).1,
      (s.handle g h p).2.record (.handled h session p (s.handle g h p).1)) := by
  simp [State.receive, hs]

/-- The frame was handled with this outcome, and that is on record. -/
structure Received (g : Setup) (s : State) (h : Handle) (found : Session) (p : ClientPacket)
    (outcome : Outcome) (after : Session) (traffic news : List Occurrence) (s' : State) : Prop
    extends Decided g found p outcome after, Placed g s found p outcome after s' where
  seats : s'.seats = (s.updateSession h fun _ => after).seats
  nextSessionId : s'.nextSessionId = s.nextSessionId
  network : s'.network = s.network
  history : s'.history = .handled h found p outcome :: (traffic ++ (news ++ s.history))
  client : found.SameClient after
  traffic : Traffic s.pending h found.id p outcome s'.pending traffic
  news : ∀ o ∈ news, o.Prepares

theorem receive_received (g : Setup) {found : Session} (hs : s.session? h = some found)
    {p : ClientPacket} (business : isReserved p.msgId = false) : ∃ outcome after traffic news,
      Received g s h found p outcome after traffic news (s.receive g h p).2 := by
  obtain ⟨after, traffic, news, asked, placed, decided⟩ := handle_decided g hs business
  rw [receive_eq g hs]
  refine ⟨(s.handle g h p).1, after, traffic, news, decided,
    ⟨placed.login_node, placed.other_node, placed.forwarded_node⟩, ?_, ?_, ?_, ?_, asked.client,
    asked.traffic, asked.news⟩
  · rw [asked.state]
    rfl
  · rw [asked.state]
    rfl
  · rw [asked.state]
    rfl
  · rw [asked.state]
    simp [State.record]

theorem Received.session?_eq {found after : Session} {p : ClientPacket} {outcome : Outcome}
    {traffic news : List Occurrence} {s' : State}
    (received : Received g s h found p outcome after traffic news s')
    (hs : s.session? h = some found) (h' : Handle) :
    s'.session? h' = if h = h' then some after else s.session? h' := by
  have updated := State.session?_updateSession s h h' fun _ => after
  have same : s'.session? h' = (s.updateSession h fun _ => after).session? h' := by
    unfold State.session?
    rw [received.seats]
  rw [same, updated]
  by_cases hh : h = h'
  · subst h'
    simp [hs]
  · simp [hh]

end SessionGateway.Gateway
