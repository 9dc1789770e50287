import SessionGateway.Proofs.Gateway.Deliveries

/-! What is heard of a client. As long as a client is connected, the frames of it that were handled are
those that its octets hold, and what is left of the octets waits. Once its connection has ended nothing
more is handled. So the frames of a client are always handled in the order in which it sent them. -/
namespace SessionGateway.Gateway

open Wire Liveness Liveness.Monitor

variable {g : Setup} {s s' : State} {h : Handle} {link : Link} {v v' v'' : View}

/-- Nothing was read from the client. It may be gone. -/
structure Unread (v v' : View) : Prop where
  handled : v'.handled = v.handled
  link : v'.link = none ∨ ∃ before after, v.link = some before ∧ v'.link = some after ∧
    before.Lasts after

theorem unread_of_link (handled : v'.handled = v.handled) (link : v'.link = v.link) : Unread v v' where
  handled
  link := by
    rw [link]
    cases v.link with
    | none => exact Or.inl rfl
    | some link => exact Or.inr ⟨link, link, rfl, rfl, .refl link⟩

theorem Unread.refl (v : View) : Unread v v := unread_of_link rfl rfl

theorem Unread.trans (first : Unread v v') (second : Unread v' v'') : Unread v v'' where
  handled := second.handled.trans first.handled
  link := by
    rcases second.link with gone | ⟨b, c, hb, hc, same⟩
    · exact Or.inl gone
    rcases first.link with gone | ⟨a, b', ha, hb', same'⟩
    · cases gone.symm.trans hb
    obtain rfl := Option.some.inj (hb.symm.trans hb')
    exact Or.inr ⟨a, c, ha, hc, same'.trans same⟩

theorem Confined.unread {own : Handle → Prop} (confined : Confined own s s') (foreign : ¬own h) :
    Unread (s.view h) (s'.view h) := by
  rw [confined.view_eq foreign]
  exact .refl _

theorem endClient_unread (s : State) (h : Handle) (why : Ending) :
    Unread (s.view h) ((s.endClient h why).view h) := by
  cases connected : s.clientLink? h with
  | none =>
    rw [endClient_gone connected]
    exact .refl _
  | some link =>
    obtain ⟨ends, _, handled⟩ := endClient_ends connected why
    exact ⟨handled, Or.inl ends.link⟩

theorem setClientLink_unread (connected : s.clientLink? h = some link) {after : Link}
    (lasts : link.Lasts after) : Unread (s.view h) ((s.setClientLink h after).view h) where
  handled := rfl
  link := Or.inr ⟨link, after, connected, State.clientLink?_setClientLink after connected, lasts⟩

theorem writeClient_unread (s : State) (h : Handle) (p : Packet) :
    Unread (s.view h) ((s.writeClient g h p).view h) := by
  cases connected : s.clientLink? h with
  | none =>
    rw [writeClient_gone connected]
    exact .refl _
  | some link =>
    cases met : fault? g.clientCodec p (s.network.toClient h) with
    | none =>
      rw [writeClient_view connected met]
      exact ⟨rfl, Or.inr ⟨link, _, connected, rfl, link.lasts_onOutbound s.now⟩⟩
    | some fault =>
      rw [writeClient_fails connected met]
      exact endClient_unread s h _

theorem clientIdle_unread (n : Nat) (s : State) (h : Handle) :
    Unread (s.view h) ((s.clientIdle g h n).view h) := by
  induction n generalizing s with
  | zero => exact .refl _
  | succ n ih =>
    unfold State.clientIdle
    split
    · exact .refl _
    · rename_i link connected
      split
      · exact .refl _
      · rename_i action monitor hdue
        obtain ⟨layout, limit, _⟩ := due_spec hdue
        have start : Unread (s.view h) ((s.setClientLink h { link with monitor }).view h) :=
          setClientLink_unread connected ⟨rfl, layout, limit⟩
        cases action with
        | heartbeat p => exact (start.trans (writeClient_unread _ h p)).trans (ih _)
        | missed => exact start.trans (ih _)
        | close => exact start.trans (endClient_unread _ h _)

theorem flush_unread (g : Setup) (s : State) (h : Handle) : Unread (s.view h) ((s.flush g).view h) := by
  cases connected : s.clientLink? h with
  | none =>
    rw [flush_gone g connected]
    exact .refl _
  | some link =>
    obtain ⟨session, hs⟩ := session_of_link connected
    have turn := flush_flushed g connected hs
    refine ⟨turn.handled, ?_⟩
    rcases turn.cases with ⟨_, ⟨after, linked, lasts⟩, _⟩ | ⟨_, ends⟩ | ⟨_, _, _, _, ends⟩
    · exact Or.inr ⟨link, after, connected, linked, lasts⟩
    · exact Or.inl ends.link
    · exact Or.inl ends.link

theorem turns_unread {f : State → Handle → State} (hf : ∀ i s, Confined (· = i) s (f s i))
    (own : ∀ s, Unread (s.view h) ((f s h).view h)) (n : Nat) (s : State) :
    Unread (s.view h) (((List.range n).foldl f s).view h) := by
  have mine : ¬h ≠ h := not_not_intro rfl
  by_cases inside : h < n
  · obtain ⟨before, others, more⟩ := turns_split hf inside s
    exact ((others.unread mine).trans (own _)).trans (more.unread mine)
  · exact (turns_beyond hf (Nat.le_of_not_lt inside) s).unread mine

theorem clientLink?_closeSessions (s : State) (h : Handle) :
    s.closeSessions.clientLink? h = s.clientLink? h := by
  unfold State.clientLink? State.closeSessions
  rw [List.getElem?_map]
  cases s.seats[h]? with
  | none => rfl
  | some seat => by_cases listed : seat.listed = true <;> simp [listed]

theorem advance_unread (s : State) (h : Handle) (milliseconds : Nat) :
    Unread (s.view h) ((s.advance g milliseconds).view h) := by
  have turns := turns_unread (f := fun s i => s.clientIdle g i 3) (fun i s => clientIdle_confined i 3 s)
    (fun s => clientIdle_unread (g := g) 3 s h) s.seats.length { s with now := s.now + milliseconds }
  exact turns.trans ((nodesIdle_quiet _ _).unread not_false)

theorem shutdown_unread (s : State) (h : Handle) : Unread (s.view h) (s.shutdown.view h) := by
  have closed : Unread (s.view h) ({ s with stopping := true }.closeSessions.view h) :=
    unread_of_link rfl (clientLink?_closeSessions { s with stopping := true } h)
  have turns := turns_unread (f := fun s i => s.endClient i .shutdown) (fun i s => endClient_confined s i _)
    (fun s => endClient_unread s h _) { s with stopping := true }.closeSessions.seats.length
    { s with stopping := true }.closeSessions
  exact (closed.trans turns).trans ((drain_quiet _).unread not_false)

/-- An event at which nothing is read from the client at `h`, and at which it does not connect. -/
def Event.Spares (s : State) (h : Handle) : Event → Prop
  | .clientConnects _ => h ≠ s.seats.length
  | .clientSends h' _ => h' ≠ h
  | _ => True

theorem react_unread (g : Setup) {e : Event} (spares : e.Spares s h) :
    Unread (s.view h) ((s.react g e).view h) := by
  cases e with
  | clientConnects peer => exact (accept_confined s peer).unread spares
  | clientSends h' bytes => exact (clientOctets_confined s h' bytes).unread fun same => spares same.symm
  | clientCloses h' =>
    by_cases mine : h = h'
    · subst h'
      simp only [State.react, State.clientEnd]
      split
      · exact .refl _
      · exact endClient_unread s h _
    · exact (clientEnd_confined s h').unread mine
  | nodeSends id bytes =>
    obtain ⟨news, spoken⟩ := nodeOctets_spoken g s id bytes
    have handled := congrArg View.handled (spoken.view_eq h)
    exact unread_of_link handled (spoken.link h)
  | nodeCloses id => exact (nodeEnd_quiet s id).unread not_false
  | advance milliseconds => exact advance_unread s h milliseconds
  | clockReads | networkIs | register | deregister | addNode | removeNode => exact unread_of_link rfl rfl
  | ask h' call => exact unread_of_link rfl (State.clientLink?_updateSession s h' h _)
  | closeSessions => exact unread_of_link rfl (clientLink?_closeSessions s h)
  | endLinkTo address => exact (endLinkTo_quiet s address).unread not_false
  | shutdown => exact shutdown_unread s h

/-! ### Streams -/

/-- The octets of an event that the gateway reads from the client at `h`. -/
def Event.octetsOf (s : State) (h : Handle) : Event → Octets
  | .clientSends h' bytes => if h' = h ∧ (s.clientLink? h).isSome then bytes else []
  | _ => []

/-- The octets that a client sends in a run, as long as it is connected. -/
def State.sent (g : Setup) (h : Handle) : State → List Event → Octets
  | _, [] => []
  | s, e :: events => e.octetsOf s h ++ (s.step g e).sent g h events

/-- The frames that octets of a client hold, but for heartbeats. -/
def Setup.frames (g : Setup) (sent : Octets) : List ClientPacket :=
  (g.clientCodec.drain sent).packets.filterMap heard

/-- A client's monitor speaks the layout of clients and has the patience that was set. -/
structure Link.Watched (g : Setup) (link : Link) : Prop where
  layout : link.monitor.layout = .gateway
  limit : link.monitor.missed.limit = max 1 g.heartbeats.maxMissed

theorem Link.Watched.lasts {before after : Link} (watched : before.Watched g) (lasts : before.Lasts after) :
    after.Watched g :=
  ⟨lasts.layout.trans watched.layout, lasts.limit.trans watched.limit⟩

/-- What was handled of a client that sent these octets. -/
structure Hears (g : Setup) (sent : Octets) (v : View) : Prop where
  handled : v.handled.reverse <+: g.frames sent
  connected : ∀ link, v.link = some link → link.input = (g.clientCodec.drain sent).rest ∧
    (g.clientCodec.drain sent).error = none ∧ v.handled.reverse = g.frames sent
  watched : ∀ link, v.link = some link → link.Watched g

theorem Hears.unread {sent : Octets} (hears : Hears g sent v) (unread : Unread v v') : Hears g sent v' where
  handled := by
    rw [unread.handled]
    exact hears.handled
  connected := by
    intro link linked
    rcases unread.link with gone | ⟨before, after, was, linked', same⟩
    · cases gone.symm.trans linked
    · obtain rfl := Option.some.inj (linked'.symm.trans linked)
      rw [same.input, unread.handled]
      exact hears.connected before was
  watched := by
    intro link linked
    rcases unread.link with gone | ⟨before, after, was, linked', same⟩
    · cases gone.symm.trans linked
    · obtain rfl := Option.some.inj (linked'.symm.trans linked)
      exact (hears.watched before was).lasts same

theorem frames_append {sent : Octets} (clean : (g.clientCodec.drain sent).error = none) (more : Octets) :
    let later := g.clientCodec.drain ((g.clientCodec.drain sent).rest ++ more)
    g.clientCodec.drain (sent ++ more) =
        { later with packets := (g.clientCodec.drain sent).packets ++ later.packets } ∧
      g.frames (sent ++ more) = g.frames sent ++ later.packets.filterMap heard := by
  intro later
  have whole : g.clientCodec.drain (sent ++ more) =
      { later with packets := (g.clientCodec.drain sent).packets ++ later.packets } := by
    rw [Codec.drain_append, Codec.feed, clean]
  refine ⟨whole, ?_⟩
  rw [Setup.frames, whole, List.filterMap_append]
  rfl

theorem Hears.reads {sent bytes : Octets} (hears : Hears g sent (s.view h))
    (connected : s.clientLink? h = some link) :
    Hears g (sent ++ bytes) ((s.clientOctets g h bytes).view h) := by
  obtain ⟨input, clean, all⟩ := hears.connected link connected
  obtain ⟨whole, frames⟩ := frames_append (g := g) clean bytes
  have reads := clientOctets_reads g connected bytes
  rw [input] at reads
  generalize (s.clientOctets g h bytes).view h = v' at reads ⊢
  constructor
  · obtain ⟨first, front, handled⟩ := reads.handled
    rw [handled, List.reverse_append, List.reverse_reverse, all, frames]
    exact (List.prefix_append_right_inj _).mpr (front.filterMap heard)
  · intro after linked
    rcases reads.cases with ⟨unrefused, stays, handled⟩ | ⟨e, _, ends⟩ | ⟨_, _, _, _, ends⟩
    · obtain ⟨before, after', was, linked', lasts⟩ := stays.link
      obtain rfl := Option.some.inj was
      obtain rfl := Option.some.inj (linked'.symm.trans linked)
      rw [whole, handled, List.reverse_append, List.reverse_reverse, all, frames]
      exact ⟨lasts.input, unrefused, rfl⟩
    · cases ends.link.symm.trans linked
    · cases ends.link.symm.trans linked
  · intro after linked
    rcases reads.cases with ⟨_, stays, _⟩ | ⟨e, _, ends⟩ | ⟨_, _, _, _, ends⟩
    · obtain ⟨before, after', was, linked', lasts⟩ := stays.link
      obtain rfl := Option.some.inj was
      obtain rfl := Option.some.inj (linked'.symm.trans linked)
      have watched := hears.watched link connected
      exact ⟨lasts.layout.trans watched.layout, lasts.limit.trans watched.limit⟩
    · cases ends.link.symm.trans linked
    · cases ends.link.symm.trans linked

/-! ### Runs -/

theorem drain_nothing (g : Setup) : g.clientCodec.drain [] = ⟨[], [], none⟩ :=
  Codec.drain_incomplete (Codec.decode_short _ (by decide))

theorem accept_hears (g : Setup) (place : h = s.seats.length) (hears : Hears g [] (s.view h))
    (peer : Option Text.SocketAddress) : Hears g [] ((s.accept g peer).2.view h) := by
  have nothing : g.frames [] = [] := by rw [Setup.frames, drain_nothing]; rfl
  have unheard : (s.view h).handled = [] := by
    have front := hears.handled
    rw [nothing, List.prefix_nil] at front
    exact List.reverse_eq_nil_iff.mp front
  unfold State.accept
  split
  · exact hears
  · have handled : (((s.openSession g peer (some (.start .gateway g.heartbeats s.now))).2.record
        (.clientOpened s.seats.length)).view h).handled = [] := unheard
    have opened : (((s.openSession g peer (some (.start .gateway g.heartbeats s.now))).2.record
        (.clientOpened s.seats.length)).view h).link = some (.start .gateway g.heartbeats s.now) := by
      simp [State.view, State.clientLink?, State.record, State.openSession, place]
    refine ⟨?_, ?_, ?_⟩
    · rw [nothing, List.prefix_nil, List.reverse_eq_nil_iff]
      exact handled
    · intro link linked
      obtain rfl := Option.some.inj (opened.symm.trans linked)
      rw [drain_nothing, nothing, List.reverse_eq_nil_iff]
      exact ⟨rfl, rfl, handled⟩
    · intro link linked
      obtain rfl := Option.some.inj (opened.symm.trans linked)
      exact ⟨rfl, rfl⟩

/-- What holds between events: of the octets that a client sent all was handled that could be, and one
that has not come yet sent nothing. -/
structure HearingInvariant (g : Setup) (h : Handle) (sent : Octets) (s : State) : Prop where
  registry : RegistryInvariant s
  hears : Hears g sent (s.view h)
  silent : s.session? h = none → sent = []

theorem moves_known (inv : RegistryInvariant s) {asked : Handle → SessionCall → Prop}
    (path : Moves g asked s s') {session : Session} (known : s.session? h = some session) :
    ∃ after, s'.session? h = some after := by
  let I (t : State) := RegistryInvariant t ∧ ∃ b, t.roster[h]? = some b
  obtain ⟨b, at_h, _⟩ := session?_badge known
  have kept : I s' := by
    refine moves_invariant ?_ path ⟨inv, b, at_h⟩
    rintro t t' ⟨inv, b, at_h⟩ move
    have change := move_registers inv move
    obtain ⟨b', at_h', _⟩ := registers_id change at_h
    exact ⟨registers_preserves_invariant inv change, b', at_h'⟩
  obtain ⟨_, b', at_h'⟩ := kept
  obtain ⟨after, found, _⟩ := roster_session at_h'
  exact ⟨after, found⟩

theorem step_hears {sent : Octets} (inv : HearingInvariant g h sent s) (e : Event) :
    HearingInvariant g h (sent ++ e.octetsOf s h) (s.step g e) := by
  have moves : Moves g (fun _ _ => True) s (s.step g e) := step_moves s e fun _ _ _ => trivial
  have registry := moves_invariant move_preserves_registry moves inv.registry
  have reacted : Hears g (sent ++ e.octetsOf s h) ((s.react g e).view h) := by
    by_cases spares : e.Spares s h
    · have silent : e.octetsOf s h = [] := by
        cases e with
        | clientSends h' bytes => exact if_neg fun same => spares same.1
        | _ => rfl
      rw [silent, List.append_nil]
      exact inv.hears.unread (react_unread g spares)
    · cases e with
      | clientConnects peer =>
        have place : h = s.seats.length := not_not.mp spares
        have unknown : s.session? h = none := by simp [State.session?, place]
        have hears := inv.hears
        rw [inv.silent unknown] at hears ⊢
        exact accept_hears g place hears peer
      | clientSends h' bytes =>
        obtain rfl : h' = h := not_not.mp spares
        simp only [State.react, Event.octetsOf, true_and]
        cases connected : s.clientLink? h' with
        | none =>
          rw [State.clientOctets, connected]
          simpa using inv.hears
        | some link => simpa using inv.hears.reads connected
      | _ => exact absurd trivial spares
  refine ⟨registry, reacted.unread (flush_unread g (s.react g e) h), ?_⟩
  intro unknown
  have before : s.session? h = none := by
    cases known : s.session? h with
    | none => rfl
    | some session =>
      obtain ⟨after, found⟩ := moves_known inv.registry moves known
      cases unknown.symm.trans found
  have gone : s.clientLink? h = none := by
    cases connected : s.clientLink? h with
    | none => rfl
    | some link =>
      obtain ⟨session, hs⟩ := session_of_link connected
      cases before.symm.trans hs
  have silent : e.octetsOf s h = [] := by
    cases e with
    | clientSends h' bytes => exact if_neg fun sends => by simp [gone] at sends
    | _ => rfl
  rw [inv.silent before, silent, List.append_nil]

theorem initial_hears (g : Setup) (h : Handle) (resolver : Selection.Resolver) (clock : SessionClock)
    (network : Network) : HearingInvariant g h [] (State.initial resolver clock network) where
  registry := initial_registry resolver clock network
  hears := by
    refine ⟨List.nil_prefix, ?_, ?_⟩ <;> rintro link ⟨⟩
  silent := fun _ => rfl

/-- However the connections of clients come and go, what was handled of a client is what it sent while it
was connected, frame by frame from the first on. -/
theorem run_hears {sent : Octets} (inv : HearingInvariant g h sent s) (events : List Event) :
    HearingInvariant g h (sent ++ s.sent g h events) (s.run g events) := by
  induction events generalizing s sent with
  | nil =>
    rw [State.sent, List.append_nil]
    exact inv
  | cons e events ih =>
    rw [State.run_cons, State.sent, ← List.append_assoc]
    exact ih (step_hears inv e)

end SessionGateway.Gateway
