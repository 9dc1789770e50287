import SessionGateway.Proofs.Gateway.Replying
import SessionGateway.Proofs.Liveness.Timeline
import Mathlib.Logic.Relation

/-! Steps taken apart. A step carries an event through to the end, which takes many moves: a frame
is handled, a reply dispatched, a connection ended. What every move preserves, every run preserves. -/
namespace SessionGateway.Gateway

open Wire Liveness Liveness.Monitor Selection

/-- The timers of all links to nodes watch for these periods, none of which began later than now. -/
def State.NodesWithin (s : State) (periods : Heartbeats) : Prop :=
  ∀ link ∈ s.links, link.link.monitor.timers.Within periods s.now

/-- One move. Octets that come in, the queue of a client and the timers each lead to several.
`asked` tells which calls of sessions may come from outside a gateway. -/
inductive Move (g : Setup) (asked : Handle → SessionCall → Prop) (s : State) : State → Prop where
  | waits (now : Time) : s.now ≤ now → Move g asked s { s with now }
  | reads (clock : SessionClock) : Move g asked s { s with clock }
  | rewires (network : Network) : Move g asked s { s with network }
  | lists (f : Directory → Directory) : Move g asked s (s.mapDirectory f)
  | configures (f : NodeTable → NodeTable) : Move g asked s (s.mapNodes f)
  | stops : Move g asked s { s with stopping := true }
  | drains : Move g asked s { s with draining := true }
  | settles : Move g asked s s.settle
  | asks (h : Handle) (call : SessionCall) : asked h call →
      Move g asked s (s.updateSession h (·.perform s.clock call))
  | closes : Move g asked s s.closeSessions
  | touches (h : Handle) : Move g asked s (s.updateSession h (·.touch s.clock))
  | empties (h : Handle) : Move g asked s (s.updateSession h (·.receive.2))
  | opens (peer : Option Text.SocketAddress) (link : Link) :
      s.hasFreeId = true → s.stopping = false → link = .start .gateway g.heartbeats s.now →
      Move g asked s ((s.openSession g peer (some link)).2.record (.clientOpened s.seats.length))
  | relinks (h : Handle) (old link : Link) : s.clientLink? h = some old →
      (∀ periods, old.monitor.timers.Within periods s.now → link.monitor.timers.Within periods s.now) →
      Move g asked s (s.setClientLink h link)
  | shows (h : Handle) (link : Link) (p : Packet) : s.clientLink? h = some link →
      Move g asked s (s.record (.clientReceived h p))
  | receives (h : Handle) (link : Link) (p : ClientPacket) : s.clientLink? h = some link →
      isReserved p.msgId = false → Move g asked s (s.receive g h p).2
  | ends (h : Handle) (link : Link) (why : Ending) : s.clientLink? h = some link →
      Move g asked s (s.endClient h why)
  | relinksNode (id : Nat) (f : Link → Link) :
      (∀ periods, s.NodesWithin periods → ∀ link ∈ s.links, (f link.link).monitor.timers.Within periods s.now) →
      Move g asked s (s.updateNodeLink id f)
  | replies (p : NodePacket) : isReserved p.msgId = false → Move g asked s (s.reply g p).2
  | beats (id : Nat) (p : Packet) : isReserved p.msgId = true → Move g asked s (s.writeNode g id p).2
  | endsNode (id : Nat) (why : Ending) : Move g asked s (s.endLink id why)
  | leaves (address : String) : Move g asked s (s.endLinkTo address).2

abbrev Moves (g : Setup) (asked : Handle → SessionCall → Prop) : State → State → Prop :=
  Relation.ReflTransGen (Move g asked)

variable {g : Setup} {asked : Handle → SessionCall → Prop}

theorem moves_invariant {I : State → Prop} (preserved : ∀ s s', I s → Move g asked s s' → I s')
    {s s' : State} (path : Moves g asked s s') (hs : I s) : I s' := by
  induction path with
  | refl => exact hs
  | tail _ move ih => exact preserved _ _ ih move

theorem Move.mono {allowed : Handle → SessionCall → Prop}
    (weaker : ∀ h call, asked h call → allowed h call) {s s' : State} (move : Move g asked s s') :
    Move g allowed s s' := by
  cases move with
  | asks h call permitted => exact .asks h call (weaker h call permitted)
  | _ => constructor <;> assumption

/-! ### The lists of nodes and the network -/

/-- The lists of nodes and the network stay as they are. Turns may be taken. -/
structure Steady (s s' : State) : Prop where
  resolver : s'.resolver = { s.resolver with rotation := s'.resolver.rotation }
  network : s'.network = s.network

abbrev SteadyMoves (g : Setup) (asked : Handle → SessionCall → Prop) : State → State → Prop :=
  Relation.ReflTransGen fun s s' => Move g asked s s' ∧ Steady s s'

theorem SteadyMoves.moves {s s' : State} (path : SteadyMoves g asked s s') : Moves g asked s s' :=
  Relation.ReflTransGen.mono (fun _ _ move => And.left move) _ _ path

theorem SteadyMoves.steady {s s' : State} (path : SteadyMoves g asked s s') : Steady s s' := by
  induction path with
  | refl => exact ⟨rfl, rfl⟩
  | tail _ move ih => exact ⟨by rw [move.2.resolver, ih.resolver], move.2.network.trans ih.network⟩

theorem endClient_steady (s : State) (h : Handle) (why : Ending) : Steady s (s.endClient h why) := by
  obtain ⟨_, _, _, left⟩ := s.endClient_keeps h why
  rw [left]
  exact ⟨rfl, rfl⟩

theorem placement_steady (g : Setup) (s : State) (strategy : Strategy) (session : Session) :
    ∃ rotation, (s.placement g strategy session).2 = { s.resolver with rotation } := by
  unfold State.placement
  split
  · exact ⟨_, rfl⟩
  · exact choose_resolver g.draws s.resolver strategy session.player

theorem receive_steady {s : State} {h : Handle} {link : Link} {p : ClientPacket}
    (connected : s.clientLink? h = some link) (business : isReserved p.msgId = false) :
    Steady s (s.receive g h p).2 := by
  obtain ⟨seat, at_h, _⟩ := Option.bind_eq_some_iff.mp connected
  have hs : s.session? h = some seat.session := State.session?_eq_some.mpr ⟨seat, at_h, rfl⟩
  obtain ⟨outcome, after, traffic, news, received⟩ := receive_received g hs business
  refine ⟨?_, received.network⟩
  by_cases login : p.msgId = g.loginId ∧ outcome ≠ .rateLimited
  · obtain ⟨rotation, turned⟩ := placement_steady g s g.strategy seat.session
    rw [(received.login_node login.1 login.2).2, turned]
  · have other : p.msgId ≠ g.loginId ∨ outcome = .rateLimited := by
      by_cases limited : outcome = .rateLimited
      · exact Or.inr limited
      · exact Or.inl fun same => login ⟨same, limited⟩
    rw [(received.other_node other).2]

theorem reply_steady (g : Setup) (s : State) (p : NodePacket) : Steady s (s.reply g p).2 := by
  rcases reply_cases g s p with ⟨_, result⟩ | ⟨_, _, result⟩ | ⟨_, _, _, _, _, _, _, _, result⟩ <;>
    rw [result] <;> exact ⟨rfl, rfl⟩

theorem writeNode_steady (g : Setup) (s : State) (id : Nat) (p : Packet) :
    Steady s (s.writeNode g id p).2 := by
  rcases writeNode_cases g s id p with ⟨_, _, result⟩ | ⟨_, result⟩ | ⟨_, _, _, result⟩ <;>
    rw [result] <;> exact ⟨rfl, rfl⟩

theorem Rewired.steady {s s' : State} {news : List Occurrence} (rewired : Rewired s news s') : Steady s s' := by
  rw [rewired.state]
  exact ⟨rfl, rfl⟩

theorem endLink_steady (s : State) (id : Nat) (why : Ending) : Steady s (s.endLink id why) := by
  obtain ⟨_, rewired, _⟩ := endLink_rewires s id why
  exact rewired.steady

theorem endLinkTo_steady (s : State) (address : String) : Steady s (s.endLinkTo address).2 := by
  obtain ⟨_, rewired⟩ := endLinkTo_rewires s address
  exact rewired.steady

theorem moves_foldl {α : Type} (f : State → α → State) (hf : ∀ s x, SteadyMoves g asked s (f s x))
    (s : State) (xs : List α) : SteadyMoves g asked s (xs.foldl f s) := by
  induction xs generalizing s with
  | nil => exact .refl
  | cons x xs ih => exact (hf s x).trans (ih (f s x))

/-! ### Timers -/

theorem within_onInbound {m m' : Monitor} {periods : Heartbeats} {now : Time} {wall : Heartbeat.WallClock}
    {p : Packet} {inbound : Inbound} (hin : m.onInbound now wall p = (inbound, m'))
    (within : m.timers.Within periods now) : m'.timers.Within periods now := by
  have heard : m' = _ := (congrArg Prod.snd hin).symm.trans (m.onInbound_snd now wall p)
  rw [heard]
  exact within.note .read

theorem within_due {m m' : Monitor} {periods : Heartbeats} {now : Time} {wall : Heartbeat.WallClock}
    {action : IdleAction} (hdue : m.due now wall = some (action, m'))
    (within : m.timers.Within periods now) : m'.timers.Within periods now := by
  unfold due at hdue
  split at hdue
  · rename_i due
    have woken : max now m.timers.earliest.2 = now := Nat.max_eq_left due
    obtain ⟨rfl, rfl, rfl⟩ := Prod.mk.inj (Option.some.inj hdue)
    have timers : ((m.next now).2.2.onIdle wall (m.next now).1).2.timers =
        m.timers.restart now m.timers.earliest.1 := by
      cases h : m.timers.earliest.1 <;> simp [Monitor.next, IdleTimers.next, onIdle, h, woken]
    exact timers ▸ within.note (.idle m.timers.earliest.1)
  · cases hdue

/-! ### Clients -/

theorem endClient_moves (s : State) (h : Handle) (why : Ending) :
    SteadyMoves g asked s (s.endClient h why) := by
  cases hl : s.clientLink? h with
  | none =>
    have same : s.endClient h why = s := by simp [State.endClient, hl]
    rw [same]
  | some link => exact .single ⟨.ends h link why hl, endClient_steady s h why⟩

theorem writeClient_moves (s : State) (h : Handle) (p : Packet) :
    SteadyMoves g asked s (s.writeClient g h p) := by
  unfold State.writeClient
  split
  · exact .refl
  · rename_i link hl
    split
    · exact endClient_moves s h _
    · have relink : Move g asked s
          (s.setClientLink h { link with monitor := link.monitor.onOutbound s.now }) :=
        .relinks h link _ hl fun _ within => within.note .wrote
      exact .tail (.single ⟨relink, rfl, rfl⟩)
        ⟨.shows h _ p (State.clientLink?_setClientLink _ hl), rfl, rfl⟩

theorem clientFrame_moves (s : State) (h : Handle) (p : Packet) :
    SteadyMoves g asked s (s.clientFrame g h p) := by
  unfold State.clientFrame
  split
  · exact .refl
  · rename_i link hl
    have touch : SteadyMoves g asked s (s.updateSession h (·.touch s.clock)) :=
      .single ⟨.touches h, rfl, rfl⟩
    have connected : (s.updateSession h (·.touch s.clock)).clientLink? h = some link := by
      rw [State.clientLink?_updateSession]
      exact hl
    generalize s.updateSession h (·.touch s.clock) = s₁ at touch connected ⊢
    rcases hin : link.monitor.onInbound s₁.now s₁.clock.wall p with ⟨inbound, monitor⟩
    have start : SteadyMoves g asked s (s₁.setClientLink h { link with monitor }) :=
      touch.tail ⟨.relinks h link _ connected fun _ => within_onInbound hin, rfl, rfl⟩
    have seen := State.clientLink?_setClientLink { link with monitor } connected
    simp only [hin]
    cases inbound with
    | reply answer => exact start.trans (writeClient_moves _ h answer)
    | absorbed => exact start
    | deliver q =>
      obtain ⟨rfl, business⟩ := onInbound_deliver hin
      cases q with
      | client c => exact start.tail ⟨.receives h _ c seen business, receive_steady seen business⟩
      | node => exact start
      | server => exact start

theorem clientOctets_moves (s : State) (h : Handle) (bytes : Octets) :
    SteadyMoves g asked s (s.clientOctets g h bytes) := by
  unfold State.clientOctets
  split
  · exact .refl
  · rename_i link hl
    generalize g.clientCodec.drain (link.input ++ bytes) = drained
    have start : SteadyMoves g asked s (s.setClientLink h { link with input := drained.rest }) :=
      .single ⟨.relinks h link _ hl fun _ => id, rfl, rfl⟩
    have handled := start.trans (moves_foldl (State.clientFrame g h)
      (fun s p => clientFrame_moves s h p) _ drained.packets)
    dsimp only
    split
    · exact handled.trans (endClient_moves _ h _)
    · exact handled

theorem clientEnd_moves (s : State) (h : Handle) : SteadyMoves g asked s (s.clientEnd h) := by
  unfold State.clientEnd
  split
  · exact .refl
  · exact endClient_moves s h _

theorem flushClient_moves (s : State) (h : Handle) : SteadyMoves g asked s (s.flushClient g h) := by
  unfold State.flushClient
  split
  · rename_i session _ _
    have start : SteadyMoves g asked s (s.updateSession h (·.receive.2)) := .single ⟨.empties h, rfl, rfl⟩
    have written (waiting : List ClientPacket) := start.trans
      (moves_foldl (fun s p => s.writeClient g h (.client p)) (fun s p => writeClient_moves s h (.client p)) _ waiting)
    dsimp only
    split
    · exact (written _).trans (endClient_moves _ h _)
    · exact written _
  · exact .refl

theorem flush_moves (s : State) : SteadyMoves g asked s (s.flush g) :=
  moves_foldl (State.flushClient g) flushClient_moves s _

theorem clientIdle_moves (h : Handle) (n : Nat) (s : State) :
    SteadyMoves g asked s (s.clientIdle g h n) := by
  induction n generalizing s with
  | zero => exact .refl
  | succ n ih =>
    unfold State.clientIdle
    split
    · exact .refl
    · rename_i link hl
      split
      · exact .refl
      · rename_i action monitor hdue
        have start : SteadyMoves g asked s (s.setClientLink h { link with monitor }) :=
          .single ⟨.relinks h link _ hl fun _ => within_due hdue, rfl, rfl⟩
        cases action with
        | heartbeat p => exact start.trans ((writeClient_moves _ h p).trans (ih _))
        | missed => exact start.trans (ih _)
        | close => exact start.trans (endClient_moves _ h _)

/-! ### Nodes -/

theorem nodeFrame_moves (s : State) (id : Nat) (p : Packet) :
    SteadyMoves g asked s (s.nodeFrame g id p) := by
  unfold State.nodeFrame
  split
  · exact .refl
  · rename_i nodeLink found
    rcases hin : nodeLink.link.monitor.onInbound s.now s.clock.wall p with ⟨inbound, monitor⟩
    have start : SteadyMoves g asked s (s.updateNodeLink id fun link => { link with monitor }) :=
      .single ⟨.relinksNode id _ fun _ within _ _ =>
        within_onInbound hin (within nodeLink (List.mem_of_find?_eq_some found)), rfl, rfl⟩
    dsimp only
    cases inbound with
    | reply answer =>
      have beaten := start.tail
        ⟨.beats id answer (onInbound_reply hin), writeNode_steady g _ id answer⟩
      dsimp only
      split
      · rename_i e s' hw
        rw [hw] at beaten
        exact beaten.tail ⟨.endsNode id _, endLink_steady _ id _⟩
      · rename_i s' hw
        rw [hw] at beaten
        exact beaten
    | absorbed => exact start
    | deliver q =>
      obtain ⟨rfl, business⟩ := onInbound_deliver hin
      cases q with
      | node c => exact start.tail ⟨.replies c business, reply_steady g _ c⟩
      | client => exact start
      | server => exact start

theorem nodeOctets_moves (s : State) (id : Nat) (bytes : Octets) :
    SteadyMoves g asked s (s.nodeOctets g id bytes) := by
  unfold State.nodeOctets
  split
  · exact .refl
  · rename_i nodeLink _
    generalize g.nodeCodec.drain (nodeLink.link.input ++ bytes) = drained
    have start : SteadyMoves g asked s (s.updateNodeLink id fun link => { link with input := drained.rest }) :=
      .single ⟨.relinksNode id _ fun _ within => within, rfl, rfl⟩
    have dispatched := start.trans (moves_foldl (State.nodeFrame g id)
      (fun s p => nodeFrame_moves s id p) _ drained.packets)
    dsimp only
    split
    · exact dispatched.tail ⟨.endsNode id _, endLink_steady _ id _⟩
    · exact dispatched

theorem nodeEnd_moves (s : State) (id : Nat) : SteadyMoves g asked s (s.nodeEnd id) := by
  unfold State.nodeEnd
  split
  · exact .refl
  · exact .single ⟨.endsNode id _, endLink_steady _ id _⟩

theorem nodeIdle_moves (id n : Nat) (s : State) : SteadyMoves g asked s (s.nodeIdle g id n) := by
  induction n generalizing s with
  | zero => exact .refl
  | succ n ih =>
    unfold State.nodeIdle
    split
    · exact .refl
    · rename_i nodeLink found
      split
      · exact .refl
      · rename_i action monitor hdue
        have start : SteadyMoves g asked s (s.updateNodeLink id fun link => { link with monitor }) :=
          .single ⟨.relinksNode id _ fun _ within _ _ =>
            within_due hdue (within nodeLink (List.mem_of_find?_eq_some found)), rfl, rfl⟩
        cases action with
        | heartbeat p =>
          have beaten := start.tail
            ⟨.beats id p (due_heartbeat hdue), writeNode_steady g _ id p⟩
          dsimp only
          split
          · rename_i e s' hw
            rw [hw] at beaten
            exact beaten.tail ⟨.endsNode id _, endLink_steady _ id _⟩
          · rename_i s' hw
            rw [hw] at beaten
            exact beaten.trans (ih _)
        | missed => exact start.trans (ih _)
        | close => exact start.tail ⟨.endsNode id _, endLink_steady _ id _⟩

/-! ### Steps and runs -/

theorem advance_moves (s : State) (milliseconds : Nat) :
    SteadyMoves g asked s (s.advance g milliseconds) := by
  have clients (s : State) (hs : List Handle) :
      SteadyMoves g asked s (hs.foldl (fun s h => s.clientIdle g h 3) s) :=
    moves_foldl _ (fun s h => clientIdle_moves h 3 s) s hs
  have nodes (s : State) (links : List NodeLink) :
      SteadyMoves g asked s (links.foldl (fun s link => s.nodeIdle g link.id 3) s) :=
    moves_foldl _ (fun s link => nodeIdle_moves link.id 3 s) s links
  exact ((Relation.ReflTransGen.single ⟨.waits _ (Nat.le_add_right _ _), rfl, rfl⟩).trans (clients _ _)).trans
    (nodes _ _)

theorem accept_moves (s : State) (peer : Option Text.SocketAddress) :
    SteadyMoves g asked s (s.accept g peer).2 := by
  unfold State.accept
  split
  · exact .refl
  · rename_i room
    simp only [Bool.or_eq_true, Bool.not_eq_true', not_or, Bool.not_eq_true,
      Bool.not_eq_false] at room
    exact .single ⟨.opens peer _ room.2 room.1 rfl, rfl, rfl⟩

theorem drain_moves (s : State) : SteadyMoves g asked s s.drain := by
  have left (s : State) (slots : List (String × Slot)) :
      SteadyMoves g asked s (slots.foldl (fun s e => (s.endLinkTo e.1).2) s) :=
    moves_foldl _ (fun s slot => .single ⟨.leaves slot.1, endLinkTo_steady s slot.1⟩) s slots
  exact (Relation.ReflTransGen.single ⟨.drains, rfl, rfl⟩).trans (left _ _)

theorem shutdown_moves (s : State) : SteadyMoves g asked s s.shutdown := by
  have stopped : SteadyMoves g asked s { s with stopping := true }.closeSessions :=
    (Relation.ReflTransGen.single ⟨.stops, rfl, rfl⟩).tail ⟨.closes, rfl, rfl⟩
  have ended (s : State) (hs : List Handle) :
      SteadyMoves g asked s (hs.foldl (fun s h => s.endClient h .shutdown) s) :=
    moves_foldl _ (fun s h => endClient_moves s h _) s hs
  exact (stopped.trans (ended _ _)).trans (drain_moves _)

def Event.relists : Event → Bool
  | .register _ _ | .deregister _ _ | .addNode _ _ | .removeNode _ => true
  | _ => false

/-- An event that changes the lists of nodes or the network does nothing else. -/
theorem react_cases (s : State) (e : Event) (he : ∀ h call, e = .ask h call → asked h call) :
    SteadyMoves g asked s (s.react g e) ∨ (∃ network, e = .networkIs network) ∨
      e.relists = true ∧ ((∃ f, s.react g e = s.mapDirectory f) ∨ ∃ f, s.react g e = s.mapNodes f) := by
  cases e with
  | clientConnects peer => exact Or.inl (accept_moves s peer)
  | clientSends h bytes => exact Or.inl (clientOctets_moves s h bytes)
  | clientCloses h => exact Or.inl (clientEnd_moves s h)
  | nodeSends id bytes => exact Or.inl (nodeOctets_moves s id bytes)
  | nodeCloses id => exact Or.inl (nodeEnd_moves s id)
  | advance milliseconds => exact Or.inl (advance_moves s milliseconds)
  | clockReads clock => exact Or.inl (.single ⟨.reads clock, rfl, rfl⟩)
  | networkIs network => exact Or.inr (Or.inl ⟨network, rfl⟩)
  | ask h call => exact Or.inl (.single ⟨.asks h call (he h call rfl), rfl, rfl⟩)
  | closeSessions => exact Or.inl (.single ⟨.closes, rfl, rfl⟩)
  | register service i => exact Or.inr (Or.inr ⟨rfl, Or.inl ⟨_, rfl⟩⟩)
  | deregister service id => exact Or.inr (Or.inr ⟨rfl, Or.inl ⟨_, rfl⟩⟩)
  | addNode id address => exact Or.inr (Or.inr ⟨rfl, Or.inr ⟨(·.insert id address), rfl⟩⟩)
  | removeNode id => exact Or.inr (Or.inr ⟨rfl, Or.inr ⟨(·.erase id), rfl⟩⟩)
  | endLinkTo address => exact Or.inl (.single ⟨.leaves address, endLinkTo_steady s address⟩)
  | shutdown => exact Or.inl (shutdown_moves s)

theorem step_flushed (s : State) (e : Event) : SteadyMoves g asked (s.react g e) (s.step g e) :=
  (flush_moves _).tail ⟨.settles, rfl, rfl⟩

theorem step_moves (s : State) (e : Event) (he : ∀ h call, e = .ask h call → asked h call) :
    Moves g asked s (s.step g e) := by
  have flushed : Moves g asked (s.react g e) (s.step g e) := (step_flushed s e).moves
  rcases react_cases (g := g) s e he with steady | ⟨network, rfl⟩ | ⟨_, ⟨f, listed⟩ | ⟨f, configured⟩⟩
  · exact steady.moves.trans flushed
  · exact .head (.rewires network) flushed
  · have move : Move g asked s (s.react g e) := listed ▸ .lists f
    exact .head move flushed
  · have move : Move g asked s (s.react g e) := configured ▸ .configures f
    exact .head move flushed

theorem run_moves (s : State) (events : List Event)
    (he : ∀ h call, .ask h call ∈ events → asked h call) : Moves g asked s (s.run g events) := by
  induction events generalizing s with
  | nil => exact .refl
  | cons e events ih =>
    rw [State.run_cons]
    refine (step_moves s e ?_).trans (ih _ fun h call hm => he h call (List.mem_cons_of_mem _ hm))
    rintro h call rfl
    exact he h call List.mem_cons_self

/-- What every move preserves holds after every run. -/
theorem run_invariant {I : State → Prop} (preserved : ∀ s s', I s → Move g asked s s' → I s')
    {s : State} (hs : I s) {events : List Event}
    (he : ∀ h call, .ask h call ∈ events → asked h call) : I (s.run g events) :=
  moves_invariant preserved (run_moves s events he) hs

theorem run_invariant_always {I : State → Prop}
    (preserved : ∀ s s', I s → Move g (fun _ _ => True) s s' → I s') {s : State} (hs : I s)
    (events : List Event) : I (s.run g events) :=
  run_invariant preserved hs fun _ _ _ => trivial

end SessionGateway.Gateway
