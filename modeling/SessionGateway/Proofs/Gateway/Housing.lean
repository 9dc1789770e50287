import SessionGateway.Proofs.Gateway.StickyRouting
import SessionGateway.Proofs.Gateway.Turns

/-! Nobody is known to a gateway who has no node. A node is chosen before a login is forwarded, a reply is
taken only by a session that waits for it, and only over such a reply is anyone told who a session belongs
to. So a frame of an authenticated session is never in want of a node, but of an address for it. -/
namespace SessionGateway.Selection

theorem NodeTable.address?_eq_none_iff (t : NodeTable) (node : String) :
    t.address? node = none ↔ ∀ entry ∈ t.entries, entry.1 ≠ node := by
  simp [NodeTable.address?, Text.ByName.value?, List.find?_eq_none]

theorem Resolver.address?_eq_none_iff (r : Resolver) (node : String) : r.address? node = none ↔
    (∀ i ∈ r.live, i.id ≠ node) ∧ ∀ entry ∈ r.nodes.entries, entry.1 ≠ node := by
  rw [← NodeTable.address?_eq_none_iff, Resolver.address?]
  cases found : r.live.find? (·.id = node) with
  | some i =>
    have listed : i ∈ r.live ∧ i.id = node :=
      ⟨List.mem_of_find?_eq_some found, by simpa using List.find?_some found⟩
    simp only [reduceCtorEq, false_iff]
    exact fun unknown => unknown.1 i listed.1 listed.2
  | none =>
    have unlisted : ∀ i ∈ r.live, i.id ≠ node := by simpa using found
    exact (and_iff_right unlisted).symm

end SessionGateway.Selection

namespace SessionGateway.Gateway

open Wire Selection

variable {g : Setup} {asked : Handle → SessionCall → Prop} {s s' : State} {h : Handle}

/-! ### Who is known -/

def State.player? (s : State) (h : Handle) : Option Int64 := (s.session? h).bind (·.player)

def Anonymous (_ : Handle) (call : SessionCall) : Prop := ∀ player, call ≠ .authenticate player

theorem player?_eq_some {player : Int64} : s.player? h = some player ↔
    ∃ session, s.session? h = some session ∧ session.player = some player := by
  simp [State.player?, Option.bind_eq_some_iff]

theorem passes_player (passes : Passes Anonymous s s') {player : Int64}
    (known : s'.player? h = some player) : s.player? h = some player := by
  obtain ⟨after, hafter, named⟩ := player?_eq_some.mp known
  rcases passes.sessions h after hafter with ⟨_, nobody, _⟩ | ⟨before, hb, follows⟩
  · cases nobody.symm.trans named
  · refine player?_eq_some.mpr ⟨before, hb, ?_⟩
    rcases follows with ⟨kept, _⟩ | ⟨clock, call, anonymous, rfl⟩
    · exact kept.symm.trans named
    · rcases before.perform_player clock call with kept | ⟨other, told, _⟩
      · exact kept.symm.trans named
      · exact absurd told (anonymous other)

theorem Received.player?_eq {found after : Session} {p : ClientPacket} {outcome : Outcome}
    {traffic news : List Occurrence} (received : Received g s h found p outcome after traffic news s')
    (hs : s.session? h = some found) (h' : Handle) : s'.player? h' = s.player? h' := by
  rw [State.player?, State.player?, received.session?_eq hs]
  by_cases hh : h = h'
  · subst h'
    rw [if_pos rfl, hs, received.client]
    rfl
  · rw [if_neg hh]

theorem move_player (registry : RegistryInvariant s) (move : Move g Anonymous s s') {player : Int64}
    (known : s'.player? h = some player) : s.player? h = some player ∨
      ∃ b k, s.Connected h b ∧ k ∈ s.pending.keys ∧ b.id = k.session := by
  rcases move_cases registry move with passes | ⟨h', found, b, p, hs, _, _, business, rfl⟩ | ⟨p, _, rfl⟩
  · exact Or.inl (passes_player passes known)
  · obtain ⟨outcome, after, traffic, news, received⟩ := receive_received g hs business
    rw [received.player?_eq hs] at known
    exact Or.inl known
  · rcases reply_passes Anonymous g s p with passes |
      ⟨h', session, calls, after, noted, queued, result, answered, replied⟩
    · exact Or.inl (passes_player passes known)
    · by_cases hh : h' = h
      · subst h'
        obtain ⟨b, connected, id⟩ := registry.find?_iff.mp answered.found
        exact Or.inr ⟨b, _, connected, answered.waiting, id⟩
      · -- The interceptor has hold of the session that waited and of no other.
        have seen := answered.session?_eq h
        rw [if_neg hh] at seen
        have same : (s.reply g p).2.player? h = s.player? h := by
          rw [replied, State.player?, State.player?, ← seen]
          rfl
        exact Or.inl (same ▸ known)

/-! ### Nobody known without a node -/

structure Housed (s : State) : Prop where
  registry : RegistryInvariant s
  waiters : WaitersBound s
  known : ∀ h player, s.player? h = some player → ∃ node, s.node? h = some node
  handled : ∀ h found p outcome, .handled h found p outcome ∈ s.history → found.player.isSome →
    found.node.isSome

theorem Housed.node_isSome (inv : Housed s) {session : Session} (hs : s.session? h = some session)
    (known : session.player.isSome) : session.node.isSome := by
  obtain ⟨player, named⟩ := Option.isSome_iff_exists.mp known
  obtain ⟨node, bound⟩ := inv.known h player (player?_eq_some.mpr ⟨session, hs, named⟩)
  obtain ⟨found, hfound, at_node⟩ := node?_eq_some.mp bound
  obtain rfl := Option.some.inj (hs.symm.trans hfound)
  exact Option.isSome_iff_exists.mpr ⟨node, at_node⟩

theorem initial_housed (resolver : Resolver) (clock : SessionClock) (network : Network) :
    Housed (State.initial resolver clock network) where
  registry := initial_registry resolver clock network
  waiters := by
    intro h b k _ waits
    cases waits
  known := by simp [State.initial, State.player?, State.session?]
  handled := by simp [State.initial]

theorem move_preserves_housed (s s' : State) (inv : Housed s) (move : Move g Anonymous s s') :
    Housed s' where
  registry := move_preserves_registry s s' inv.registry move
  waiters := move_preserves_waiters inv.registry inv.waiters move
  known := by
    intro h player known
    have housed : ∃ node, s.node? h = some node := by
      rcases move_player inv.registry move known with before | ⟨b, k, connected, waits, id⟩
      · exact inv.known h player before
      · exact inv.waiters h b k connected waits id
    obtain ⟨node, bound⟩ := housed
    exact ⟨node, move_node_kept inv.registry move bound⟩
  handled := by
    intro h found p outcome member known
    rcases move_receives inv.registry move with ⟨news, history, none⟩ |
      ⟨h', found', b, p', hs, _, _, business, rfl⟩
    · rw [history] at member
      rcases List.mem_append.mp member with new | before
      · exact absurd trivial (none _ new)
      · exact inv.handled h found p outcome before known
    · obtain ⟨result, after, traffic, news, received⟩ := receive_received g hs business
      rw [received.history, ← List.append_assoc] at member
      rcases List.mem_cons.mp member with same | later
      · cases same
        exact inv.node_isSome hs known
      · rcases List.mem_append.mp later with new | before
        · exact absurd trivial (received.handles_none _ new)
        · exact inv.handled h found p outcome before known

/-! ### Frames dropped for want of a node -/

theorem forwardTo_noNode_iff (g : Setup) (s : State) (address : Option String) (h : Handle)
    (p : ClientPacket) : (s.forwardTo g address h p).1 = .noNode ↔ address = none := by
  unfold State.forwardTo
  cases address with
  | none => simp
  | some address =>
    dsimp only
    rcases s.forward g address h p with ⟨_ | _, _⟩ <;> simp

theorem business_noNode_iff {session : Session} (hs : s.session? h = some session) {node : String}
    (bound : session.node = some node) (p : ClientPacket) :
    (s.business g h p).1 = .noNode ↔
      (session.acquire s.clock).1 = true ∧ s.resolver.address? node = none := by
  have charged : s.charge h = ((session.acquire s.clock).1,
      s.updateSession h fun _ => (session.acquire s.clock).2) := by
    simp only [State.charge, hs]
  unfold State.business
  rw [charged]
  cases (session.acquire s.clock).1 with
  | false => simp
  | true =>
    have kept : (s.updateSession h fun _ => (session.acquire s.clock).2).session? h =
        some (session.acquire s.clock).2 := by
      rw [State.session?_updateSession, if_pos rfl, hs, Option.map_some]
    have still : (session.acquire s.clock).2.node = some node := bound
    dsimp only
    rw [forwardTo_noNode_iff, kept]
    simp only [Option.bind_eq_bind, Option.bind_some, still, true_and]
    rfl

theorem receive_noNode_iff {found : Session} (hs : s.session? h = some found)
    (authenticated : found.isAuthenticated = true) {node : String} (bound : found.node = some node)
    {p : ClientPacket} (business : isReserved p.msgId = false) (other : p.msgId ≠ g.loginId) :
    (s.receive g h p).1 = .noNode ↔
      (found.acquire s.clock).1 = true ∧ s.resolver.address? node = none := by
  simp only [isReserved, Bool.or_eq_false_iff, beq_eq_false_iff_ne] at business
  have touched : (s.updateSession h (·.touch s.clock)).session? h = some (found.touch s.clock) := by
    rw [State.session?_updateSession, if_pos rfl, hs, Option.map_some]
  have routed : (s.receive g h p).1 = ((s.updateSession h (·.touch s.clock)).business g h p).1 := by
    simp only [State.receive, State.handle, hs, if_neg business.1, if_neg business.2, if_neg other,
      authenticated, Bool.not_true, Bool.false_eq_true, if_false]
  rw [routed]
  exact business_noNode_iff touched (g := g) bound p

/-- However a gateway got where it is, as long as only its interceptor tells players: every session that
waits for a reply has a node, and so has every session whose player is known, now and whenever a frame of
it was handled. So a business frame of an authenticated session has a node to go to. It is dropped for
want of one exactly when it is let in and no live instance and no configured node has that id. -/
theorem known_sessions_housed (g : Setup) (resolver : Resolver) (clock : SessionClock)
    (network : Network) {s : State}
    (path : Moves g Anonymous (State.initial resolver clock network) s) :
    (∀ k ∈ s.pending.keys, ∃ h session, s.find? k.session = some h ∧ s.session? h = some session ∧
      session.node.isSome) ∧
    (∀ h session, s.session? h = some session → session.player.isSome → session.node.isSome) ∧
    (∀ h found p outcome, .handled h found p outcome ∈ s.history → found.player.isSome →
      found.node.isSome) ∧
    ∀ h found p, s.session? h = some found → found.isAuthenticated = true →
      isReserved p.msgId = false → p.msgId ≠ g.loginId →
      ∃ node, found.node = some node ∧ ((s.receive g h p).1 = .noNode ↔
        (found.acquire s.clock).1 = true ∧ (∀ i ∈ s.resolver.live, i.id ≠ node) ∧
          ∀ entry ∈ s.resolver.nodes.entries, entry.1 ≠ node) := by
  have inv : Housed s := moves_invariant move_preserves_housed path (initial_housed resolver clock network)
  refine ⟨?waiting, fun h session => inv.node_isSome, inv.handled, ?dropped⟩
  case waiting =>
    intro k waits
    obtain ⟨h, b, connected, id⟩ := inv.registry.waiting k waits
    obtain ⟨node, bound⟩ := inv.waiters h b k connected waits id
    obtain ⟨session, hs, at_node⟩ := node?_eq_some.mp bound
    exact ⟨h, session, inv.registry.find?_iff.mpr ⟨b, connected, id⟩, hs,
      Option.isSome_iff_exists.mpr ⟨node, at_node⟩⟩
  case dropped =>
    intro h found p hs authenticated business other
    have known : found.player.isSome := by
      simp only [Session.isAuthenticated, Bool.and_eq_true] at authenticated
      exact authenticated.1
    obtain ⟨node, bound⟩ := Option.isSome_iff_exists.mp (inv.node_isSome hs known)
    refine ⟨node, bound, ?_⟩
    rw [receive_noNode_iff hs authenticated bound business other, Resolver.address?_eq_none_iff]

namespace Vacated

/-! A client logs in and is authenticated, and then its node is taken off the list. -/

def start : State := .initial Guarded.resolver ⟨0, 0⟩ (.steady fun _ => .accepting)

def events : List Event := Guarded.events ++ [.removeNode "a"]

end Vacated

theorem vacated_frame_dropped : let s := Vacated.start.run Guarded.setup Vacated.events
    Moves Guarded.setup Anonymous Vacated.start s ∧
    (∃ found, s.session? 0 = some found ∧ found.player = some 7 ∧ found.node = some "a") ∧
    (s.receive Guarded.setup 0 Guarded.business).1 = .noNode := by
  intro s
  have path : Moves Guarded.setup Anonymous Vacated.start s := by
    apply run_moves
    simp [Vacated.events, Guarded.events]
  have seen : (s.session? 0).map (fun found => (found.player, found.node, found.isAuthenticated,
      (found.acquire s.clock).1)) = some (some 7, some "a", true, true) := by decide +kernel
  obtain ⟨found, hs, facts⟩ := Option.map_eq_some_iff.mp seen
  simp only [Prod.mk.injEq] at facts
  obtain ⟨player, node, authenticated, admitted⟩ := facts
  obtain ⟨_, _, _, dropped⟩ := known_sessions_housed Guarded.setup _ _ _ path
  obtain ⟨node', bound, unplaced⟩ := dropped 0 found Guarded.business hs authenticated (by decide) (by decide)
  refine ⟨path, ⟨found, hs, player, node⟩, unplaced.mpr ⟨admitted, ?_, ?_⟩⟩
  · have none_live : s.resolver.live = [] := by decide +kernel
    simp [none_live]
  · have none_configured : s.resolver.nodes.entries = [] := by decide +kernel
    simp [none_configured]

end SessionGateway.Gateway
