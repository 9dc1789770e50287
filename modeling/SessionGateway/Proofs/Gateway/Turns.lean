import SessionGateway.Proofs.Gateway.Affinity
import SessionGateway.Proofs.Gateway.Outstanding
import Mathlib.Data.Int.CardIntervalMod

/-! Nodes by turns. One counter serves all sessions. It goes on when a session without a node logs in, and
whatever else happens to a gateway takes no turn, so the instances get the same share of sessions. -/
namespace SessionGateway.Gateway

open Wire Selection

variable {g : Setup} {asked : Handle → SessionCall → Prop} {s s' : State} {h : Handle}
  {kind : Candidates} {ids : List String}

/-- The sessions that logged in to a node, in the order in which they were bound. -/
def State.boundInOrder (g : Setup) (s : State) : List Handle :=
  ((bindings g s.history).map (·.session)).reverse

def State.sessionsAt (s : State) (node : String) : List Handle :=
  (List.range s.seats.length).filter fun h => s.node? h = some node

theorem KeepsNodes.order_eq (kept : KeepsNodes g s s') : s'.boundInOrder g = s.boundInOrder g := by
  rw [State.boundInOrder, kept.bindings_eq, State.boundInOrder]

theorem Binds.order_eq {found : Session} (binds : Binds g s h found s') :
    s'.boundInOrder g = s.boundInOrder g ++ [h] := by
  rw [State.boundInOrder, binds.bindings_eq, List.map_cons, List.reverse_cons, State.boundInOrder]

theorem mem_boundInOrder : h ∈ s.boundInOrder g ↔ ∃ b ∈ bindings g s.history, b.session = h := by
  simp [State.boundInOrder]

theorem boundInOrder_grows (inv : RegistryInvariant s) (events : List Event) :
    s.boundInOrder g <+: (s.run g events).boundInOrder g := by
  let I (s' : State) := RegistryInvariant s' ∧ s.boundInOrder g <+: s'.boundInOrder g
  suffices grown : I (s.run g events) from grown.2
  refine run_invariant_always ?_ ⟨inv, List.prefix_refl _⟩ events
  rintro before after ⟨registry, grown⟩ move
  refine ⟨move_preserves_registry before after registry move, ?_⟩
  rcases move_nodes registry move with kept | ⟨h, found, binds⟩
  · rw [kept.order_eq]
    exact grown
  · rw [binds.order_eq]
    exact grown.trans (List.prefix_append _ _)

/-! ### Taking turns -/

/-- Each session that was bound took the next turn. The counter is one word, and so is a turn. -/
structure InTurn (g : Setup) (ids : List String) (s : State) : Prop where
  registry : RegistryInvariant s
  counter : s.resolver.rotation.counter = .ofNat (s.boundInOrder g).length
  distinct : (s.boundInOrder g).Nodup
  nodes : ∀ j h, (s.boundInOrder g)[j]? = some h →
    s.node? h = ids[(UInt64.ofNat j).toNat % ids.length]?

theorem initial_in_turn (g : Setup) (ids : List String) {resolver : Resolver}
    (fresh : resolver.rotation.counter = 0) (clock : SessionClock) (network : Network) :
    InTurn g ids (State.initial resolver clock network) where
  registry := initial_registry resolver clock network
  counter := fresh
  distinct := List.nodup_nil
  nodes := by simp [State.boundInOrder, State.initial, bindings]

theorem InTurn.node_kept (several : 2 ≤ ids.length) (inv : InTurn g ids s)
    (kept : ∀ h node, s.node? h = some node → s'.node? h = some node) {j : Nat}
    (turn : (s.boundInOrder g)[j]? = some h) :
    s'.node? h = ids[(UInt64.ofNat j).toNat % ids.length]? := by
  have was := inv.nodes j h turn
  obtain ⟨node, found⟩ := chosen_exists several (UInt64.ofNat j).toNat
  rw [found] at was ⊢
  exact kept h node was

theorem InTurn.unbound (several : 2 ≤ ids.length) (inv : InTurn g ids s) (none : s.node? h = none) :
    h ∉ s.boundInOrder g := by
  intro member
  obtain ⟨j, turn⟩ := List.mem_iff_getElem?.mp member
  obtain ⟨node, found⟩ := chosen_exists several (UInt64.ofNat j).toNat
  cases none.symm.trans ((inv.nodes j h turn).trans found)

theorem in_turn_law (turns : g.strategy = .roundRobin) (several : 2 ≤ ids.length) :
    NodeLaw g (kind, ids) (InTurn g ids) where
  registry inv := inv.registry
  keeps := by
    intro s s' inv registry kept
    refine ⟨registry, ?_, ?_, ?_⟩
    · rw [kept.rotation, kept.order_eq]
      exact inv.counter
    · rw [kept.order_eq]
      exact inv.distinct
    · intro j h turn
      rw [kept.order_eq] at turn
      exact inv.node_kept several kept.nodes turn
  binds := by
    intro s s' h found candidates inv registry binds
    have unbound : s.node? h = none := by simp [State.node?, binds.unbound]
    obtain ⟨chosen, rotation⟩ := choose_picked g.draws candidates several g.strategy found.player
    rw [turns] at chosen rotation
    refine ⟨registry, ?_, ?_, ?_⟩
    · rw [binds.resolver, turns, rotation, binds.order_eq, List.length_append]
      simp [Rotation.pick, Rotation.turn, inv.counter]
    · rw [binds.order_eq, ← List.concat_eq_append]
      exact inv.distinct.concat (inv.unbound several unbound)
    · intro j h' turn
      rw [binds.order_eq] at turn
      rcases Nat.lt_or_ge j (s.boundInOrder g).length with earlier | last
      · rw [List.getElem?_append_left earlier] at turn
        exact inv.node_kept several binds.nodes turn
      · rw [List.getElem?_append_right last] at turn
        obtain ⟨bound, rfl⟩ := List.getElem?_eq_some_iff.mp turn
        have now : j = (s.boundInOrder g).length := by
          simp only [List.length_singleton] at bound
          omega
        have node := binds.chosen
        rw [turns, chosen] at node
        subst now
        simpa [Rotation.pick, Rotation.turn, inv.counter] using node

/-! ### Bound by a login only -/

/-- A request waits only after its frame was forwarded, and a frame is forwarded to the session's node. -/
theorem move_preserves_waiters (registry : RegistryInvariant s) (waiters : WaitersBound s)
    (move : Move g asked s s') : WaitersBound s' := by
  have change := move_registers registry move
  intro h b k connected waits id
  have old (waited : k ∈ s.pending.keys) : ∃ node, s'.node? h = some node := by
    have was := waiting_connected registry change waited connected id
    obtain ⟨node, bound⟩ := waiters h b k was waited id
    exact ⟨node, move_node_kept registry move bound⟩
  rcases move_cases registry move with passes | ⟨h', found, b', p, hs, client, own, business, rfl⟩ |
    ⟨p, _, rfl⟩
  · exact old (passes.waiting k waits)
  · obtain ⟨outcome, after, traffic, news, received⟩ := receive_received g hs business
    rcases received.traffic.waiting waits with waited | ⟨rfl, address, rfl⟩
    · exact old waited
    · -- No other connected session has this id.
      have was := (connected_of_roster (receive_roster (g := g) hs business)).mp connected
      obtain rfl := registry.distinct h h' b b' was client (id.trans own.symm)
      obtain ⟨node, bound⟩ := Option.isSome_iff_exists.mp (received.forwarded_node rfl)
      refine ⟨node, ?_⟩
      rw [received.node?_eq hs, if_pos rfl]
      exact bound
  · rw [reply_pending] at waits
    exact old ((Pending.mem_take _ _ _).mp waits).1

def Unbinding (_ : Handle) (call : SessionCall) : Prop := call.binds = false

/-- Every session that has a node has it from a login. -/
structure Lodged (g : Setup) (s : State) : Prop where
  registry : RegistryInvariant s
  waiters : WaitersBound s
  bound : ∀ h node, s.node? h = some node → ∃ b ∈ bindings g s.history, b.session = h

theorem initial_lodged (g : Setup) (resolver : Resolver) (clock : SessionClock)
    (network : Network) : Lodged g (State.initial resolver clock network) where
  registry := initial_registry resolver clock network
  waiters := by
    intro h b k _ waits
    cases waits
  bound := by simp [State.initial, State.node?, State.session?]

theorem move_preserves_lodged (s s' : State) (inv : Lodged g s) (move : Move g Unbinding s s') :
    Lodged g s' where
  registry := move_preserves_registry s s' inv.registry move
  waiters := move_preserves_waiters inv.registry inv.waiters move
  bound := by
    intro h node now
    rcases move_bound inv.registry inv.waiters (fun _ _ unbinding => unbinding) move now with
      ⟨old, bound⟩ | new
    · obtain ⟨b, member, same⟩ := inv.bound h old bound
      exact ⟨b, move_bindings inv.registry move member, same⟩
    · exact new

/-! ### Equal shares -/

theorem turns_shared (distinct : ids.Nodup) {node node' : String} (listed : node ∈ ids)
    (listed' : node' ∈ ids) (n : Nat) :
    (List.range n).countP (fun j => ids[j % ids.length]? = some node) ≤
      (List.range n).countP (fun j => ids[j % ids.length]? = some node') + 1 := by
  have pos : 0 < ids.length := List.length_pos_of_mem listed
  have share {node : String} (listed : node ∈ ids) : ∃ extra ≤ 1,
      (List.range n).countP (fun j => ids[j % ids.length]? = some node) = n / ids.length + extra := by
    obtain ⟨i, at_i⟩ := List.mem_iff_getElem?.mp listed
    obtain ⟨within, _⟩ := List.getElem?_eq_some_iff.mp at_i
    have turns (j : Nat) : ids[j % ids.length]? = some node ↔ j ≡ i [MOD ids.length] := by
      rw [Nat.ModEq, Nat.mod_eq_of_lt within, ← at_i]
      exact List.getElem?_inj (Nat.mod_lt j pos) distinct
    refine ⟨if i % ids.length < n % ids.length then 1 else 0, by split <;> decide, ?_⟩
    rw [← Nat.count_modEq_card n pos i, Nat.count]
    simp only [turns]
  obtain ⟨extra, small, count⟩ := share listed
  obtain ⟨extra', _, count'⟩ := share listed'
  omega

/-- The turns of the bound sessions are the first ones, one after the other. -/
theorem nodes_of_turns (nodes : ∀ j h, (s.boundInOrder g)[j]? = some h →
      s.node? h = ids[j % ids.length]?) :
    (s.boundInOrder g).map s.node? =
      (List.range (s.boundInOrder g).length).map fun j => ids[j % ids.length]? := by
  apply List.ext_getElem (by simp)
  intro j within _
  rw [List.length_map] at within
  simp only [List.getElem_map, List.getElem_range]
  exact nodes j _ (List.getElem?_eq_getElem within)

/-- If a session has a node only by a turn, the sessions at a node are those whose turn it was. -/
theorem length_sessionsAt (distinct : (s.boundInOrder g).Nodup)
    (bound : ∀ h node, s.node? h = some node → h ∈ s.boundInOrder g)
    (node : String) :
    (s.sessionsAt node).length = ((s.boundInOrder g).map s.node?).countP (· = some node) := by
  have same : (s.sessionsAt node).Perm ((s.boundInOrder g).filter fun h => s.node? h = some node) := by
    refine (List.perm_ext_iff_of_nodup (List.nodup_range.filter _) (distinct.filter _)).mpr ?_
    intro h
    simp only [List.mem_filter, List.mem_range, decide_eq_true_eq, and_congr_left_iff]
    intro at_node
    obtain ⟨session, hs, _⟩ := node?_eq_some.mp at_node
    obtain ⟨seat, at_h, _⟩ := State.session?_eq_some.mp hs
    obtain ⟨within, _⟩ := List.getElem?_eq_some_iff.mp at_h
    exact ⟨fun _ => bound h node at_node, fun _ => within⟩
  rw [same.length_eq, ← List.countP_eq_length_filter, List.countP_map]
  rfl

/-- While the same candidates are listed, a gateway that takes turns binds the first session to the first of
them, the next session to the next, and so on round the list. The counter tells how many sessions were bound,
so nothing else took a turn. A session that someone binds from outside takes none and is not counted; where no
one does, the sessions in this order are all that have a node, and no candidate has two more than another. -/
theorem sessions_bound_in_turn (g : Setup) (turns : g.strategy = .roundRobin) (resolver : Resolver)
    (fresh : resolver.rotation.counter = 0) (clock : SessionClock) (network : Network)
    (events : List Event) (kind : Candidates) (ids : List String) (several : 2 ≤ ids.length)
    (listed : ∀ before, before <+: events →
      ((State.initial resolver clock network).run g before).resolver.candidates = (kind, ids))
    (few : (((State.initial resolver clock network).run g events).boundInOrder g).length ≤ 2 ^ 64) :
    let s := (State.initial resolver clock network).run g events
    let order := s.boundInOrder g
    order.Nodup ∧
    (∀ before, before <+: events →
      ((State.initial resolver clock network).run g before).boundInOrder g <+: order) ∧
    (∀ j h, order[j]? = some h → s.node? h = ids[j % ids.length]?) ∧
    s.resolver.rotation.counter = .ofNat order.length ∧
    ((∀ h call, .ask h call ∈ events → call.binds = false) →
      (∀ h, (∃ node, s.node? h = some node) ↔ h ∈ order) ∧
      (ids.Nodup → ∀ node ∈ ids, ∀ node' ∈ ids,
        (s.sessionsAt node).length ≤ (s.sessionsAt node').length + 1)) := by
  intro s order
  have inv : InTurn g ids s :=
    (in_turn_law turns several).run listed (initial_in_turn g ids fresh clock network)
  have nodes : ∀ j h, order[j]? = some h → s.node? h = ids[j % ids.length]? := by
    intro j h turn
    obtain ⟨within, _⟩ := List.getElem?_eq_some_iff.mp turn
    have word : (UInt64.ofNat j).toNat = j := UInt64.toNat_ofNat_of_lt (Nat.lt_of_lt_of_le within few)
    have node := inv.nodes j h turn
    rw [word] at node
    exact node
  refine ⟨inv.distinct, ?_, nodes, inv.counter, ?_⟩
  · rintro before ⟨after, rfl⟩
    have registry := run_registry (g := g) (initial_registry resolver clock network) before
    have grown := boundInOrder_grows (g := g) registry after
    rw [← State.run_append] at grown
    exact grown
  intro unbinding
  have lodged : Lodged g s :=
    run_invariant move_preserves_lodged (initial_lodged g resolver clock network) unbinding
  have bound (h : Handle) (node : String) (at_node : s.node? h = some node) : h ∈ order :=
    mem_boundInOrder.mpr (lodged.bound h node at_node)
  refine ⟨?_, ?_⟩
  · intro h
    refine ⟨fun ⟨node, at_node⟩ => bound h node at_node, ?_⟩
    intro member
    obtain ⟨j, turn⟩ := List.mem_iff_getElem?.mp member
    obtain ⟨node, found⟩ := chosen_exists several j
    exact ⟨node, (nodes j h turn).trans found⟩
  · intro distinct node at_node node' at_node'
    rw [length_sessionsAt inv.distinct bound, length_sessionsAt inv.distinct bound, nodes_of_turns nodes,
      List.countP_map, List.countP_map]
    exact turns_shared distinct at_node at_node' _

namespace Lobby

/-! Three clients at a gateway with two live instances. One logs in twice and goes, another sends a frame
too early and is the last to log in. -/

def login : Octets := Guarded.octets Guarded.setup.clientCodec (.client Guarded.login)

def early : Octets := Guarded.octets Guarded.setup.clientCodec (.client Guarded.business)

def events : List Event :=
  [.clientConnects none, .clientConnects none, .clientConnects none, .clientSends 0 login,
    .clientSends 0 login, .clientSends 1 early, .clientSends 2 login, .clientCloses 0, .clientSends 1 login]

end Lobby

theorem lobby_served_in_turn : let s := Twins.start.run Guarded.setup Lobby.events
    Guarded.setup.strategy = .roundRobin ∧ Twins.start.resolver.rotation.counter = 0 ∧
    2 ≤ Twins.ids.length ∧
    (∀ before, before <+: Lobby.events →
      (Twins.start.run Guarded.setup before).resolver.candidates = (.live, Twins.ids)) ∧
    (s.boundInOrder Guarded.setup).length ≤ 2 ^ 64 ∧
    s.boundInOrder Guarded.setup = [0, 2, 1] ∧
    s.node? 0 = some "a" ∧ s.node? 2 = some "b" ∧ s.node? 1 = some "a" ∧
    (∀ h call, .ask h call ∈ Lobby.events → call.binds = false) ∧
    (s.sessionsAt "a").length ≤ (s.sessionsAt "b").length + 1 := by
  intro s
  have listed : ∀ before, before <+: Lobby.events →
      (Twins.start.run Guarded.setup before).resolver.candidates = (.live, Twins.ids) := by
    intro before within
    exact run_candidates Twins.start fun e member =>
      (show ∀ e ∈ Lobby.events, e.relists = false by decide) e (within.subset member)
  have order : s.boundInOrder Guarded.setup = [0, 2, 1] := by decide +kernel
  have few : (s.boundInOrder Guarded.setup).length ≤ 2 ^ 64 := by
    rw [order]
    decide
  have unbinding : ∀ h call, .ask h call ∈ Lobby.events → call.binds = false := by
    simp [Lobby.events]
  obtain ⟨_, _, nodes, _, shares⟩ := sessions_bound_in_turn Guarded.setup rfl Twins.start.resolver rfl
    ⟨0, 0⟩ (.steady fun _ => .accepting) Lobby.events .live Twins.ids (by decide) listed few
  obtain ⟨_, shared⟩ := shares unbinding
  refine ⟨rfl, rfl, by decide, listed, few, order, ?_, ?_, ?_, unbinding, ?_⟩
  · exact nodes 0 0 (congrArg (·[0]?) order)
  · exact nodes 1 2 (congrArg (·[1]?) order)
  · exact nodes 2 1 (congrArg (·[2]?) order)
  · exact shared (by decide) "a" (by decide) "b" (by decide)

end SessionGateway.Gateway
