import SessionGateway.Proofs.Gateway.Affinity
import SessionGateway.Proofs.Selection.Resolution

/-! Which node a session goes to. The node is chosen when it is first asked for, from whatever is listed
then, and the session keeps its id. From then on only the address is looked up, in the tables as they are,
and no strategy has a say. -/
namespace SessionGateway.Gateway

open Wire Selection

variable {g : Setup} {s s' : State} {h : Handle}

/-- Whatever may happen to a gateway, and someone inside who asks for a session's node. -/
inductive RoutingStep where
  | event (e : Event)
  | select (session : Handle) (strategy : Strategy)

def State.route (g : Setup) (s : State) : RoutingStep → State
  | .event e => s.step g e
  | .select h strategy => (s.selectNode g h strategy).2

def State.routed (g : Setup) (s : State) (steps : List RoutingStep) : State := steps.foldl (route g) s

/-! ### Asking for a node -/

theorem selectNode_unknown (unknown : s.session? h = none) (strategy : Strategy) :
    s.selectNode g h strategy = (none, s) := by
  simp [State.selectNode, unknown]

theorem selectNode_bound {node : String} (bound : s.node? h = some node) (strategy : Strategy) :
    s.selectNode g h strategy = (s.resolver.address? node, s) := by
  obtain ⟨session, hs, hnode⟩ := node?_eq_some.mp bound
  simp [State.selectNode, hs, hnode]

section Unbound

variable {session : Session} (hs : s.session? h = some session) (unbound : session.node = none)
  (strategy : Strategy)

include hs unbound

theorem selectNode_answer : (s.selectNode g h strategy).1 =
    (s.resolver.choose g.draws strategy session.player).1.map (·.2) := by
  unfold State.selectNode
  rw [hs]
  dsimp only
  rw [unbound]
  rcases s.resolver.choose g.draws strategy session.player with ⟨_ | ⟨node, address⟩, resolver⟩ <;> rfl

theorem selectNode_node : (s.selectNode g h strategy).2.node? h =
    (s.resolver.choose g.draws strategy session.player).1.map (·.1) := by
  obtain ⟨news, ready, _⟩ := selectNode_ready g hs strategy
  rw [State.node?, ready.session?_eq hs]
  simp [State.placement, unbound]

theorem selectNode_none_iff : (s.selectNode g h strategy).1 = none ↔
    s.resolver.live = [] ∧ s.resolver.nodes.entries = [] := by
  rw [selectNode_answer hs unbound, Option.map_eq_none_iff, Resolver.choose_eq_none_iff]

theorem selectNode_unlisted (none_live : s.resolver.live = [])
    (none_configured : s.resolver.nodes.entries = []) :
    s.selectNode g h strategy = (none, s) := by
  have unchosen := s.resolver.choose_of_unlisted g.draws strategy session.player none_live none_configured
  simp [State.selectNode, hs, unbound, unchosen]

end Unbound

theorem selectNode_steady (strategy : Strategy) : Steady s (s.selectNode g h strategy).2 := by
  cases hs : s.session? h with
  | none =>
    rw [selectNode_unknown hs]
    exact ⟨rfl, rfl⟩
  | some session =>
    obtain ⟨_, ready, _⟩ := selectNode_ready g hs strategy
    exact ⟨congrArg State.resolver ready.state, by rw [ready.state]⟩

theorem selectNode_address? (strategy : Strategy) (node : String) :
    (s.selectNode g h strategy).2.resolver.address? node = s.resolver.address? node := by
  have steady : Steady s (s.selectNode g h strategy).2 := selectNode_steady strategy
  rw [steady.resolver]
  rfl

/-! ### What holds between steps -/

theorem Ready.registers {session after : Session} {news : List Occurrence}
    (hs : s.session? h = some session) (ready : Ready s h session after news s') : Registers s s' := by
  have roster : (s.updateSession h fun _ => after).roster = s.roster := by
    apply roster_updateSession
    intro found hfound
    obtain rfl := Option.some.inj (hs.symm.trans hfound)
    rw [ready.client]
  rw [ready.state]
  exact .keeps roster rfl fun k hk => Or.inl hk

theorem Ready.others {session after : Session} {news : List Occurrence}
    (ready : Ready s h session after news s') {h' : Handle} (other : h ≠ h') :
    s'.session? h' = s.session? h' := by
  have seen : s'.session? h' = (s.updateSession h fun _ => after).session? h' := by
    rw [ready.state]
    rfl
  rw [seen, State.session?_updateSession, if_neg other]

/-- Sessions are told apart by their ids, and so are the live instances of a service. -/
structure RoutingInvariant (s : State) : Prop where
  registry : RegistryInvariant s
  directory : ∀ d, s.resolver.directory = some d → d.Distinct

theorem RoutingInvariant.live_distinct (inv : RoutingInvariant s) :
    (s.resolver.live.map (·.id)).Nodup := by
  unfold Resolver.live
  split
  · rename_i d listed
    exact inv.directory d listed _
  · exact List.nodup_nil

theorem SteadyMoves.directory_eq {asked : Handle → SessionCall → Prop} (path : SteadyMoves g asked s s') :
    s'.resolver.directory = s.resolver.directory := by
  rw [path.steady.resolver]

theorem mapDirectory_preserves {P : Directory → Prop} {f : Directory → Directory}
    (keeps : ∀ d, P d → P (f d)) (holds : ∀ d, s.resolver.directory = some d → P d) :
    ∀ d, (s.mapDirectory f).resolver.directory = some d → P d := by
  intro d listed
  obtain ⟨before, was, rfl⟩ := Option.map_eq_some_iff.mp listed
  exact keeps before (holds before was)

theorem react_distinct (g : Setup) (distinct : ∀ d, s.resolver.directory = some d → d.Distinct)
    (e : Event) : ∀ d, (s.react g e).resolver.directory = some d → d.Distinct := by
  rcases @react_cases g (fun _ _ => True) s e fun _ _ _ => trivial with steady | ⟨_, rfl⟩ | ⟨relists, _⟩
  · rw [steady.directory_eq]
    exact distinct
  · exact distinct
  · cases e with
    | register service i => exact mapDirectory_preserves (fun _ kept => kept.register service i) distinct
    | deregister service id =>
      exact mapDirectory_preserves (fun _ kept => kept.deregister service id) distinct
    | addNode => exact distinct
    | removeNode => exact distinct
    | _ => cases relists

theorem selectNode_preserves_routing (inv : RoutingInvariant s) (h : Handle) (strategy : Strategy) :
    RoutingInvariant (s.selectNode g h strategy).2 := by
  cases hs : s.session? h with
  | none =>
    rw [selectNode_unknown hs]
    exact inv
  | some session =>
    obtain ⟨_, ready, _⟩ := selectNode_ready g hs strategy
    refine ⟨registers_preserves_invariant inv.registry (ready.registers hs), ?_⟩
    rw [ready.state]
    exact inv.directory

theorem route_preserves_routing (inv : RoutingInvariant s) (step : RoutingStep) :
    RoutingInvariant (s.route g step) := by
  cases step with
  | event e =>
    have registry : RegistryInvariant (s.step g e) := run_registry inv.registry [e]
    have flushed : SteadyMoves g (fun _ _ => True) (s.react g e) (s.step g e) := step_flushed s e
    refine ⟨registry, ?_⟩
    change ∀ d, (s.step g e).resolver.directory = some d → d.Distinct
    rw [flushed.directory_eq]
    exact react_distinct g inv.directory e
  | select h strategy => exact selectNode_preserves_routing inv h strategy

theorem routed_preserves_routing (inv : RoutingInvariant s) (steps : List RoutingStep) :
    RoutingInvariant (s.routed g steps) := by
  induction steps generalizing s with
  | nil => exact inv
  | cons step steps ih => exact ih (route_preserves_routing inv step)

/-! ### Nodes are kept -/

theorem moves_node_kept {asked : Handle → SessionCall → Prop} (inv : RegistryInvariant s)
    (path : Moves g asked s s') {node : String} (bound : s.node? h = some node) :
    s'.node? h = some node := by
  have kept : RegistryInvariant s' ∧ s'.node? h = some node :=
    moves_invariant (I := fun s => RegistryInvariant s ∧ s.node? h = some node)
      (fun s s' was move =>
        ⟨move_preserves_registry s s' was.1 move, move_node_kept was.1 move was.2⟩) path ⟨inv, bound⟩
  exact kept.2

theorem selectNode_node_kept {node : String} (bound : s.node? h = some node) (h' : Handle)
    (strategy : Strategy) : (s.selectNode g h' strategy).2.node? h = some node := by
  by_cases same : h' = h
  · subst h'
    rw [selectNode_bound bound]
    exact bound
  · cases hs : s.session? h' with
    | none =>
      rw [selectNode_unknown hs]
      exact bound
    | some session =>
      obtain ⟨_, ready, _⟩ := selectNode_ready g hs strategy
      rw [State.node?, ready.others same]
      exact bound

theorem routed_node_kept (inv : RoutingInvariant s) {node : String} (bound : s.node? h = some node)
    (steps : List RoutingStep) : (s.routed g steps).node? h = some node := by
  induction steps generalizing s with
  | nil => exact bound
  | cons step steps ih =>
    apply ih (route_preserves_routing inv step)
    cases step with
    | event e =>
      have path : Moves g (fun _ _ => True) s (s.step g e) := step_moves s e fun _ _ _ => trivial
      exact moves_node_kept inv.registry path bound
    | select h' strategy => exact selectNode_node_kept bound h' strategy

/-- Where a session is sent and where it is looked for is the same. As long as it has no node, asking for
one binds it to whoever is found at the address that is told, at that moment and under its id, or binds it
to nobody, which is so only if nobody is listed. Once it has a node it keeps it, and whoever asks is told
the present address of that node, if it has one. Nothing else happens then: no turn is taken. -/
theorem selection_resolves (g : Setup) (resolver : Resolver) (clock : SessionClock)
    (network : Network)
    (fresh : resolver.directory = none ∨ resolver.directory = some .empty)
    (before : List RoutingStep) (h : Handle) :
    let s := (State.initial resolver clock network).routed g before
    (∀ session, s.session? h = some session → session.node = none → ∀ strategy,
      (∀ address after, s.selectNode g h strategy = (some address, after) →
        ∃ node, after.node? h = some node ∧ s.resolver.address? node = some address ∧
          after.resolver.address? node = some address) ∧
      (∀ after, s.selectNode g h strategy = (none, after) →
        after = s ∧ s.resolver.live = [] ∧ s.resolver.nodes.entries = [])) ∧
    (∀ node, s.node? h = some node → ∀ later : List RoutingStep,
      let t := s.routed g later
      t.node? h = some node ∧
        ∀ strategy, t.selectNode g h strategy = (t.resolver.address? node, t)) := by
  intro s
  have start : RoutingInvariant (State.initial resolver clock network) := by
    refine ⟨initial_registry resolver clock network, ?_⟩
    rintro d (listed : resolver.directory = some d)
    rcases fresh with absent | empty
    · cases absent.symm.trans listed
    · obtain rfl := Option.some.inj (empty.symm.trans listed)
      exact Directory.empty_distinct
  have inv : RoutingInvariant s := routed_preserves_routing start before
  refine ⟨?_, ?_⟩
  · intro session hs unbound strategy
    have answer := selectNode_answer (g := g) hs unbound strategy
    have chosen := selectNode_node (g := g) hs unbound strategy
    refine ⟨?_, ?_⟩
    · intro address after selected
      rw [selected] at answer chosen
      obtain ⟨⟨node, _⟩, choice, rfl⟩ := Option.map_eq_some_iff.mp answer.symm
      rw [choice] at chosen
      have resolved := s.resolver.address?_of_choose g.draws strategy session.player inv.live_distinct choice
      have kept := selectNode_address? (g := g) (s := s) (h := h) strategy node
      rw [selected] at kept
      exact ⟨node, chosen, resolved, kept.trans resolved⟩
    · intro after selected
      obtain ⟨none_live, none_configured⟩ :=
        (selectNode_none_iff (g := g) hs unbound strategy).mp (congrArg Prod.fst selected)
      have same := selectNode_unlisted (g := g) hs unbound strategy none_live none_configured
      exact ⟨congrArg Prod.snd (selected.symm.trans same), none_live, none_configured⟩
  · intro node bound later t
    have kept : t.node? h = some node := routed_node_kept inv bound later
    exact ⟨kept, selectNode_bound kept⟩

namespace Roaming

/-! An instance that moves after a session was bound to it. -/

def setup : Setup := Guarded.setup

def resolver : Resolver := ⟨"game-node", some .empty, .empty, .initial⟩

def start : State := .initial resolver ⟨0, 0⟩ (.steady fun _ => .accepting)

def listed : List RoutingStep :=
  [.event (.clientConnects none), .event (.register "game-node" ⟨"a", "n", 1⟩),
    .event (.register "game-node" ⟨"b", "n", 2⟩)]

def moved : List RoutingStep :=
  [.event (.register "game-node" ⟨"a", "m", 9⟩), .event (.addNode "a" "elsewhere:1")]

def sent : Option String × State := (start.routed setup listed).selectNode setup 0 .roundRobin

end Roaming

theorem moved_instance_followed : Roaming.sent.1 = some "n:1" ∧
    (∃ node, Roaming.sent.2.node? 0 = some node ∧
      (Roaming.start.routed Roaming.setup Roaming.listed).resolver.address? node = some "n:1" ∧
      Roaming.sent.2.resolver.address? node = some "n:1") ∧
    (∀ strategy, ((Roaming.sent.2.routed Roaming.setup Roaming.moved).selectNode Roaming.setup 0
      strategy).1 = some "m:9") := by
  have answer : Roaming.sent.1 = some "n:1" := by decide +kernel
  have unbound : ((Roaming.start.routed Roaming.setup Roaming.listed).session? 0).map (·.node) =
      some none := by decide +kernel
  obtain ⟨session, hs, hnode⟩ := Option.map_eq_some_iff.mp unbound
  have first := selection_resolves Roaming.setup Roaming.resolver ⟨0, 0⟩ (.steady fun _ => .accepting)
    (Or.inr rfl) Roaming.listed 0
  have later := selection_resolves Roaming.setup Roaming.resolver ⟨0, 0⟩ (.steady fun _ => .accepting)
    (Or.inr rfl) (Roaming.listed ++ [.select 0 .roundRobin]) 0
  refine ⟨answer, ?_, ?_⟩
  · exact (first.1 session hs hnode .roundRobin).1 "n:1" Roaming.sent.2 (Prod.ext answer rfl)
  · intro strategy
    have bound : Roaming.sent.2.node? 0 = some "a" := by decide +kernel
    obtain ⟨_, told⟩ := later.2 "a" bound Roaming.moved
    have present : (Roaming.sent.2.routed Roaming.setup Roaming.moved).resolver.address? "a" =
        some "m:9" := by decide +kernel
    exact (congrArg Prod.fst (told strategy)).trans present

end SessionGateway.Gateway
