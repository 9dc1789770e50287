import SessionGateway.Proofs.Configuration.Conversion
import SessionGateway.Proofs.Gateway.StickyRouting
import SessionGateway.Proofs.Selection.Addresses

/-! Addresses that a gateway goes to. Those of configured nodes are looked at before it starts, those of
instances are made up from a host and a port, and all of them are looked at again before a link is opened.
Whoever is listed with an address of the right form is never refused for it. -/
namespace SessionGateway.Gateway

open Selection

variable {g : Setup} {s s' : State} {h : Handle} {address : String}

/-! ### Asking for an address -/

theorem selectNode_isAddress (well : s.resolver.WellAddressed) {strategy : Strategy}
    (selected : (s.selectNode g h strategy).1 = some address) : Text.IsAddress address := by
  cases hs : s.session? h with
  | none =>
    rw [selectNode_unknown hs] at selected
    cases selected
  | some session =>
    cases placed : session.node with
    | some node =>
      rw [selectNode_bound (node?_eq_some.mpr ⟨session, hs, placed⟩)] at selected
      exact well.of_address? selected
    | none =>
      rw [selectNode_answer hs placed] at selected
      obtain ⟨_, chosen, rfl⟩ := Option.map_eq_some_iff.mp selected
      exact well.of_choose chosen

/-! ### Going there -/

theorem obstacle_refused_iff {reach : Reach} {refused : String} :
    State.obstacle? g address reach = some (.invalidAddress refused) ↔
      refused = address ∧ ¬Text.IsAddress address := by
  rw [← Text.isHostPort_iff]
  unfold State.obstacle?
  cases passes : Text.isHostPort address with
  | false => simp [eq_comm]
  | true => cases reach <;> by_cases instant : g.connectTimeout = 0 <;> simp [instant]

theorem openLink_refused_iff {refused : String} :
    (s.openLink g address).1 = .error (.invalidAddress refused) ↔
      refused = address ∧ ¬Text.IsAddress address := by
  rw [← @obstacle_refused_iff g address (s.network.reach s.nextLink address)]
  unfold State.openLink
  dsimp only
  cases State.obstacle? g address (s.network.reach s.nextLink address) <;> simp

theorem seek_refused {refused : String}
    (failed : (s.seek g address).1 = .error (.invalidAddress refused)) : ¬Text.IsAddress address := by
  unfold State.seek State.check at failed
  dsimp only at failed
  split at failed
  · split at failed <;> cases failed
  · split at failed
    · rename_i e _ opening
      have refused : (State.openLink g { s with pool := (s.pool.enter address).2 } address).1 =
          .error (.invalidAddress refused) := by rw [opening, Except.error.inj failed]
      exact (openLink_refused_iff.mp refused).2
    · split at failed <;> cases failed

theorem linkFor_refused {refused : String} {looks : Nat}
    (failed : (s.linkFor g address looks).1 = .error (.invalidAddress refused)) : ¬Text.IsAddress address := by
  induction looks generalizing s with
  | zero => cases failed
  | succ looks ih =>
    unfold State.linkFor at failed
    split at failed
    · cases failed
    · split at failed
      · rename_i e s' sought
        have refused : (s.seek g address).1 = .error (.invalidAddress refused) := by
          rw [sought, Except.error.inj failed]
        exact seek_refused refused
      · cases failed
      · exact ih failed

theorem forward_refused {p : Wire.ClientPacket} {refused : String}
    (failed : (s.forward g address h p).1 = .error (.invalidAddress refused)) :
    ¬Text.IsAddress address := by
  cases hs : s.session? h with
  | none =>
    simp only [State.forward, hs] at failed
    cases failed
  | some session =>
    rcases forward_cases g hs address p with ⟨e, _, _, _, _, result, reached, _⟩ |
      ⟨e, _, _, _, _, _, result, ⟨_, unwritten⟩, _⟩ | ⟨_, _, _, _, _, _, result, _⟩ <;>
      rw [result] at failed
    · obtain rfl := Except.error.inj failed
      exact linkFor_refused reached
    · obtain rfl := Except.error.inj failed
      exact unwritten.elim
    · cases failed

/-! ### What holds between steps -/

/-- Whoever an event lists has an address of the right form. -/
def Event.WellAddressed : Event → Prop
  | .register _ i => i.host ≠ ""
  | .addNode _ address => Text.IsAddress address
  | _ => True

theorem Event.wellAddressed_of_still {e : Event} (still : e.relists = false) : e.WellAddressed := by
  cases e with
  | register => cases still
  | addNode => cases still
  | _ => trivial

theorem Steady.wellAddressed (steady : Steady s s') (well : s.resolver.WellAddressed) :
    s'.resolver.WellAddressed := by
  rw [steady.resolver]
  exact ⟨well.directory, well.nodes⟩

theorem react_wellAddressed (well : s.resolver.WellAddressed) {e : Event} (edit : e.WellAddressed) :
    (s.react g e).resolver.WellAddressed := by
  rcases @react_cases g (fun _ _ => True) s e fun _ _ _ => trivial with path | ⟨_, rfl⟩ | ⟨relists, _⟩
  · exact path.steady.wellAddressed well
  · exact ⟨well.directory, well.nodes⟩
  · cases e with
    | register service i =>
      exact ⟨mapDirectory_preserves (fun _ hosted => hosted.register service edit) well.directory, well.nodes⟩
    | deregister service id =>
      exact ⟨mapDirectory_preserves (fun _ hosted => hosted.deregister service id) well.directory, well.nodes⟩
    | addNode id address =>
      refine ⟨well.directory, ?_⟩
      intro node listed
      rcases Text.ByName.mem_place listed with rfl | listed
      · exact edit
      · exact well.nodes node listed
    | removeNode id =>
      refine ⟨well.directory, ?_⟩
      intro node listed
      exact well.nodes node (List.mem_of_mem_filter listed)
    | _ => cases relists

theorem route_wellAddressed (well : s.resolver.WellAddressed) {step : RoutingStep}
    (edit : ∀ e, step = .event e → e.WellAddressed) : (s.route g step).resolver.WellAddressed := by
  cases step with
  | event e =>
    have flushed : SteadyMoves g (fun _ _ => True) (s.react g e) (s.step g e) := step_flushed s e
    exact flushed.steady.wellAddressed (react_wellAddressed well (edit e rfl))
  | select h strategy => exact (selectNode_steady strategy).wellAddressed well

theorem routed_wellAddressed (well : s.resolver.WellAddressed) {steps : List RoutingStep}
    (edits : ∀ e, .event e ∈ steps → e.WellAddressed) : (s.routed g steps).resolver.WellAddressed := by
  induction steps generalizing s with
  | nil => exact well
  | cons step steps ih =>
    have now : (s.route g step).resolver.WellAddressed := by
      apply route_wellAddressed well
      rintro e rfl
      exact edits e List.mem_cons_self
    exact ih now fun e member => edits e (List.mem_cons_of_mem _ member)

end SessionGateway.Gateway

/-! ### From settings -/

namespace SessionGateway.Configuration

open Selection Gateway

variable {s : Settings} {p : Plan}

def Settings.resolver (s : Settings) : Resolver where
  service := s.routing.service
  directory := s.directory
  nodes := s.routing.nodes
  rotation := .initial

theorem Settings.plan_resolver (planned : s.plan = .ok p) : p.resolver s.directory = s.resolver := by
  obtain ⟨_, _, _, rfl⟩ := Settings.plan_eq_ok_iff.mp planned
  rfl

theorem Settings.Sound.resolver_wellAddressed (sound : s.Sound) : s.resolver.WellAddressed where
  directory d seeded := by
    have seeded : s.directory = some d := seeded
    unfold Settings.directory at seeded
    split at seeded
    · cases seeded
    · obtain rfl := Option.some.inj seeded
      exact Directory.empty_hosted.registerAll s.routing.service fun i listed => (sound.instances i listed).2
  nodes node listed := Text.isHostPort_iff.mp (sound.nodes node listed)

theorem Routing.nodeAddress_mem_problems_iff {r : Routing} {node address : String}
    (listed : (node, address) ∈ r.nodes.entries) :
    Problem.nodeAddress node address ∈ r.problems ↔ ¬Text.IsAddress address := by
  rw [← Text.isHostPort_iff]
  simp only [Routing.problems, needs, List.mem_append, List.mem_flatMap]
  constructor
  · rintro (⟨⟨node', address'⟩, _, told⟩ | ⟨i, _, told⟩)
    · split at told
      · cases told
      · next malformed =>
        obtain ⟨rfl, rfl⟩ := Problem.nodeAddress.inj (List.mem_singleton.mp told)
        exact malformed
    · split at told <;> simp at told
  · intro malformed
    exact Or.inl ⟨(node, address), listed, by simp [malformed]⟩

/-- Under valid settings, and as long as nobody is listed later with an address of another form, whatever
address is found for a node or a session, a frame that is to go there is not refused for it. What is a
problem in settings and what is refused on the way to a node is the same: an address that is not a host, a
colon and a port. -/
theorem listed_addresses_accepted (accepted : s.Valid) (g : Setup) (clock : SessionClock)
    (network : Network) (steps : List RoutingStep)
    (edits : ∀ e, .event e ∈ steps → e.WellAddressed) :
    let r := ((State.initial s.resolver clock network).routed g steps).resolver
    (∀ t : State, t.resolver = r → ∀ address,
      (∃ node, t.resolver.address? node = some address) ∨
        (∃ h strategy, (t.selectNode g h strategy).1 = some address) →
      Text.isHostPort address ∧
      ∀ (t' : State) h p refused, (t'.forward g address h p).1 ≠ .error (.invalidAddress refused)) ∧
    ∀ address,
      (∀ (routing : Routing) node, (node, address) ∈ routing.nodes.entries →
        (Problem.nodeAddress node address ∈ routing.problems ↔ ¬Text.IsAddress address)) ∧
      ∀ t : State, (t.openLink g address).1 = .error (.invalidAddress address) ↔
        ¬Text.IsAddress address := by
  intro r
  have start := (Settings.valid_iff_sound.mp accepted).resolver_wellAddressed
  have well : r.WellAddressed := routed_wellAddressed (s := .initial s.resolver clock network) start edits
  refine ⟨?_, ?_⟩
  · intro t same address found
    have right : Text.IsAddress address := by
      rcases found with ⟨node, found⟩ | ⟨h, strategy, selected⟩
      · exact (same ▸ well).of_address? found
      · exact selectNode_isAddress (same ▸ well) selected
    refine ⟨Text.isHostPort_iff.mpr right, ?_⟩
    intro t' h p refused failed
    exact forward_refused failed right
  · intro address
    refine ⟨fun routing node listed => Routing.nodeAddress_mem_problems_iff listed, ?_⟩
    intro t
    rw [openLink_refused_iff]
    exact and_iff_right rfl

namespace Moved

/-! An instance that is configured twice, the second time at an address of which the host has colons. -/

def settings : Settings :=
  { routing.instances := [⟨"a", "10.0.0.2", 80⟩, ⟨"b", "10.0.0.3", 80⟩, ⟨"a", "fe80::2", 81⟩]
    routing.nodes := .ofList [("c", "::1:+80")] }

def steps : List RoutingStep := [.event (.clientConnects none)]

theorem steps_still (e : Event) (member : .event e ∈ steps) : e.WellAddressed := by
  obtain rfl := RoutingStep.event.inj (List.mem_singleton.mp member)
  exact Event.wellAddressed_of_still rfl

end Moved

theorem moved_address_accepted : Moved.settings.Valid ∧ ∃ p, Moved.settings.plan = .ok p ∧
    let start := State.initial (p.resolver Moved.settings.directory) ⟨0, 0⟩ (.steady fun _ => .accepting)
    ((start.routed Guarded.setup Moved.steps).selectNode Guarded.setup 0 .designated).1 =
      some "fe80::2:81" ∧
    Text.isHostPort "fe80::2:81" ∧
    ∀ (t : State) h c refused,
      (t.forward Guarded.setup "fe80::2:81" h c).1 ≠ .error (.invalidAddress refused) := by
  have accepted : Moved.settings.Valid := by decide
  obtain ⟨p, planned⟩ := (Settings.valid_iff_sound.mp accepted).plan_iff.mpr (by decide)
  refine ⟨accepted, p, planned, ?_⟩
  rw [Settings.plan_resolver planned]
  have selected : (((State.initial Moved.settings.resolver ⟨0, 0⟩ (.steady fun _ => .accepting)).routed
      Guarded.setup Moved.steps).selectNode Guarded.setup 0 .designated).1 = some "fe80::2:81" := by
    decide +kernel
  obtain ⟨right, taken⟩ := (listed_addresses_accepted accepted Guarded.setup ⟨0, 0⟩ (.steady fun _ => .accepting)
    Moved.steps Moved.steps_still).1 _ rfl _ (Or.inr ⟨0, .designated, selected⟩)
  exact ⟨selected, right, taken⟩

end SessionGateway.Configuration
