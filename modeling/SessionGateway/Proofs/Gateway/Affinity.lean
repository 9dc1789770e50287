import SessionGateway.Proofs.Gateway.Gate

/-! Where the sessions of one player are sent. Consistent hashing goes by the player if the player is known
when a session logs in for the first time. Nobody but an interceptor usually tells, and it does so over the
answer of the node that was chosen already. -/
namespace SessionGateway.Selection

/-- The nodes to choose from, and where they come from. -/
def Resolver.candidates (r : Resolver) : Candidates × List String :=
  match r.live with
  | [] => (.configured, r.nodes.entries.map (·.1))
  | live => (.live, live.map (·.id))

/-- Where consistent hashing turns to, given how the rotation stands. -/
def position (kind : Candidates) (counter : UInt64) (player : Option Int64) : Nat :=
  match player, kind with
  | some p, _ => Strategy.playerHash p
  | none, .live => counter.toNat
  | none, .configured => 0

theorem pick_consistent (source : Nat → Nat) (r : Rotation) (kind : Candidates)
    (player : Option Int64) :
    r.pick source .consistentHash kind player = (position kind r.counter player,
      if kind = .live ∧ player = none then { r with counter := r.counter + 1 } else r) := by
  cases player <;> cases kind <;> rfl

theorem choose_several (source : Nat → Nat) (r : Rotation) (strategy : Strategy) (kind : Candidates)
    {α : Type} {among : List α} (several : 2 ≤ among.length) (player : Option Int64) :
    r.choose source strategy kind among player =
      (among[(r.pick source strategy kind player).1 % among.length]?,
        (r.pick source strategy kind player).2) := by
  obtain ⟨n, length⟩ := Nat.exists_eq_add_of_le' several
  unfold Rotation.choose Rotation.select
  rw [length]
  rfl

theorem choose_picked (source : Nat → Nat) {r : Resolver} {kind : Candidates} {ids : List String}
    (candidates : r.candidates = (kind, ids)) (several : 2 ≤ ids.length) (strategy : Strategy)
    (player : Option Int64) :
    (r.choose source strategy player).1.map (·.1) =
      ids[(r.rotation.pick source strategy kind player).1 % ids.length]? ∧
    (r.choose source strategy player).2.rotation = (r.rotation.pick source strategy kind player).2 := by
  unfold Resolver.candidates at candidates
  unfold Resolver.choose
  split
  · rename_i none_live
    rw [none_live] at candidates
    obtain ⟨rfl, rfl⟩ := Prod.mk.inj candidates
    rw [List.length_map] at several
    rw [choose_several source _ _ _ several]
    simp
  · rename_i some_live
    split at candidates
    · contradiction
    obtain ⟨rfl, rfl⟩ := Prod.mk.inj candidates
    rw [List.length_map] at several
    rw [choose_several source _ _ _ several]
    simp [Function.comp_def]

theorem choose_consistent (source : Nat → Nat) {r : Resolver} {kind : Candidates} {ids : List String}
    (candidates : r.candidates = (kind, ids)) (several : 2 ≤ ids.length) (player : Option Int64) :
    (r.choose source .consistentHash player).1.map (·.1) =
      ids[position kind r.rotation.counter player % ids.length]? ∧
    (r.choose source .consistentHash player).2.rotation =
      if kind = .live ∧ player = none then { r.rotation with counter := r.rotation.counter + 1 }
      else r.rotation := by
  have picked := choose_picked source candidates several .consistentHash player
  rw [pick_consistent] at picked
  exact picked

end SessionGateway.Selection

namespace SessionGateway.Gateway

open Wire Selection

variable {g : Setup} {asked : Handle → SessionCall → Prop} {s s' : State} {h : Handle}

/-! ### What the record tells -/

/-- A login for which a node was chosen: whose it was, which player that was known to be, and how many
such logins of unknown players there had been. -/
structure Binding where
  session : Handle
  player : Option Int64
  turn : Nat
  deriving DecidableEq, Repr

def bindings (g : Setup) : List Occurrence → List Binding
  | [] => []
  | .handled h found c outcome :: earlier =>
    let before := bindings g earlier
    if c.msgId = g.loginId ∧ outcome ≠ .rateLimited ∧ found.node = none then
      ⟨h, found.player, before.countP (·.player.isNone)⟩ :: before
    else before
  | _ :: earlier => bindings g earlier

def State.node? (s : State) (h : Handle) : Option String := (s.session? h).bind (·.node)

theorem bindings_later {news : List Occurrence} (none : ∀ o ∈ news, ¬o.Handles)
    (history : List Occurrence) : bindings g (news ++ history) = bindings g history := by
  induction news with
  | nil => rfl
  | cons o news ih =>
    have rest := ih fun o' member => none o' (List.mem_cons_of_mem o member)
    have this := none o List.mem_cons_self
    cases o with
    | handled => exact absurd trivial this
    | _ => exact rest

def HandlesNone (s s' : State) : Prop :=
  ∃ news, s'.history = news ++ s.history ∧ ∀ o ∈ news, ¬o.Handles

theorem HandlesNone.bindings_eq (handlesNone : HandlesNone s s') :
    bindings g s'.history = bindings g s.history := by
  obtain ⟨news, history, none⟩ := handlesNone
  rw [history]
  exact bindings_later none s.history

theorem node?_eq_some {node : String} :
    s.node? h = some node ↔ ∃ session, s.session? h = some session ∧ session.node = some node := by
  simp [State.node?, Option.bind_eq_some_iff]

/-! ### Nodes are kept -/

theorem perform_all_node (clock : SessionClock) {session : Session} {node : String}
    (bound : session.node = some node) (calls : List SessionCall) :
    (calls.foldl (Session.perform clock) session).node = some node := by
  induction calls generalizing session with
  | nil => exact bound
  | cons call calls ih =>
    apply ih
    rcases session.perform_node clock call with kept | ⟨unbound, _⟩
    · exact kept.trans bound
    · cases unbound.symm.trans bound

theorem follows_node {allowed : SessionCall → Prop} {before after : Session}
    (follows : before.Follows allowed after) {node : String} (bound : before.node = some node) :
    after.node = some node := by
  rcases follows with ⟨_, _, kept, _⟩ | ⟨clock, call, _, rfl⟩
  · exact kept.trans bound
  · exact perform_all_node clock bound [call]

/-- Nothing is bound, no turn is taken, and no session loses its node. -/
structure KeepsNodes (g : Setup) (s s' : State) : Prop where
  bindings_eq : bindings g s'.history = bindings g s.history
  rotation : s'.resolver.rotation = s.resolver.rotation
  nodes : ∀ h node, s.node? h = some node → s'.node? h = some node

theorem passes_handles_none (passes : Passes asked s s') : HandlesNone s s' := by
  obtain ⟨news, history, incidental⟩ := passes.history
  exact ⟨news, history, fun o member => (incidental o member).unrelated.not_handles⟩

theorem passes_keeps_nodes (change : Registers s s') (passes : Passes asked s s') :
    KeepsNodes g s s' where
  bindings_eq := (passes_handles_none passes).bindings_eq
  rotation := passes.rotation
  nodes := by
    intro h node bound
    obtain ⟨session, hs, hnode⟩ := node?_eq_some.mp bound
    obtain ⟨b, at_h, _⟩ := session?_badge hs
    obtain ⟨b', at_h', _⟩ := registers_id change at_h
    obtain ⟨after, hafter, _⟩ := roster_session at_h'
    rcases passes.sessions h after hafter with ⟨unknown, _⟩ | ⟨before, hb, follows⟩
    · cases unknown.symm.trans hs
    · obtain rfl := Option.some.inj (hb.symm.trans hs)
      exact node?_eq_some.mpr ⟨after, hafter, follows_node follows hnode⟩

theorem answered_node {p : NodePacket} {session after : Session} {calls : List SessionCall}
    {noted queued : List Occurrence} {result : Dispatch}
    (answered : Answered g s p h session calls after noted queued result) {node : String}
    (bound : session.node = some node) : after.node = some node := by
  have called := perform_all_node s.clock bound calls
  cases answered.queues with
  | queued => exact called
  | dropped => exact called

theorem answered_handles_none {p : NodePacket} {session after : Session} {calls : List SessionCall}
    {noted queued : List Occurrence} {result : Dispatch}
    (answered : Answered g s p h session calls after noted queued result) :
    ∀ o ∈ .dispatched p result :: (queued ++ noted), ¬o.Handles := by
  obtain ⟨_, _, _, delivered⟩ := answered.queues.gate
  intro o member
  simp only [List.mem_cons, List.mem_append] at member
  rcases member with rfl | new | new
  · exact id
  · exact (delivered o new).not_handles
  · exact (answered.inspects.unrelated o new).not_handles

theorem reply_handles_none (p : NodePacket) : HandlesNone s (s.reply g p).2 := by
  rcases reply_passes (fun _ _ => True) g s p with passes |
    ⟨h, session, calls, after, noted, queued, result, answered, replied⟩
  · exact passes_handles_none passes
  · rw [replied]
    exact ⟨_, rfl, answered_handles_none answered⟩

theorem reply_keeps_nodes (p : NodePacket) : KeepsNodes g s (s.reply g p).2 := by
  have change := reply_registers (g := g) (s := s) p
  rcases reply_passes (fun _ _ => True) g s p with passes |
    ⟨h, session, calls, after, noted, queued, result, answered, replied⟩
  · exact passes_keeps_nodes change passes
  · have recorded : bindings g (s.reply g p).2.history = bindings g s.history :=
      (reply_handles_none p).bindings_eq
    rw [replied] at recorded ⊢
    refine ⟨recorded, rfl, ?_⟩
    intro h' node bound
    obtain ⟨found, hfound, hnode⟩ := node?_eq_some.mp bound
    refine node?_eq_some.mpr ?_
    have seen := answered.session?_eq h'
    by_cases hh : h = h'
    · subst h'
      obtain rfl := Option.some.inj (answered.waiter.symm.trans hfound)
      rw [if_pos rfl] at seen
      exact ⟨after, seen, answered_node answered hnode⟩
    · rw [if_neg hh] at seen
      exact ⟨found, seen.trans hfound, hnode⟩

theorem relists_keeps_nodes {r : Resolver} (rotation : r.rotation = s.resolver.rotation) :
    KeepsNodes g s { s with resolver := r } where
  bindings_eq := rfl
  rotation
  nodes := fun _ _ bound => bound

/-! ### Nodes are chosen -/

/-- A session without a node asked for one. Those that had one keep it. -/
structure Binds (g : Setup) (s : State) (h : Handle) (found : Session) (s' : State) : Prop where
  unbound : s.session? h = some found ∧ found.node = none
  bindings_eq : bindings g s'.history =
    ⟨h, found.player, (bindings g s.history).countP (·.player.isNone)⟩ :: bindings g s.history
  chosen : s'.node? h = (s.resolver.choose g.draws g.strategy found.player).1.map (·.1)
  resolver : s'.resolver = (s.resolver.choose g.draws g.strategy found.player).2
  nodes : ∀ h node, s.node? h = some node → s'.node? h = some node

section Receiving

variable {found after : Session} {p : ClientPacket} {outcome : Outcome}
  {traffic news : List Occurrence}

theorem Received.node?_eq (received : Received g s h found p outcome after traffic news s')
    (hs : s.session? h = some found) (h' : Handle) :
    s'.node? h' = if h = h' then after.node else s.node? h' := by
  rw [State.node?, received.session?_eq hs]
  by_cases hh : h = h' <;> simp [hh, State.node?]

theorem Received.handles_none (received : Received g s h found p outcome after traffic news s') :
    ∀ o ∈ traffic ++ news, ¬o.Handles := by
  intro o member
  rcases List.mem_append.mp member with new | new
  · rcases received.traffic.recorded new with rfl | ⟨_, _, rfl⟩ | ⟨_, _, _, rfl⟩ <;> exact id
  · exact (received.news o new).incidental.unrelated.not_handles

theorem Received.bindings_eq (received : Received g s h found p outcome after traffic news s') :
    bindings g s'.history =
      if p.msgId = g.loginId ∧ outcome ≠ .rateLimited ∧ found.node = none then
        ⟨h, found.player, (bindings g s.history).countP (·.player.isNone)⟩ :: bindings g s.history
      else bindings g s.history := by
  have before := bindings_later (g := g) received.handles_none s.history
  rw [received.history, bindings, ← List.append_assoc, before]

theorem placement_of_none (unbound : found.node = none) :
    s.placement g g.strategy found =
      ((s.resolver.choose g.draws g.strategy found.player).1.map (·.1),
        (s.resolver.choose g.draws g.strategy found.player).2) := by
  simp [State.placement, unbound]

theorem Received.node_eq (received : Received g s h found p outcome after traffic news s')
    {node : String} (bound : found.node = some node) :
    after.node = some node ∧ s'.resolver = s.resolver := by
  by_cases login : p.msgId = g.loginId ∧ outcome ≠ .rateLimited
  · have placed := received.login_node login.1 login.2
    simpa [State.placement, bound] using placed
  · have kept := received.other_node (by tauto)
    exact ⟨kept.1.trans bound, kept.2⟩

theorem Received.keeps_node (received : Received g s h found p outcome after traffic news s')
    (hs : s.session? h = some found) {h' : Handle} {node : String} (bound : s.node? h' = some node) :
    s'.node? h' = some node := by
  rw [received.node?_eq hs]
  by_cases hh : h = h'
  · subst h'
    rw [State.node?, hs] at bound
    rw [if_pos rfl]
    exact (received.node_eq bound).1
  · rw [if_neg hh]
    exact bound

end Receiving

theorem receive_nodes {found : Session} (hs : s.session? h = some found) {p : ClientPacket}
    (business : isReserved p.msgId = false) :
    KeepsNodes g s (s.receive g h p).2 ∨ Binds g s h found (s.receive g h p).2 := by
  obtain ⟨outcome, after, traffic, news, received⟩ := receive_received g hs business
  have recorded := received.bindings_eq
  cases unbound : found.node with
  | some node =>
    left
    rw [if_neg (by simp [unbound])] at recorded
    have rotation : (s.receive g h p).2.resolver = s.resolver := (received.node_eq unbound).2
    exact ⟨recorded, by rw [rotation], fun _ _ bound => received.keeps_node hs bound⟩
  | none =>
    by_cases login : p.msgId = g.loginId ∧ outcome ≠ .rateLimited
    · right
      rw [if_pos ⟨login.1, login.2, unbound⟩] at recorded
      have placed := received.login_node login.1 login.2
      rw [placement_of_none unbound] at placed
      refine ⟨⟨hs, unbound⟩, recorded, ?_, placed.2, fun _ _ bound => received.keeps_node hs bound⟩
      rw [received.node?_eq hs, if_pos rfl]
      exact placed.1
    · left
      rw [if_neg (by tauto)] at recorded
      have rotation : (s.receive g h p).2.resolver = s.resolver :=
        (received.other_node (by tauto)).2
      exact ⟨recorded, by rw [rotation], fun _ _ bound => received.keeps_node hs bound⟩

theorem move_nodes (inv : RegistryInvariant s) (move : Move g asked s s') :
    KeepsNodes g s s' ∨ ∃ h found, Binds g s h found s' := by
  have change := move_registers inv move
  rcases move_cases inv move with passes | ⟨h, found, b, p, hs, _, _, business, rfl⟩ | ⟨p, _, rfl⟩
  · exact Or.inl (passes_keeps_nodes change passes)
  · rcases receive_nodes (g := g) hs business with kept | binds
    · exact Or.inl kept
    · exact Or.inr ⟨h, found, binds⟩
  · exact Or.inl (reply_keeps_nodes p)

/-! ### Nodes while the same candidates are listed -/

theorem Steady.candidates_eq (steady : Steady s s') :
    s'.resolver.candidates = s.resolver.candidates := by
  rw [steady.resolver]
  rfl

theorem SteadyMoves.candidates_eq (path : SteadyMoves g asked s s') :
    s'.resolver.candidates = s.resolver.candidates :=
  path.steady.candidates_eq

theorem chosen_exists {ids : List String} (several : 2 ≤ ids.length) (n : Nat) :
    ∃ node, ids[n % ids.length]? = some node :=
  ⟨_, List.getElem?_eq_getElem (Nat.mod_lt n (by omega))⟩

/-- What is left true by every node that is kept, and by every one that is chosen among these candidates. -/
structure NodeLaw (g : Setup) (candidates : Candidates × List String) (I : State → Prop) : Prop where
  registry : ∀ {s}, I s → RegistryInvariant s
  keeps : ∀ {s s'}, I s → RegistryInvariant s' → KeepsNodes g s s' → I s'
  binds : ∀ {s s' h found}, s.resolver.candidates = candidates → I s → RegistryInvariant s' →
    Binds g s h found s' → I s'

section Lawful

variable {candidates : Candidates × List String} {I : State → Prop}

theorem NodeLaw.steady (law : NodeLaw g candidates I) (listed : s.resolver.candidates = candidates)
    (inv : I s) (path : SteadyMoves g asked s s') : I s' := by
  induction path with
  | refl => exact inv
  | tail before move ih =>
    have same := SteadyMoves.candidates_eq before
    have registry := move_preserves_registry _ _ (law.registry ih) move.1
    rcases move_nodes (g := g) (law.registry ih) move.1 with kept | ⟨h, found, binds⟩
    · exact law.keeps ih registry kept
    · exact law.binds (same.trans listed) ih registry binds

theorem NodeLaw.step (law : NodeLaw g candidates I) (e : Event)
    (before : s.resolver.candidates = candidates)
    (after : (s.step g e).resolver.candidates = candidates) (inv : I s) : I (s.step g e) := by
  have flushed : SteadyMoves g (fun _ _ => True) (s.react g e) (s.step g e) := step_flushed s e
  have listed := flushed.candidates_eq.symm.trans after
  have relisted (move : Move g (fun _ _ => True) s (s.react g e))
      (kept : KeepsNodes g s (s.react g e)) : I (s.step g e) := by
    have registry := move_preserves_registry _ _ (law.registry inv) move
    exact law.steady listed (law.keeps inv registry kept) flushed
  rcases @react_cases g (fun _ _ => True) s e fun _ _ _ => trivial with
    steady | ⟨network, rfl⟩ | ⟨_, ⟨f, listed⟩ | ⟨f, configured⟩⟩
  · exact law.steady before inv (steady.trans flushed)
  · exact relisted (.rewires network) ⟨rfl, rfl, fun _ _ bound => bound⟩
  · apply relisted (listed ▸ .lists f)
    rw [listed]
    exact relists_keeps_nodes rfl
  · apply relisted (configured ▸ .configures f)
    rw [configured]
    exact relists_keeps_nodes rfl

theorem NodeLaw.run (law : NodeLaw g candidates I) {events : List Event}
    (listed : ∀ before, before <+: events → (s.run g before).resolver.candidates = candidates)
    (inv : I s) : I (s.run g events) := by
  induction events generalizing s with
  | nil => exact inv
  | cons e events ih =>
    rw [State.run_cons]
    have now := listed [] (List.nil_prefix)
    have next := listed [e] (List.prefix_cons_inj e |>.mpr List.nil_prefix)
    apply ih
    · intro before within
      exact listed (e :: before) ((List.prefix_cons_inj e).mpr within)
    · exact law.step e now next inv

end Lawful

/-! ### Nodes under consistent hashing -/

section Hashing

variable {kind : Candidates} {ids : List String} {first : UInt64}

/-- As long as the candidates are the same, the node of a session is told by the record of its login. -/
structure Hashed (g : Setup) (kind : Candidates) (ids : List String) (first : UInt64) (s : State) :
    Prop where
  registry : RegistryInvariant s
  counter : kind = .live → s.resolver.rotation.counter =
    first + .ofNat ((bindings g s.history).countP (·.player.isNone))
  nodes : ∀ b ∈ bindings g s.history, s.node? b.session =
    ids[position kind (first + .ofNat b.turn) b.player % ids.length]?

theorem initial_hashed (g : Setup) (kind : Candidates) (ids : List String) (resolver : Resolver)
    (clock : SessionClock) (network : Network) :
    Hashed g kind ids resolver.rotation.counter (State.initial resolver clock network) where
  registry := initial_registry resolver clock network
  counter := by simp [State.initial, bindings]
  nodes := by simp [State.initial, bindings]

theorem Hashed.node_kept (several : 2 ≤ ids.length) (inv : Hashed g kind ids first s)
    (kept : ∀ h node, s.node? h = some node → s'.node? h = some node) {b : Binding}
    (member : b ∈ bindings g s.history) :
    s'.node? b.session = ids[position kind (first + .ofNat b.turn) b.player % ids.length]? := by
  have was := inv.nodes b member
  obtain ⟨node, found⟩ := chosen_exists several (position kind (first + .ofNat b.turn) b.player)
  rw [found] at was ⊢
  exact kept b.session node was

theorem hashed_law (hashing : g.strategy = .consistentHash) (several : 2 ≤ ids.length) :
    NodeLaw g (kind, ids) (Hashed g kind ids first) where
  registry inv := inv.registry
  keeps := by
    intro s s' inv registry kept
    refine ⟨registry, ?_, ?_⟩
    · rw [kept.bindings_eq, kept.rotation]
      exact inv.counter
    · intro b member
      rw [kept.bindings_eq] at member
      exact inv.node_kept several kept.nodes member
  binds := by
    intro s s' h found candidates inv registry binds
    obtain ⟨chosen, rotation⟩ := choose_consistent g.draws candidates several found.player
    have now := binds.chosen
    rw [hashing, chosen] at now
    refine ⟨registry, ?_, ?_⟩
    · intro live
      have counter := inv.counter live
      rw [binds.resolver, hashing, rotation, binds.bindings_eq, List.countP_cons]
      cases player : found.player with
      | none => simp [live, counter, UInt64.add_assoc]
      | some _ => simp [counter]
    · intro b member
      rw [binds.bindings_eq] at member
      rcases List.mem_cons.mp member with rfl | old
      · rw [now]
        -- Only among live instances do unknown players take turns.
        cases kind with
        | live => rw [inv.counter rfl]
        | configured => cases found.player <;> rfl
      · exact inv.node_kept several binds.nodes old

end Hashing

/-! ### Sessions that are authenticated from inside -/

def SessionCall.binds : SessionCall → Bool
  | .bind _ => true
  | _ => false

/-- Calls from outside that leave it to the gateway who a session belongs to and where it goes. -/
def Distant (_ : Handle) (call : SessionCall) : Prop := call.opens = false ∧ call.binds = false

/-- A session is not known before it has a node, and it has its node from a login. -/
structure Unknown (g : Setup) (s : State) : Prop where
  gate : GateInvariant g s
  forwarded : ∀ h found c outcome, .handled h found c outcome ∈ s.history → outcome.isForwarded →
    ∃ node, s.node? h = some node
  bound : ∀ h node, s.node? h = some node → ∃ b ∈ bindings g s.history, b.session = h
  unknown : ∀ b ∈ bindings g s.history, b.player = none

theorem Unknown.sent_node (inv : Unknown g s) {id : SessionId} {q : Int32} {older : List Occurrence}
    (newer : List Occurrence) (split : s.history = newer ++ older) (sent : Sent h id q older) :
    ∃ node, s.node? h = some node := by
  obtain ⟨found, c, address, member, _⟩ := sent
  apply inv.forwarded h found c (.forwarded address) _ rfl
  rw [split]
  exact List.mem_append_right newer member

theorem Unknown.known_node (inv : Unknown g s) {session : Session} (hs : s.session? h = some session)
    {player : Int64} (known : session.player = some player) : ∃ node, s.node? h = some node := by
  obtain ⟨newer, q, calls, older, split, _, _, sent⟩ :=
    inv.gate.justified.players h session player hs known
  exact inv.sent_node (newer ++ [.inspected h q calls]) (by simp [split]) sent

def WaitersBound (s : State) : Prop :=
  ∀ h b k, s.Connected h b → k ∈ s.pending.keys → b.id = k.session → ∃ node, s.node? h = some node

theorem Unknown.waiters_bound (inv : Unknown g s) : WaitersBound s := by
  intro h b k connected waits id
  exact inv.sent_node [] rfl (inv.gate.justified.waiting h b k connected waits id)

theorem move_receives (inv : RegistryInvariant s) (move : Move g asked s s') :
    HandlesNone s s' ∨
    ∃ h found b p, s.session? h = some found ∧ s.Connected h b ∧ b.id = found.id ∧
      isReserved p.msgId = false ∧ s' = (s.receive g h p).2 := by
  rcases move_cases inv move with passes | receives | ⟨p, _, rfl⟩
  · exact Or.inl (passes_handles_none passes)
  · exact Or.inr receives
  · exact Or.inl (reply_handles_none p)

theorem passes_bound (inside : ∀ h call, asked h call → call.binds = false)
    (passes : Passes asked s s') {node : String}
    (now : s'.node? h = some node) : s.node? h = some node := by
  obtain ⟨after, hafter, hnode⟩ := node?_eq_some.mp now
  rcases passes.sessions h after hafter with ⟨_, _, fresh, _⟩ | ⟨before, hb, follows⟩
  · cases fresh.symm.trans hnode
  · refine node?_eq_some.mpr ⟨before, hb, ?_⟩
    rcases follows with ⟨_, _, kept, _⟩ | ⟨clock, call, permitted, rfl⟩
    · exact kept.symm.trans hnode
    · rcases before.perform_node clock call with kept | ⟨_, other, rfl, _⟩
      · exact kept.symm.trans hnode
      · cases inside h _ permitted

theorem move_node_kept (inv : RegistryInvariant s) (move : Move g asked s s') {node : String}
    (bound : s.node? h = some node) : s'.node? h = some node := by
  rcases move_nodes inv move with kept | ⟨_, _, binds⟩
  · exact kept.nodes h node bound
  · exact binds.nodes h node bound

theorem move_bindings (inv : RegistryInvariant s) (move : Move g asked s s') {b : Binding}
    (member : b ∈ bindings g s.history) : b ∈ bindings g s'.history := by
  rcases move_nodes inv move with kept | ⟨_, _, binds⟩
  · rw [kept.bindings_eq]
    exact member
  · rw [binds.bindings_eq]
    exact List.mem_cons_of_mem _ member

theorem received_bound {found after : Session} {p : ClientPacket} {outcome : Outcome}
    {traffic news : List Occurrence}
    (received : Received g s h found p outcome after traffic news s')
    (hs : s.session? h = some found) {node : String} (now : after.node = some node) :
    s.node? h = some node ∨ ∃ b ∈ bindings g s'.history, b.session = h := by
  cases unbound : found.node with
  | some old =>
    obtain rfl := Option.some.inj ((received.node_eq unbound).1.symm.trans now)
    exact Or.inl (node?_eq_some.mpr ⟨found, hs, unbound⟩)
  | none =>
    right
    by_cases login : p.msgId = g.loginId ∧ outcome ≠ .rateLimited
    · rw [received.bindings_eq, if_pos ⟨login.1, login.2, unbound⟩]
      exact ⟨_, List.mem_cons_self, rfl⟩
    · have kept := (received.other_node (by tauto)).1
      cases (kept.trans unbound).symm.trans now

/-- An interceptor that binds does so over a reply, to a session that has its node. -/
theorem move_bound (registry : RegistryInvariant s) (waiters : WaitersBound s)
    (inside : ∀ h call, asked h call → call.binds = false) (move : Move g asked s s') {node : String}
    (now : s'.node? h = some node) :
    (∃ node, s.node? h = some node) ∨ ∃ b ∈ bindings g s'.history, b.session = h := by
  rcases move_cases registry move with passes |
    ⟨h', found, b, p, hs, _, _, business, rfl⟩ | ⟨p, _, rfl⟩
  · exact Or.inl ⟨node, passes_bound inside passes now⟩
  · obtain ⟨outcome, after, traffic, news, received⟩ := receive_received g hs business
    rw [received.node?_eq hs] at now
    by_cases hh : h' = h
    · subst h'
      rw [if_pos rfl] at now
      rcases received_bound received hs now with old | new
      · exact Or.inl ⟨node, old⟩
      · exact Or.inr new
    · rw [if_neg hh] at now
      exact Or.inl ⟨node, now⟩
  · left
    rcases reply_passes asked g s p with passes |
      ⟨h', session, calls, after, noted, queued, result, answered, replied⟩
    · exact ⟨node, passes_bound inside passes now⟩
    · by_cases hh : h' = h
      · subst h'
        obtain ⟨b, connected, id⟩ := registry.find?_iff.mp answered.found
        exact waiters h b _ connected answered.waiting id
      · have seen := answered.session?_eq h
        rw [if_neg hh] at seen
        have same : (s.reply g p).2.node? h = s.node? h := by
          rw [replied, State.node?, State.node?, ← seen]
          rfl
        exact ⟨node, same ▸ now⟩

theorem move_forwarded (inv : Unknown g s) (move : Move g Distant s s') {found : Session}
    {c : ClientPacket} {outcome : Outcome} (member : .handled h found c outcome ∈ s'.history)
    (forwarded : outcome.isForwarded) : ∃ node, s'.node? h = some node := by
  have old (member : .handled h found c outcome ∈ s.history) : ∃ node, s'.node? h = some node := by
    obtain ⟨node, bound⟩ := inv.forwarded h found c outcome member forwarded
    exact ⟨node, move_node_kept inv.gate.registry move bound⟩
  rcases move_receives inv.gate.registry move with ⟨news, history, none⟩ |
    ⟨h', found', b, p, hs, _, _, business, rfl⟩
  · rw [history] at member
    rcases List.mem_append.mp member with new | before
    · exact absurd trivial (none _ new)
    · exact old before
  · obtain ⟨result, after, traffic, news, received⟩ := receive_received g hs business
    rw [received.history, ← List.append_assoc] at member
    rcases List.mem_cons.mp member with same | later
    · cases same
      obtain ⟨node, bound⟩ := Option.isSome_iff_exists.mp (received.forwarded_node forwarded)
      refine ⟨node, ?_⟩
      rw [received.node?_eq hs, if_pos rfl]
      exact bound
    · rcases List.mem_append.mp later with new | before
      · exact absurd trivial (received.handles_none _ new)
      · exact old before

/-- A player is told over the answer to a forwarded frame, and that frame took a node. -/
theorem Unknown.player_eq_none (inv : Unknown g s) {found : Session} (binds : Binds g s h found s') :
    found.player = none := by
  cases known : found.player with
  | none => rfl
  | some player =>
    obtain ⟨node, bound⟩ := inv.known_node binds.unbound.1 known
    obtain ⟨session, hs, hnode⟩ := node?_eq_some.mp bound
    obtain rfl := Option.some.inj (binds.unbound.1.symm.trans hs)
    cases binds.unbound.2.symm.trans hnode

theorem move_preserves_unknown (s s' : State) (inv : Unknown g s) (move : Move g Distant s s') :
    Unknown g s' where
  gate := move_preserves_gate s s' inv.gate (move.mono fun _ _ distant => distant.1)
  forwarded := by
    intro h found c outcome member forwarded
    exact move_forwarded inv move member forwarded
  bound := by
    intro h node now
    rcases move_bound inv.gate.registry inv.waiters_bound (fun _ _ distant => distant.2) move now with
      ⟨old, bound⟩ | new
    · obtain ⟨b, member, same⟩ := inv.bound h old bound
      exact ⟨b, move_bindings inv.gate.registry move member, same⟩
    · exact new
  unknown := by
    intro b member
    rcases move_nodes inv.gate.registry move with kept | ⟨h, found, binds⟩
    · rw [kept.bindings_eq] at member
      exact inv.unknown b member
    · rw [binds.bindings_eq] at member
      rcases List.mem_cons.mp member with rfl | old
      · exact inv.player_eq_none binds
      · exact inv.unknown b old

theorem initial_unknown (g : Setup) (resolver : Resolver) (clock : SessionClock)
    (network : Network) : Unknown g (State.initial resolver clock network) where
  gate := initial_gate g resolver clock network
  forwarded := by simp [State.initial]
  bound := by simp [State.initial, State.node?, State.session?]
  unknown := by simp [State.initial, bindings]

/-! ### Runs -/

/-- Which node a session is bound to while the same candidates are listed. It is told by what is known of
the player at the login that binds: a known player goes by the hash, an unknown one to the first of the
configured nodes or to the live instance whose turn it is. So sessions that were known as one player when
they were bound are at one node. But a player whom only an interceptor tells is never known so early. Its
sessions are together only because all sessions are, at the first of the configured nodes. -/
theorem players_bound_together (g : Setup) (hashing : g.strategy = .consistentHash)
    (resolver : Resolver) (clock : SessionClock) (network : Network) (events : List Event)
    (kind : Candidates) (ids : List String) (several : 2 ≤ ids.length)
    (steady : ∀ before, before <+: events →
      ((State.initial resolver clock network).run g before).resolver.candidates = (kind, ids)) :
    let s := (State.initial resolver clock network).run g events
    (∀ b ∈ bindings g s.history, s.node? b.session =
      ids[position kind (resolver.rotation.counter + .ofNat b.turn) b.player % ids.length]?) ∧
    (∀ b ∈ bindings g s.history, ∀ b' ∈ bindings g s.history, b.player = b'.player →
      b.player.isSome ∨ kind = .configured → s.node? b.session = s.node? b'.session) ∧
    ((∀ h call, .ask h call ∈ events → call.opens = false ∧ call.binds = false) →
      (∀ h session, s.session? h = some session → session.player.isSome →
        ∃ b ∈ bindings g s.history, b.session = h ∧ b.player = none) ∧
      (kind = .configured → ∀ h h' session session',
        s.session? h = some session → s.session? h' = some session' →
        session.player.isSome → session'.player.isSome → session.node = session'.node)) := by
  intro s
  have inv : Hashed g kind ids resolver.rotation.counter s :=
    (hashed_law hashing several).run steady (initial_hashed g kind ids resolver clock network)
  have together : ∀ b ∈ bindings g s.history, ∀ b' ∈ bindings g s.history, b.player = b'.player →
      b.player.isSome ∨ kind = .configured → s.node? b.session = s.node? b'.session := by
    intro b member b' member' same known
    rw [inv.nodes b member, inv.nodes b' member', ← same]
    rcases known with known | rfl
    · obtain ⟨player, known⟩ := Option.isSome_iff_exists.mp known
      rw [known]
      rfl
    · cases b.player <;> rfl
  refine ⟨inv.nodes, together, ?_⟩
  intro inside
  have unknown : Unknown g s :=
    run_invariant move_preserves_unknown (initial_unknown g resolver clock network) inside
  have early : ∀ h session, s.session? h = some session → session.player.isSome →
      ∃ b ∈ bindings g s.history, b.session = h ∧ b.player = none := by
    intro h session hs known
    obtain ⟨player, known⟩ := Option.isSome_iff_exists.mp known
    obtain ⟨node, bound⟩ := unknown.known_node hs known
    obtain ⟨b, member, same⟩ := unknown.bound h node bound
    exact ⟨b, member, same, unknown.unknown b member⟩
  refine ⟨early, ?_⟩
  intro configured h h' session session' hs hs' known known'
  obtain ⟨b, member, rfl, player⟩ := early h session hs known
  obtain ⟨b', member', rfl, player'⟩ := early h' session' hs' known'
  have same := together b member b' member' (player.trans player'.symm) (Or.inr configured)
  simpa [State.node?, hs, hs'] using same

theorem run_candidates (s : State) {events : List Event} (still : ∀ e ∈ events, e.relists = false) :
    (s.run g events).resolver.candidates = s.resolver.candidates := by
  induction events generalizing s with
  | nil => rfl
  | cons e events ih =>
    have flushed : SteadyMoves g (fun _ _ => True) (s.react g e) (s.step g e) := step_flushed s e
    have later := ih (s.step g e) fun e' member => still e' (List.mem_cons_of_mem e member)
    rcases @react_cases g (fun _ _ => True) s e fun _ _ _ => trivial with
      path | ⟨network, rfl⟩ | ⟨relists, _⟩
    · rw [State.run_cons, later]
      exact SteadyMoves.candidates_eq (path.trans flushed)
    · rw [State.run_cons, later, flushed.candidates_eq]
      rfl
    · cases (still e List.mem_cons_self).symm.trans relists

namespace Twins

/-! One player's two clients at a gateway with two live instances. -/

def setup : Setup := { Guarded.setup with strategy := .consistentHash }

def ids : List String := ["a", "b"]

def directory : Directory := ⟨[("game-node", [⟨"a", "n", 1⟩, ⟨"b", "n", 2⟩])]⟩

def start : State :=
  .initial ⟨"game-node", some directory, .empty, .initial⟩ ⟨0, 0⟩ (.steady fun _ => .accepting)

def login : Octets := Guarded.octets setup.clientCodec (.client Guarded.login)

/-- Both log in, and both are authenticated over the answers. -/
def strangers : List Event :=
  [.clientConnects none, .clientConnects none, .clientSends 0 login, .clientSends 1 login,
    .nodeSends 1 (Guarded.octets setup.nodeCodec (.node (Guarded.login.wrap 1))),
    .nodeSends 2 (Guarded.octets setup.nodeCodec (.node (Guarded.login.wrap 2)))]

def acquainted : List Event :=
  [.clientConnects none, .clientConnects none, .ask 0 (.authenticate 7), .ask 1 (.authenticate 7),
    .clientSends 0 login, .clientSends 1 login]

theorem steady (events : List Event) (still : ∀ e ∈ events, e.relists = false) :
    ∀ before, before <+: events → (start.run setup before).resolver.candidates = (.live, ids) := by
  intro before within
  exact run_candidates start fun e member => still e (within.subset member)

end Twins

theorem acquainted_twins_together : Twins.setup.strategy = .consistentHash ∧ 2 ≤ Twins.ids.length ∧
    (∀ before, before <+: Twins.acquainted →
      (Twins.start.run Twins.setup before).resolver.candidates = (.live, Twins.ids)) ∧
    (Twins.start.run Twins.setup Twins.acquainted).node? 1 =
      (Twins.start.run Twins.setup Twins.acquainted).node? 0 ∧
    (Twins.start.run Twins.setup Twins.acquainted).node? 0 = some "b" := by
  have steady := Twins.steady Twins.acquainted (by decide)
  obtain ⟨_, together, _⟩ := players_bound_together Twins.setup rfl _ _ _ Twins.acquainted .live
    Twins.ids (by decide) steady
  refine ⟨rfl, by decide, steady, ?_, by decide +kernel⟩
  exact together ⟨1, some 7, 0⟩ (by decide +kernel) ⟨0, some 7, 0⟩ (by decide +kernel) rfl (Or.inl rfl)

/-- Two sessions of one player, and no node has both. -/
theorem strange_twins_apart : ¬∀ (g : Setup) (resolver : Resolver) (clock : SessionClock)
    (network : Network) (events : List Event) (kind : Candidates) (ids : List String),
    g.strategy = .consistentHash → 2 ≤ ids.length →
    (∀ before, before <+: events →
      ((State.initial resolver clock network).run g before).resolver.candidates = (kind, ids)) →
    ∀ h h' session session' player,
      ((State.initial resolver clock network).run g events).session? h = some session →
      ((State.initial resolver clock network).run g events).session? h' = some session' →
      session.player = some player → session'.player = some player → session.node = session'.node := by
  intro claim
  have steady := Twins.steady Twins.strangers (by decide)
  have one : ((Twins.start.run Twins.setup Twins.strangers).session? 0).map
      (fun session => (session.player, session.node)) = some (some 7, some "a") := by decide +kernel
  have other : ((Twins.start.run Twins.setup Twins.strangers).session? 1).map
      (fun session => (session.player, session.node)) = some (some 7, some "b") := by decide +kernel
  obtain ⟨session, hs, facts⟩ := Option.map_eq_some_iff.mp one
  obtain ⟨session', hs', facts'⟩ := Option.map_eq_some_iff.mp other
  obtain ⟨player, node⟩ := Prod.mk.inj facts
  obtain ⟨player', node'⟩ := Prod.mk.inj facts'
  have same := claim Twins.setup _ _ _ Twins.strangers .live Twins.ids rfl (by decide) steady
    0 1 session session' 7 hs hs' player player'
  rw [node, node'] at same
  exact absurd same (by decide)

end SessionGateway.Gateway
