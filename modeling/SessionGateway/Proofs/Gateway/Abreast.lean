import SessionGateway.Proofs.Gateway.Admittance
import SessionGateway.Proofs.Gateway.Transparency

/-! Gateways side by side. Whether a frame gets to a node, and what else nodes are given, depends on the links
and on the ids of sessions, and on nothing else of the state. Two gateways that agree in these, and at whose
links the same happens from then on, stay in agreement, whatever else happens at either of them. -/
namespace SessionGateway.Gateway

open Wire Selection Liveness

variable {g : Setup} {s s' t t' : State} {h : Handle}

/-! ### The side of the nodes -/

/-- What nodes received, by link and address. Latest first. -/
def nodeTraffic (history : List Occurrence) : List (Nat × String × Packet) :=
  history.filterMap fun
    | .nodeReceived link address p => some (link, address, p)
    | _ => none

/-- All that it depends on whether and how a frame gets to a node, and what did get there. -/
@[ext] structure NodeSide where
  now : Time
  draining : Bool
  network : Network
  links : List NodeLink
  pool : Pool
  nextLink : Nat
  traffic : List (Nat × String × Packet)

def State.nodeSide (s : State) : NodeSide where
  now := s.now
  draining := s.draining
  network := s.network
  links := s.links
  pool := s.pool
  nextLink := s.nextLink
  traffic := nodeTraffic s.history

def Namesakes (s t : State) : Prop := ∀ h, (s.session? h).map (·.id) = (t.session? h).map (·.id)

theorem updateNodeLink_alike (same : s.nodeSide = t.nodeSide) (id : Nat) (f : Link → Link) :
    (s.updateNodeLink id f).nodeSide = (t.updateNodeLink id f).nodeSide := by
  have links := congrArg NodeSide.links same
  have updated : (s.updateNodeLink id f).links = (t.updateNodeLink id f).links := by
    simp only [State.updateNodeLink, show s.links = t.links from links]
  exact congrArg₂ (fun side links => { side with links }) same updated

theorem nodeLink?_alike (same : s.nodeSide = t.nodeSide) (id : Nat) : s.nodeLink? id = t.nodeLink? id := by
  have links : s.links = t.links := congrArg NodeSide.links same
  rw [State.nodeLink?, State.nodeLink?, links]

theorem endLink_alike (same : s.nodeSide = t.nodeSide) (id : Nat) (why : Ending) :
    (s.endLink id why).nodeSide = (t.endLink id why).nodeSide := by
  obtain ⟨now, draining, network, links, pool, next, traffic⟩ := NodeSide.mk.inj same
  unfold State.endLink
  rw [nodeLink?_alike same]
  split
  · exact same
  · dsimp only [State.record]
    rw [network, links, pool]
    exact NodeSide.ext now draining rfl rfl rfl next traffic

theorem endLinkTo_alike (same : s.nodeSide = t.nodeSide) (address : String) :
    (s.endLinkTo address).2.nodeSide = (t.endLinkTo address).2.nodeSide := by
  have pool : s.pool = t.pool := congrArg NodeSide.pool same
  have removed : ({ s with pool := (t.pool.remove address).2 } : State).nodeSide =
      ({ t with pool := (t.pool.remove address).2 } : State).nodeSide :=
    congrArg (fun side : NodeSide => { side with pool := (t.pool.remove address).2 }) same
  unfold State.endLinkTo
  dsimp only
  rw [pool]
  split
  · exact removed
  · exact endLink_alike removed _ .shutdown

/-! ### The way to a link -/

/-- Both came to the same, and nodes cannot tell the states apart. -/
def Alike {α : Type} (first second : α × State) : Prop :=
  first.1 = second.1 ∧ first.2.nodeSide = second.2.nodeSide

theorem openLink_alike (same : s.nodeSide = t.nodeSide) (address : String) :
    Alike (s.openLink g address) (t.openLink g address) := by
  obtain ⟨now, draining, network, links, pool, next, traffic⟩ := NodeSide.mk.inj same
  unfold State.openLink
  dsimp only
  rw [network, next, now, links]
  split
  · exact ⟨rfl, NodeSide.ext rfl draining rfl rfl pool rfl traffic⟩
  · split
    · refine ⟨rfl, endLink_alike ?_ t.nextLink .peerClosed⟩
      exact NodeSide.ext rfl draining rfl rfl pool rfl traffic
    · exact ⟨rfl, NodeSide.ext rfl draining rfl rfl pool rfl traffic⟩

theorem strike_alike (same : s.nodeSide = t.nodeSide) (address : String) (slot : Nat) :
    (s.strike address slot).nodeSide = (t.strike address slot).nodeSide :=
  congrArg (fun side : NodeSide => { side with pool := side.pool.strike address slot }) same

theorem check_alike (same : s.nodeSide = t.nodeSide) (address : String) (slot id : Nat) :
    Alike (s.check address slot id) (t.check address slot id) := by
  unfold State.check
  rw [nodeLink?_alike same]
  split
  · exact ⟨rfl, same⟩
  · exact ⟨rfl, strike_alike same address slot⟩

theorem seek_alike (same : s.nodeSide = t.nodeSide) (address : String) :
    Alike (s.seek g address) (t.seek g address) := by
  have pool : s.pool = t.pool := congrArg NodeSide.pool same
  have entered : ({ s with pool := (t.pool.enter address).2 } : State).nodeSide =
      ({ t with pool := (t.pool.enter address).2 } : State).nodeSide :=
    congrArg (fun side : NodeSide => { side with pool := (t.pool.enter address).2 }) same
  unfold State.seek
  dsimp only
  rw [pool]
  split
  · exact check_alike entered address _ _
  · have opened := openLink_alike (g := g) entered address
    rcases hs : State.openLink g { s with pool := (t.pool.enter address).2 } address with ⟨result, s'⟩
    rcases ht : State.openLink g { t with pool := (t.pool.enter address).2 } address with ⟨result', t'⟩
    rw [hs, ht] at opened
    obtain ⟨rfl, side⟩ := opened
    cases result with
    | error e => exact ⟨rfl, strike_alike side address _⟩
    | ok id =>
      have filled : ({ s' with pool := s'.pool.fill (t.pool.enter address).1.number id } : State).nodeSide =
          ({ t' with pool := t'.pool.fill (t.pool.enter address).1.number id } : State).nodeSide :=
        congrArg (fun side : NodeSide => { side with pool := side.pool.fill (t.pool.enter address).1.number id }) side
      exact check_alike filled address _ id

theorem linkFor_alike (same : s.nodeSide = t.nodeSide) (address : String) (looks : Nat) :
    Alike (s.linkFor g address looks) (t.linkFor g address looks) := by
  induction looks generalizing s t with
  | zero => exact ⟨rfl, same⟩
  | succ looks ih =>
    have draining : s.draining = t.draining := congrArg NodeSide.draining same
    have sought := seek_alike (g := g) same address
    unfold State.linkFor
    rw [draining]
    split
    · exact ⟨rfl, same⟩
    · rcases hs : s.seek g address with ⟨result, s'⟩
      rcases ht : t.seek g address with ⟨result', t'⟩
      rw [hs, ht] at sought
      obtain ⟨rfl, side⟩ := sought
      rcases result with e | _ | id
      · exact ⟨rfl, side⟩
      · exact ih side
      · exact ⟨rfl, side⟩

/-! ### Writing -/

theorem writeNode_alike (same : s.nodeSide = t.nodeSide) (id : Nat) (p : Packet) :
    Alike (s.writeNode g id p) (t.writeNode g id p) := by
  have network : s.network = t.network := congrArg NodeSide.network same
  have now : s.now = t.now := congrArg NodeSide.now same
  unfold State.writeNode
  rw [nodeLink?_alike same, network, now]
  split
  · exact ⟨rfl, same⟩
  rename_i link _
  split
  · exact ⟨rfl, same⟩
  · have noted := updateNodeLink_alike same id fun l => { l with monitor := l.monitor.onOutbound t.now }
    refine ⟨rfl, ?_⟩
    exact congrArg (fun side : NodeSide =>
      { side with traffic := (id, link.address, p) :: side.traffic }) noted

theorem submit_alike (same : s.nodeSide = t.nodeSide) (address : String) (id : Nat) (p : Packet) :
    Alike (s.submit g address id p) (t.submit g address id p) := by
  have written := writeNode_alike (g := g) same id p
  unfold State.submit
  rw [nodeLink?_alike same]
  split
  · exact ⟨rfl, same⟩
  · rcases hs : s.writeNode g id p with ⟨fault, s'⟩
    rcases ht : t.writeNode g id p with ⟨fault', t'⟩
    rw [hs, ht] at written
    obtain ⟨rfl, side⟩ := written
    rcases fault with _ | (_ | _ | _)
    · exact ⟨rfl, side⟩
    · exact ⟨rfl, side⟩
    · exact ⟨rfl, endLink_alike side id _⟩
    · exact ⟨rfl, endLink_alike side id _⟩

theorem forward_alike (same : s.nodeSide = t.nodeSide)
    (namesake : (s.session? h).map (·.id) = (t.session? h).map (·.id)) (address : String)
    (c : ClientPacket) : Alike (s.forward g address h c) (t.forward g address h c) := by
  have linked := linkFor_alike (g := g) same address 2
  unfold State.forward
  cases hs : s.session? h with
  | none =>
    rw [hs, Option.map_none] at namesake
    rw [Option.map_eq_none_iff.mp namesake.symm]
    exact ⟨rfl, same⟩
  | some found =>
    rw [hs, Option.map_some] at namesake
    obtain ⟨found', ht, id⟩ := Option.map_eq_some_iff.mp namesake.symm
    rw [ht]
    dsimp only
    rw [id]
    rcases hl : s.linkFor g address 2 with ⟨link, s₁⟩
    rcases hl' : t.linkFor g address 2 with ⟨link', t₁⟩
    rw [hl, hl'] at linked
    obtain ⟨rfl, side⟩ := linked
    cases link with
    | error e => exact ⟨rfl, side⟩
    | ok link =>
      dsimp only
      -- Each side enters the request among those that wait there, which is not seen from the links.
      generalize (⟨found.id, c.seq.toInt32⟩ : RequestKey) = key
      have requested : ({ s₁ with pending := s₁.pending.insert key }.record (.requested h key)).nodeSide =
          ({ t₁ with pending := t₁.pending.insert key }.record (.requested h key)).nodeSide := side
      have submitted := submit_alike (g := g) requested address link (.node (c.wrap found.id))
      generalize State.submit g ({ s₁ with pending := s₁.pending.insert key }.record
        (.requested h key)) address link (.node (c.wrap found.id)) = first at submitted ⊢
      generalize State.submit g ({ t₁ with pending := t₁.pending.insert key }.record
        (.requested h key)) address link (.node (c.wrap found.id)) = second at submitted ⊢
      obtain ⟨reason, s₂⟩ := first
      obtain ⟨reason', t₂⟩ := second
      obtain ⟨rfl, written⟩ := submitted
      cases reason with
      | none => exact ⟨rfl, written⟩
      | some e => exact ⟨rfl, written⟩

theorem Namesakes.symm (alike : Namesakes s t) : Namesakes t s := fun h => (alike h).symm

theorem Namesakes.trans (first : Namesakes s s') (second : Namesakes s' t) : Namesakes s t :=
  fun h => (first h).trans (second h)

theorem Confined.namesakes (quiet : Quiet s s') : Namesakes s' s :=
  fun h => congrArg (Option.map (·.id)) (quiet.session h id)

theorem forward_namesakes (g : Setup) (s : State) (address : String) (h : Handle) (c : ClientPacket) :
    Namesakes (s.forward g address h c).2 s := by
  intro h'
  cases hs : s.session? h with
  | none =>
    have result : s.forward g address h c = (.error (.unavailable address), s) := by
      simp [State.forward, hs]
    rw [result]
  | some found =>
    rcases forward_cases g hs address c with ⟨_, _, _, _, _, hf, _⟩ | ⟨_, _, _, _, _, _, hf, _⟩ |
      ⟨_, _, _, _, _, _, hf, _⟩ <;> rw [hf]
    · rfl
    · rfl
    · have touched := State.session?_updateSession s h h' (·.touch s.clock)
      refine (congrArg (Option.map (·.id)) touched).trans ?_
      split
      · rw [Option.map_map]
        rfl
      · rfl

/-! ### Two gateways side by side -/

/-- Two gateways at whose links the same happens: the same frame is forwarded at both, the same heartbeat
written, the same heard from a node, the same link lost. Elsewhere each goes its own way, as long as
sessions keep to the same ids. -/
inductive Abreast (g : Setup) : State × State → State × State → Prop where
  | forwards (s t : State) (address : String) (h : Handle) (c : ClientPacket) :
      Abreast g (s, t) ((s.forward g address h c).2, (t.forward g address h c).2)
  | writes (s t : State) (id : Nat) (p : Packet) :
      Abreast g (s, t) ((s.writeNode g id p).2, (t.writeNode g id p).2)
  | relinks (s t : State) (id : Nat) (f : Link → Link) :
      Abreast g (s, t) (s.updateNodeLink id f, t.updateNodeLink id f)
  | ends (s t : State) (id : Nat) (why : Ending) :
      Abreast g (s, t) (s.endLink id why, t.endLink id why)
  | leaves (s t : State) (address : String) :
      Abreast g (s, t) ((s.endLinkTo address).2, (t.endLinkTo address).2)
  | settles (s t : State) : Abreast g (s, t) (s.settle, t.settle)
  | waits (s t : State) (now : Time) : Abreast g (s, t) ({ s with now }, { t with now })
  | rewires (s t : State) (network : Network) :
      Abreast g (s, t) ({ s with network }, { t with network })
  | drains (s t : State) :
      Abreast g (s, t) ({ s with draining := true }, { t with draining := true })
  | elsewhere (s t s' t' : State) : s'.nodeSide = s.nodeSide → t'.nodeSide = t.nodeSide →
      Namesakes s' t' → Abreast g (s, t) (s', t')

structure Indistinct (pair : State × State) : Prop where
  side : pair.1.nodeSide = pair.2.nodeSide
  namesakes : Namesakes pair.1 pair.2

theorem abreast_indistinct {pair pair' : State × State} (alike : Indistinct pair)
    (step : Abreast g pair pair') : Indistinct pair' := by
  obtain ⟨side, namesakes⟩ := alike
  cases step with
  | forwards s t address h c =>
    have kept := (forward_namesakes g s address h c).trans namesakes
    have kept' := kept.trans (forward_namesakes g t address h c).symm
    exact ⟨(forward_alike side (namesakes h) address c).2, kept'⟩
  | writes s t id p =>
    have kept := (writeNode_quiet (g := g) s id p).namesakes.trans namesakes
    exact ⟨(writeNode_alike side id p).2, kept.trans (writeNode_quiet t id p).namesakes.symm⟩
  | relinks s t id f => exact ⟨updateNodeLink_alike side id f, namesakes⟩
  | ends s t id why =>
    have kept := (endLink_quiet s id why).namesakes.trans namesakes
    exact ⟨endLink_alike side id why, kept.trans (endLink_quiet t id why).namesakes.symm⟩
  | leaves s t address =>
    have kept := (endLinkTo_quiet s address).namesakes.trans namesakes
    exact ⟨endLinkTo_alike side address, kept.trans (endLinkTo_quiet t address).namesakes.symm⟩
  | settles s t =>
    exact ⟨congrArg (fun side : NodeSide => { side with pool := side.pool.settle }) side, namesakes⟩
  | waits s t now => exact ⟨congrArg (fun side : NodeSide => { side with now }) side, namesakes⟩
  | rewires s t network =>
    exact ⟨congrArg (fun side : NodeSide => { side with network }) side, namesakes⟩
  | drains s t => exact ⟨congrArg (fun side : NodeSide => { side with draining := true }) side, namesakes⟩
  | elsewhere s t s' t' kept kept' again => exact ⟨kept.trans (side.trans kept'.symm), again⟩

theorem run_indistinct {pair pair' : State × State} (alike : Indistinct pair)
    (run : Relation.ReflTransGen (Abreast g) pair pair') : Indistinct pair' := by
  induction run with
  | refl => exact alike
  | tail _ step ih => exact abreast_indistinct ih step

/-! ### Where a frame goes -/

/-- The address of the node that a frame is for: the node of its session or, if that has none and logs in, the
one that is chosen. -/
def State.target (g : Setup) (s : State) (found : Session) (c : ClientPacket) : Option String :=
  match found.node with
  | some node => s.resolver.address? node
  | none =>
    if c.msgId = g.loginId then
      (s.resolver.choose g.draws g.strategy found.player).1.map (·.2)
    else none

theorem destination_target {session : Session} (hs : s.session? h = some session) (c : ClientPacket) :
    (s.destination g h session c).1 = s.target g session c := by
  unfold State.destination State.target
  by_cases login : c.msgId = g.loginId
  · rw [if_pos login, State.selectNode, hs]
    dsimp only
    cases session.node with
    | some node => rfl
    | none =>
      dsimp only
      rw [if_pos login]
      rcases s.resolver.choose g.draws g.strategy session.player with ⟨_ | ⟨node, address⟩, resolver⟩
      · rfl
      · rfl
  · rw [if_neg login]
    cases session.node with
    | some node => rfl
    | none => exact (if_neg login).symm

theorem forwardTo_some (g : Setup) (s : State) (address : String) (h : Handle) (c : ClientPacket) :
    s.forwardTo g (some address) h c =
      (if (s.forward g address h c).1.isOk then .forwarded address else .forwardFailed,
        (s.forward g address h c).2) := by
  unfold State.forwardTo
  dsimp only
  rcases s.forward g address h c with ⟨_ | _, _⟩ <;> rfl

theorem handle_forwards {found : Session} (hs : s.session? h = some found) {c : ClientPacket}
    (admissible : Admissible g found c) (taken : (found.bucket.take s.clock.bucket).1 = true) :
    ∃ (v : State) (after : Session),
      s.handle g h c = v.forwardTo g (s.target g found c) h c ∧ v.nodeSide = s.nodeSide ∧
      v.ledger = s.ledger ∧ v.session? h = some after := by
  rw [handle_admissible hs admissible, if_pos taken]
  have placed := session?_update_const hs (found.admitted g s.clock c)
  have target := destination_target (g := g) placed c
  have same : (s.updateSession h fun _ => found.admitted g s.clock c).target g (found.admitted g s.clock c) c =
      s.target g found c := by
    rw [Session.admitted_eq]
    rfl
  rw [same] at target
  dsimp only
  rw [target]
  rcases destination_cases (g := g) placed c with result | ⟨_, _, node, _, _, _, result⟩ <;> rw [result]
  · exact ⟨_, _, rfl, rfl, rfl, placed⟩
  · have bound := session?_update_const placed { found.admitted g s.clock c with node := some node }
    exact ⟨_, _, rfl, rfl, ledger_record (by trivial) _, bound⟩

theorem handle_aside {found : Session} (hs : s.session? h = some found) {c : ClientPacket}
    (kept : ¬(Admissible g found c ∧ (found.bucket.take s.clock.bucket).1 = true)) :
    (s.handle g h c).2.nodeSide = s.nodeSide := by
  by_cases admissible : Admissible g found c
  · rw [handle_admissible hs admissible, if_neg fun taken => kept ⟨admissible, taken⟩]
    rfl
  · obtain ⟨⟨request, _⟩ | ⟨_, result⟩ | ⟨_, result⟩, _⟩ := handle_unadmissible hs admissible
    · unfold State.handle State.answerHeartbeat
      rw [hs]
      dsimp only
      rw [if_pos request]
      split <;> rfl
    · rw [result]
      rfl
    · rw [result]
      rfl

/-! ### A gateway beside itself -/

theorem disconnect_side (s : State) (h : Handle) : (s.disconnect h).nodeSide = s.nodeSide := by
  obtain ⟨_, _, left⟩ := s.disconnect_keeps h
  rw [left]
  rfl

theorem endClient_side (s : State) (h : Handle) (why : Ending) :
    (s.endClient h why).nodeSide = s.nodeSide := by
  unfold State.endClient
  split
  · rfl
  · exact disconnect_side s h

theorem reply_side (g : Setup) (s : State) (p : NodePacket) : (s.reply g p).2.nodeSide = s.nodeSide := by
  rcases reply_cases g s p with ⟨_, result⟩ | ⟨_, _, result⟩ |
    ⟨h, session, calls, after, noted, queued, outcome, answered, result⟩ <;> rw [result]
  · rfl
  · rfl
  · have news : nodeTraffic (queued ++ noted ++ s.history) = nodeTraffic s.history := by
      cases answered.queues <;> cases answered.inspects <;> rfl
    exact congrArg (fun traffic => { s.nodeSide with traffic }) news

theorem abreast_aside (same : s'.nodeSide = s.nodeSide) :
    Relation.ReflTransGen (Abreast g) (s, s) (s', s') :=
  .single (.elsewhere s s s' s' same same fun _ => rfl)

theorem receive_abreast (g : Setup) (s : State) (h : Handle) (c : ClientPacket) :
    Relation.ReflTransGen (Abreast g) (s, s) ((s.receive g h c).2, (s.receive g h c).2) := by
  cases hs : s.session? h with
  | none =>
    have result : (s.receive g h c).2 = s := by simp [State.receive, hs]
    rw [result]
  | some found =>
    rw [receive_eq g hs]
    by_cases asks : Admissible g found c ∧ (found.bucket.take s.clock.bucket).1 = true
    · obtain ⟨v, after, result, side, _⟩ := handle_forwards hs asks.1 asks.2
      rw [result]
      cases s.target g found c with
      | none => exact abreast_aside side
      | some address =>
        have forwarded : Abreast g (v, v) ((v.forward g address h c).2, (v.forward g address h c).2) :=
          .forwards v v address h c
        rw [forwardTo_some]
        exact ((abreast_aside side).tail forwarded).trans (abreast_aside rfl)
    · have kept := handle_aside hs asks
      exact abreast_aside kept

/-- Whatever happens to a gateway happens at its links or elsewhere, so nothing is left out of what two
gateways may do side by side. -/
theorem deed_abreast {asked : Handle → SessionCall → Prop} (deed : Deed g asked s s') :
    Relation.ReflTransGen (Abreast g) (s, s) (s', s') := by
  cases deed with
  | moves move =>
    cases move with
    | waits now => exact .single (.waits s s now)
    | rewires network => exact .single (.rewires s s network)
    | drains => exact .single (.drains s s)
    | reads | lists | configures | stops | asks | closes | touches | empties | opens | relinks | shows =>
      exact abreast_aside rfl
    | receives h link c _ _ => exact receive_abreast g s h c
    | ends h link why _ => exact abreast_aside (endClient_side s h why)
    | relinksNode id f => exact .single (.relinks s s id f)
    | replies p _ => exact abreast_aside (reply_side g s p)
    | beats id p _ => exact .single (.writes s s id p)
    | endsNode id why => exact .single (.ends s s id why)
    | leaves address => exact .single (.leaves s s address)
    | settles => exact .single (.settles s s)
  | opens => exact abreast_aside rfl
  | receives h c => exact receive_abreast g s h c
  | replies p => exact abreast_aside (reply_side g s p)
  | disconnects h => exact abreast_aside (disconnect_side s h)

end SessionGateway.Gateway
