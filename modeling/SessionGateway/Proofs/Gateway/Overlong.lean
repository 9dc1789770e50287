import SessionGateway.Proofs.Gateway.Abreast
import SessionGateway.Proofs.Gateway.Drops
import SessionGateway.Proofs.Gateway.LastClient
import SessionGateway.Proofs.Gateway.Rollback

/-! Frames too long for a node. The header of a node's link is four octets longer than that of a client's, so a
frame that its client was allowed to send may be too long to be passed on. It is refused before an octet of
it is written. The link stays, and from then on everything goes on at the links as if that frame had never
been sent. -/
namespace SessionGateway.Gateway

open Wire Selection

variable {g : Setup} {s : State} {h : Handle} {address : String}

/-! ### Links that are there -/

def State.Opens (g : Setup) (s : State) (address : String) : Prop :=
  Text.isHostPort address = true ∧ g.connectTimeout ≠ 0 ∧ s.network.reach s.nextLink address = .accepting

/-- Whether a frame for an address finds a link to write it on: there is one, or one can be opened. -/
def State.Accepts (g : Setup) (s : State) (address : String) : Prop :=
  (∃ link ∈ s.links, link.address = address) ∨ s.Opens g address

theorem mem_places : address ∈ s.ledger.places ↔ ∃ link ∈ s.links, link.address = address := by
  simp [Ledger.places, State.ledger]

/-- The link that an address is reached by. Nothing is written by opening it. -/
structure Linked (s : State) (address : String) (id : Nat) (u : State) : Prop where
  held : (id, address) ∈ u.ledger.held
  links : ∀ other ∈ s.links, other ∈ u.links
  kept : (∃ link ∈ s.links, link.address = address) → u = s
  traffic : nodeTraffic u.history = nodeTraffic s.history

theorem seek_still (g : Setup) (sound : s.ledger.Sound) (here : address ∈ s.ledger.places) :
    ∃ id, s.seek g address = (.ok (some id), s) ∧ (id, address) ∈ s.ledger.held := by
  have seeks := seek_seeks g sound address
  obtain ⟨same, _, found⟩ := seeks.looks.still sound here
  rcases hk : s.seek g address with ⟨result, t⟩
  rw [hk] at seeks same found
  cases seeks with
  | held id held => exact ⟨id, rfl, held⟩
  | opened => exact absurd (congrArg Ledger.next same) (Nat.succ_ne_self _)
  | dead | failed | flashed => cases found

theorem seek_opens (sound : s.ledger.Sound) (clear : s.pool.slot? address = none) (opens : s.Opens g address) :
    ∃ link u, s.seek g address = (.ok (some link.id), u) ∧ link.address = address ∧
      u.links = s.links ++ [link] ∧ nodeTraffic u.history = nodeTraffic s.history := by
  obtain ⟨valid, inTime, accepting⟩ := opens
  have seeks := seek_seeks g sound address
  rcases hk : s.seek g address with ⟨result, t⟩
  rw [hk] at seeks
  cases seeks with
  | held id held =>
    obtain ⟨_, _, found, _⟩ := sound.slot_of_place (List.mem_map_of_mem held)
    cases clear.symm.trans found
  | dead slot id member =>
    cases clear.symm.trans (Pool.slot?_of_mem sound.placed member)
  | failed e _ met => simp [State.obstacle?, valid, accepting, inTime] at met
  | opened link _ number place => exact ⟨link, _, Prod.ext (by rw [number]) rfl, place, rfl, rfl⟩
  | flashed _ gone => cases accepting.symm.trans gone

theorem strike_clears (sound : s.ledger.Sound) {slot : Slot} (member : (address, slot) ∈ s.pool.slots) :
    (s.strike address slot.number).pool.slot? address = none := by
  refine Pool.slot?_eq_none_iff.mpr fun here => ?_
  obtain ⟨e, left, place⟩ := List.mem_map.mp here
  obtain ⟨there, kept⟩ := List.mem_filter.mp left
  obtain rfl : e = (address, slot) := List.inj_on_of_nodup_map sound.placed there member place
  simp at kept

theorem linkFor_accepting (sound : s.ledger.Sound) (undrained : s.draining = false)
    (accepts : s.Accepts g address) : ∃ id u, s.linkFor g address 2 = (.ok id, u) ∧ Linked s address id u := by
  by_cases here : address ∈ s.ledger.places
  · obtain ⟨id, found, held⟩ := seek_still g sound here
    refine ⟨id, s, ?_, held, fun _ hm => hm, fun _ => rfl, rfl⟩
    simp [State.linkFor, undrained, found]
  have away : ¬∃ link ∈ s.links, link.address = address := fun there => here (mem_places.mpr there)
  have opens : s.Opens g address := accepts.resolve_left away
  have linked {link : NodeLink} {u : State} (place : link.address = address) (links : u.links = s.links ++ [link])
      (traffic : nodeTraffic u.history = nodeTraffic s.history) : Linked s address link.id u := by
    refine ⟨?_, fun other member => ?_, fun there => absurd there away, traffic⟩
    · exact List.mem_map.mpr ⟨link, by simp [links], by rw [place]⟩
    · rw [links]
      exact List.mem_append_left _ member
  cases placed : s.pool.slot? address with
  | none =>
    obtain ⟨link, u, found, place, links, traffic⟩ := seek_opens sound placed opens
    refine ⟨link.id, u, ?_, linked place links traffic⟩
    simp [State.linkFor, undrained, found]
  | some slot =>
    -- The place of a link that ended: the first look strikes it out, and the second opens a link.
    have member := Pool.mem_of_slot? placed
    have seeks := seek_seeks g sound address
    rcases hk : s.seek g address with ⟨result, t⟩
    rw [hk] at seeks
    cases seeks with
    | held id held => exact absurd (List.mem_map_of_mem held) here
    | dead slot id member filled dead =>
      have sound' : (s.strike address slot.number).ledger.Sound := sound.strikes member filled dead
      obtain ⟨link, u, found, place, links, traffic⟩ :=
        seek_opens (s := s.strike address slot.number) sound' (strike_clears sound member) opens
      have undrained' : (s.strike address slot.number).draining = false := undrained
      have later : (s.strike address slot.number).linkFor g address 1 = (.ok link.id, u) := by
        rw [State.linkFor, undrained', found]
        rfl
      refine ⟨link.id, u, ?_, linked place links traffic⟩
      rw [State.linkFor, undrained, hk]
      exact later
    | failed _ clear => cases clear.symm.trans placed
    | opened _ clear => cases clear.symm.trans placed
    | flashed clear => cases clear.symm.trans placed

theorem wrap_takes (g : Setup) (c : ClientPacket) (id : SessionId) :
    g.nodeCodec.Takes (.node (c.wrap id)) ↔ c.body.length + 16 ≤ g.frameLimit := by
  have length : (Packet.node (c.wrap id)).encodedLength = c.body.length + 16 := Nat.add_comm _ _
  have layout : (Packet.node (c.wrap id)).layout = g.nodeCodec.layout := rfl
  rw [Codec.Takes, length, and_iff_right layout]
  rfl

/-! ### Frames that are let in -/

/-- How the forward of a frame ends that found a link, by its length and by what becomes of it on the link. -/
inductive Fares (g : Setup) (u : State) (id : Nat) (c : ClientPacket) : Bool → NodeSide → Prop where
  | taken (side : NodeSide) : c.body.length + 16 ≤ g.frameLimit → u.network.toNode id = .taken →
      Fares g u id c true side
  | refused : g.frameLimit < c.body.length + 16 → u.network.toNode id ≠ .hungUp → Fares g u id c false u.nodeSide
  | broken (why : Ending) :
      u.network.toNode id = .hungUp ∨ c.body.length + 16 ≤ g.frameLimit ∧ u.network.toNode id ≠ .taken →
      Fares g u id c false (u.endLink id why).nodeSide

theorem Fares.sent_iff {u : State} {id : Nat} {c : ClientPacket} {sent : Bool} {side : NodeSide}
    (fares : Fares g u id c sent side) :
    sent = true ↔ c.body.length + 16 ≤ g.frameLimit ∧ u.network.toNode id = .taken := by
  cases fares with
  | taken side fits taken => simp [fits, taken]
  | refused overlong => simp [Nat.not_le.mpr overlong]
  | broken why broken =>
    rcases broken with gone | ⟨fits, failed⟩
    · simp [gone]
    · simp [failed]

theorem endLink_traffic (s : State) (id : Nat) (why : Ending) :
    (s.endLink id why).nodeSide.traffic = s.nodeSide.traffic := by
  unfold State.endLink
  split <;> rfl

theorem endLink_links (s : State) (id : Nat) (why : Ending) : ∀ link ∈ (s.endLink id why).links, link.id ≠ id := by
  intro link member
  unfold State.endLink at member
  split at member
  · rename_i gone
    simpa using List.find?_eq_none.mp gone link member
  · simpa using (List.mem_filter.mp member).2

theorem Fares.traffic {u : State} {id : Nat} {c : ClientPacket} {side : NodeSide}
    (fares : Fares g u id c false side) : side.traffic = nodeTraffic u.history := by
  cases fares with
  | refused => rfl
  | broken why => exact endLink_traffic u id why

theorem Fares.ended {u : State} {id : Nat} {c : ClientPacket} {sent : Bool} {side : NodeSide}
    (fares : Fares g u id c sent side)
    (broken : u.network.toNode id = .hungUp ∨
      c.body.length + 16 ≤ g.frameLimit ∧ u.network.toNode id ≠ .taken) :
    ∀ link ∈ side.links, link.id ≠ id := by
  cases fares with
  | taken side fits taken =>
    rcases broken with gone | ⟨_, failed⟩
    · cases taken.symm.trans gone
    · exact absurd taken failed
  | refused overlong alive =>
    rcases broken with gone | ⟨fits, _⟩
    · exact absurd gone alive
    · exact absurd fits (Nat.not_le.mpr overlong)
  | broken why => exact endLink_links u id why

theorem Fares.kept {u : State} {id : Nat} {c : ClientPacket} {sent : Bool} {side : NodeSide}
    (fares : Fares g u id c sent side) (overlong : g.frameLimit < c.body.length + 16)
    (alive : u.network.toNode id ≠ .hungUp) : side = u.nodeSide := by
  cases fares with
  | taken side fits => exact absurd fits (Nat.not_le.mpr overlong)
  | refused => rfl
  | broken why broken =>
    rcases broken with gone | ⟨fits, _⟩
    · exact absurd gone alive
    · exact absurd fits (Nat.not_le.mpr overlong)

theorem submit_fares {id : Nat} {link : NodeLink} (live : s.nodeLink? id = some link) (address : String)
    (c : ClientPacket) (session : SessionId) :
    Fares g s id c (s.submit g address id (.node (c.wrap session))).1.isNone
      (s.submit g address id (.node (c.wrap session))).2.nodeSide := by
  have fits := wrap_takes g c session
  unfold State.submit State.writeNode
  rw [live]
  dsimp only
  cases met : fault? g.nodeCodec (.node (c.wrap session)) (s.network.toNode id) with
  | none =>
    obtain ⟨taken, takes⟩ := fault?_eq_none_iff.mp met
    exact .taken _ (fits.mp takes) taken
  | some fault =>
    by_cases takes : g.nodeCodec.Takes (.node (c.wrap session))
    · rcases fault?_of_takes takes met with ⟨reason, failed, rfl⟩ | ⟨gone, rfl⟩
      · exact .broken _ (Or.inr ⟨fits.mp takes, by simp [failed]⟩)
      · exact .broken _ (Or.inl gone)
    · have overlong : g.frameLimit < c.body.length + 16 := Nat.lt_of_not_le fun fit => takes (fits.mpr fit)
      rcases fault?_of_not_takes takes met with ⟨there, rfl⟩ | ⟨gone, rfl⟩
      · exact .refused overlong there
      · exact .broken _ (Or.inl gone)

theorem Fares.alike {u u' : State} {id : Nat} {c : ClientPacket} {sent : Bool} {side : NodeSide}
    (fares : Fares g u id c sent side) (same : u.nodeSide = u'.nodeSide) : Fares g u' id c sent side := by
  have network : u.network = u'.network := congrArg NodeSide.network same
  cases fares with
  | taken side fits taken => exact .taken side fits (network ▸ taken)
  | refused overlong there => exact same ▸ .refused overlong (network ▸ there)
  | broken why broken => exact endLink_alike same id why ▸ .broken why (network ▸ broken)

theorem forward_fares {session : Session} (hs : s.session? h = some session) {id : Nat} {u : State}
    (reached : s.linkFor g address 2 = (.ok id, u)) (held : (id, address) ∈ u.ledger.held) (c : ClientPacket) :
    Fares g u id c (s.forward g address h c).1.isOk (s.forward g address h c).2.nodeSide := by
  obtain ⟨link, live⟩ : ∃ link, u.nodeLink? id = some link := by
    refine Option.ne_none_iff_exists'.mp fun gone => ?_
    exact nodeLink?_eq_none_iff.mp gone (List.mem_map_of_mem held)
  unfold State.forward
  rw [hs, reached]
  dsimp only
  generalize (⟨session.id, c.seq.toInt32⟩ : RequestKey) = key
  let asking : State := { u with pending := u.pending.insert key }.record (.requested h key)
  have same : asking.nodeSide = u.nodeSide := rfl
  have fares := (submit_fares (g := g) (s := asking) live address c session.id).alike same
  simp only [asking] at fares
  rcases hw : State.submit g _ address id (.node (c.wrap session.id)) with ⟨_ | e, w⟩ <;> rw [hw] at fares <;>
    exact fares

section

variable {found : Session} (sound : s.ledger.Sound) (undrained : s.draining = false)
  (hs : s.session? h = some found) {c : ClientPacket} (admissible : Admissible g found c)
  (taken : (found.bucket.take s.clock.bucket).1 = true)
  (target : s.target g found c = some address) (accepts : s.Accepts g address)

include sound undrained hs admissible taken target accepts

theorem receive_fares : ∃ id u sent, s.linkFor g address 2 = (.ok id, u) ∧ Linked s address id u ∧
    (s.receive g h c).1 = (if sent then .forwarded address else .forwardFailed) ∧
    Fares g u id c sent (s.receive g h c).2.nodeSide := by
  obtain ⟨v, after, result, side, ledger, placed⟩ := handle_forwards hs admissible taken
  obtain ⟨id, u, reached, linked⟩ := linkFor_accepting sound undrained accepts
  obtain ⟨same, alike⟩ := linkFor_alike (g := g) side address 2
  rcases reached' : v.linkFor g address 2 with ⟨id', u'⟩
  rw [reached, reached'] at same alike
  obtain rfl : id' = .ok id := same
  have sound' : v.ledger.Sound := ledger ▸ sound
  have reaches := linkFor_reaches g address 2 sound'
  rw [reached'] at reaches
  have held : (id, address) ∈ u'.ledger.held := reaches.found rfl
  have fares := (forward_fares placed reached' held c).alike alike
  rw [target, forwardTo_some] at result
  rw [receive_eq g hs, result]
  exact ⟨id, u, _, reached, linked, rfl, fares⟩

end

theorem receive_keeps {found : Session} (hs : s.session? h = some found) {c : ClientPacket}
    (business : isReserved c.msgId = false) :
    (∀ h', (s.receive g h c).2.clientLink? h' = s.clientLink? h') ∧ Namesakes (s.receive g h c).2 s ∧
      ∃ left, (s.receive g h c).2.session? h = some left ∧ left.cancelled = found.cancelled := by
  obtain ⟨_, after, _, _, received⟩ := receive_received g hs business
  have same := received.client
  refine ⟨fun h' => ?_, fun h' => ?_, after, ?_, ?_⟩
  · have links := State.clientLink?_updateSession s h h' fun _ => after
    unfold State.clientLink? at links ⊢
    rw [received.seats]
    exact links
  · rw [received.session?_eq hs]
    split
    · rename_i here
      rw [← here, hs, same]
      rfl
    · rfl
  · rw [received.session?_eq hs, if_pos rfl]
  · rw [same]

/-- In every state that a gateway can get to, with its links not drained, which they are not while anyone is
connected: a frame that is let in and whose node accepts frames comes to a link of that node. It is forwarded if
and only if its body and the sixteen octets of the longer header fit the limit and the link takes what is
written on it; else it fails, and no node is given it. If the connection breaks under it the link ends. A frame
that is too long does not break it: the link stays, in its place in the table, and no other is lost; no client
loses its connection, and the session is not told to end. If the link was there before, nothing is different at
the links; if not, it was opened and nothing else was done. From then on every frame of every session is
forwarded, and reaches the nodes, as at a gateway that opened the link and was never sent that frame, as long as
the same happens at the links of both. -/
theorem overlong_frame_refused (g : Setup) (resolver : Resolver) (clock : SessionClock)
    (network : Network) :
    let start := State.initial resolver clock network
    (∀ events h link, (start.run g events).clientLink? h = some link →
      (start.run g events).draining = false) ∧
    ∀ s, Reachable g start s → s.draining = false →
    ∀ h found, s.session? h = some found →
    ∀ c, Admissible g found c → (found.bucket.take s.clock.bucket).1 = true →
    ∀ address, s.target g found c = some address → s.Accepts g address →
      let outcome := (s.receive g h c).1
      let t := (s.receive g h c).2
      ∃ id u, s.linkFor g address 2 = (.ok id, u) ∧
      (∃ link ∈ u.links, link.id = id ∧ link.address = address) ∧
      outcome = (if c.body.length + 16 ≤ g.frameLimit ∧ s.network.toNode id = .taken then .forwarded address
        else .forwardFailed) ∧
      (outcome = .forwardFailed → nodeTraffic t.history = nodeTraffic s.history) ∧
      (s.network.toNode id = .hungUp ∨ c.body.length + 16 ≤ g.frameLimit ∧ s.network.toNode id ≠ .taken →
        ∀ link ∈ t.links, link.id ≠ id) ∧
      (g.frameLimit < c.body.length + 16 → s.network.toNode id ≠ .hungUp →
        (∃ link ∈ t.links, link.id = id ∧ link.address = address) ∧
        (∃ slot, t.pool.slot? address = some slot ∧ slot.link = some id) ∧ (∀ link ∈ s.links, link ∈ t.links) ∧
        (∀ h', t.clientLink? h' = s.clientLink? h') ∧
        (∃ left, t.session? h = some left ∧ left.cancelled = found.cancelled) ∧
        ((∃ link ∈ s.links, link.address = address) → u = s) ∧
        ∀ u' t', Relation.ReflTransGen (Abreast g) (u, t) (u', t') →
          ∀ address' h' c',
            (t'.forward g address' h' c').1 = (u'.forward g address' h' c').1 ∧
            (t'.forward g address' h' c').2.nodeSide = (u'.forward g address' h' c').2.nodeSide) := by
  intro start
  refine ⟨?_, ?_⟩
  · intro events h link connected
    exact (run_attended (initial_attended resolver clock network) events).undrained connected
  · intro s reachable undrained h found hs c admissible taken address target accepts outcome t
    have sound := reachable_ledger reachable
    obtain ⟨id, u, sent, reached, linked, decided, fares⟩ :=
      receive_fares sound undrained hs admissible taken target accepts
    have there : ∃ link ∈ u.links, link.id = id ∧ link.address = address := by
      simpa [State.ledger] using linked.held
    obtain ⟨news, rewired⟩ := linkFor_rewires g address 2 s
    rw [reached] at rewired
    have network : u.network = s.network := (congrArg State.network rewired.state :)
    rw [← network]
    refine ⟨id, u, reached, there, ?_, ?_, ?_, ?_⟩
    · exact decided.trans (if_congr fares.sent_iff rfl rfl)
    · intro failed
      have unsent : sent = false := by
        cases sent with
        | false => rfl
        | true => cases failed.symm.trans decided
      subst unsent
      exact fares.traffic.trans linked.traffic
    · exact fares.ended
    · intro overlong alive
      have side : t.nodeSide = u.nodeSide := fares.kept overlong alive
      have links : t.links = u.links := congrArg NodeSide.links side
      have pool : t.pool = u.pool := congrArg NodeSide.pool side
      obtain ⟨clients, ids, cancelled⟩ := receive_keeps (g := g) hs admissible.1
      have sound' : u.ledger.Sound := by
        have steps := (linkFor_reaches g address 2 sound).steps
        rw [reached] at steps
        exact steps.sound sound
      obtain ⟨slot, member, filled⟩ := sound'.pooled _ linked.held
      rw [links, pool]
      refine ⟨there, ⟨slot, Pool.slot?_of_mem sound'.placed member, filled⟩, linked.links, clients, cancelled,
        linked.kept, ?_⟩
      intro u' t' path address' h' c'
      have namesakes : Namesakes u s := rewired.quiet.namesakes
      have alike : Indistinct (u, t) := ⟨side.symm, namesakes.trans ids.symm⟩
      obtain ⟨side', namesakes'⟩ := run_indistinct alike path
      exact forward_alike side'.symm (namesakes' h').symm address' c'

theorem overlong_login_refused :
    let fitting := Cramped.request 5 48
    let overlong := Cramped.request 5 52
    let left := (Cramped.waiting.receive Cramped.setup 0 overlong).2
    Reachable Cramped.setup Cramped.start Cramped.waiting ∧ Cramped.waiting.draining = false ∧
    Cramped.setup.clientCodec.Takes (.client overlong) ∧
    (Cramped.waiting.receive Cramped.setup 0 fitting).1 = .forwarded "n:1" ∧
    (Cramped.waiting.receive Cramped.setup 0 overlong).1 = .forwardFailed ∧
    nodeTraffic left.history = nodeTraffic Cramped.waiting.history ∧
    (∀ link ∈ Cramped.waiting.links, link ∈ left.links) ∧
    ∀ address h c, (left.forward Cramped.setup address h c).1 =
      (Cramped.waiting.forward Cramped.setup address h c).1 := by
  intro fitting overlong left
  have reachable : Reachable Cramped.setup Cramped.start Cramped.waiting :=
    Reachable.start.moves (run_moves _ _ fun _ _ _ => trivial)
  have undrained : Cramped.waiting.draining = false := by decide +kernel
  have seen : (Cramped.waiting.session? 0).map (fun found =>
      ((found.bucket.take Cramped.waiting.clock.bucket).1, found.node)) = some (true, some "a") := by
    decide +kernel
  obtain ⟨found, hs, facts⟩ := Option.map_eq_some_iff.mp seen
  obtain ⟨taken, bound⟩ := Prod.mk.inj facts
  have address : Cramped.waiting.resolver.address? "a" = some "n:1" := by decide +kernel
  have target (c : ClientPacket) : Cramped.waiting.target Cramped.setup found c = some "n:1" := by
    rw [State.target, bound]
    exact address
  have login (c : ClientPacket) (id : c.msgId = Cramped.setup.loginId) : Admissible Cramped.setup found c := by
    refine ⟨?_, Or.inl id⟩
    rw [id]
    rfl
  have held : ∃ link ∈ Cramped.waiting.links, link.address = "n:1" := by
    have places : "n:1" ∈ Cramped.waiting.ledger.places := by decide +kernel
    exact mem_places.mp places
  have first : (Cramped.waiting.linkFor Cramped.setup "n:1" 2).1.toOption = some 1 := by decide +kernel
  have takes : Cramped.waiting.network.toNode 1 = .taken := by decide +kernel
  obtain ⟨_, refused⟩ := overlong_frame_refused Cramped.setup _ _ _
  obtain ⟨id, u, reached, _, sent, _, _, _⟩ := refused _ reachable undrained 0 found hs fitting (login _ rfl)
    taken "n:1" (target _) (Or.inl held)
  obtain ⟨id', u', reached', _, unsent, traffic, _, kept⟩ := refused _ reachable undrained 0 found hs overlong
    (login _ rfl) taken "n:1" (target _) (Or.inl held)
  rw [reached] at first
  obtain rfl : id = 1 := Option.some.inj first
  obtain ⟨number, rfl⟩ := Prod.mk.inj (reached.symm.trans reached')
  obtain rfl : 1 = id' := Except.ok.inj number
  have failed := unsent.trans (if_neg (by decide))
  obtain ⟨_, _, links, _, _, same, later⟩ := kept (by decide) (by rw [takes]; decide)
  refine ⟨reachable, undrained, by decide, sent.trans (if_pos ⟨by decide, takes⟩), failed, traffic failed, links,
    fun address h c => ?_⟩
  have alike := (later _ _ .refl address h c).1
  rw [same held] at alike
  exact alike

end SessionGateway.Gateway
