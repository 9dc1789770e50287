import SessionGateway.Proofs.Gateway.Admittance
import SessionGateway.Proofs.Gateway.Housing
import SessionGateway.Proofs.Gateway.LinkLedger

/-! What a frame that is dropped leaves behind. The later it is dropped, the more was done for it: a token was
taken, a login begun, a node chosen, a request entered and struck out again. Whatever comes after the step at
which it is dropped is not done. -/
namespace SessionGateway.Gateway

open Wire Selection Admission

variable {g : Setup} {asked : Handle → SessionCall → Prop} {s s' : State} {h : Handle}

/-! ### Sound buckets -/

theorem deed_sound (sound : ∀ b, s.bucket? h = some b → b.Sound) (deed : Deed g asked s s') :
    ∀ b, s'.bucket? h = some b → b.Sound := by
  intro b hb
  cases deed_accounts h deed with
  | spares bucket => exact sound b (bucket.symm.trans hb)
  | opens _ full =>
    obtain rfl := Option.some.inj (full.symm.trans hb)
    exact TokenBucket.full_sound g.rate s.clock.bucket
  | asks call =>
    obtain ⟨after, hafter, rfl⟩ := Option.map_eq_some_iff.mp hb
    rw [State.session?_updateSession, if_pos rfl] at hafter
    obtain ⟨found, hs, rfl⟩ := Option.map_eq_some_iff.mp hafter
    have before := sound _ (State.bucket?_eq hs)
    rw [perform_bucket]
    split
    · exact before.take s.clock.bucket
    · exact before
  | receives c =>
    cases hs : s.session? h with
    | none =>
      have same : (s.receive g h c).2 = s := by simp [State.receive, hs]
      rw [same] at hb
      exact sound b hb
    | some found =>
      have before := sound _ (State.bucket?_eq hs)
      rw [receive_eq g hs] at hb
      by_cases admissible : Admissible g found c
      · obtain rfl := Option.some.inj ((handle_charged hs admissible).2.symm.trans hb)
        exact before.take s.clock.bucket
      · obtain rfl := Option.some.inj ((handle_uncharged hs admissible).2.symm.trans hb)
        exact before
  | replies p =>
    obtain ⟨_, same | ⟨found, calls, _, hs, _, _, bucket⟩⟩ := reply_accounts g h p
    · exact sound b (same.symm.trans hb)
    · obtain rfl := Option.some.inj (bucket.symm.trans hb)
      exact (sound _ (State.bucket?_eq hs)).takeUpTo s.clock.bucket _

theorem reachable_sound {resolver : Resolver} {clock : SessionClock} {network : Network}
    (reachable : Reachable g (.initial resolver clock network) s) {session : Session}
    (hs : s.session? h = some session) : session.bucket.Sound := by
  have path := reachable_deeds reachable
  have sound : ∀ b, s.bucket? h = some b → b.Sound := by
    clear reachable hs
    induction path with
    | refl =>
      intro b hb
      cases hb
    | tail _ deed ih => exact deed_sound ih deed
  exact sound _ (State.bucket?_eq hs)

/-! ### Sound links -/

theorem receive_ledger (g : Setup) (sound : s.ledger.Sound) (h : Handle) (c : ClientPacket) :
    (s.receive g h c).2.ledger.Sound := by
  cases hs : s.session? h with
  | none =>
    have same : (s.receive g h c).2 = s := by simp [State.receive, hs]
    rwa [same]
  | some found =>
    cases reserved : isReserved c.msgId with
    | false => exact (receive_steps g sound hs reserved).sound sound
    | true =>
      have kept : (s.receive g h c).2.ledger = s.ledger := by
        rw [receive_eq g hs]
        refine (ledger_record (by trivial) _).trans ?_
        simp only [isReserved, Bool.or_eq_true, beq_iff_eq] at reserved
        unfold State.handle State.answerHeartbeat
        rw [hs]
        dsimp only
        split
        · split <;> rfl
        · rw [if_pos (reserved.resolve_left ‹_›)]
          rfl
      rwa [kept]

theorem deed_ledger (sound : s.ledger.Sound) (deed : Deed g asked s s') : s'.ledger.Sound := by
  cases deed with
  | moves move => exact (move_steps sound move).sound sound
  | opens => exact sound
  | receives h c => exact receive_ledger g sound h c
  | replies p => rwa [reply_ledger]
  | disconnects h => rwa [disconnect_ledger]

theorem reachable_ledger {resolver : Resolver} {clock : SessionClock} {network : Network}
    (reachable : Reachable g (.initial resolver clock network) s) : s.ledger.Sound := by
  have deeds := reachable_deeds reachable
  clear reachable
  induction deeds with
  | refl => exact initial_sound resolver clock network
  | tail _ deed ih => exact deed_ledger ih deed

/-! ### Where a frame is dropped -/

theorem admissible_of_handled {found : Session} (hs : s.session? h = some found) {c : ClientPacket}
    (dropped : (s.handle g h c).1 = .noNode ∨ (s.handle g h c).1 = .forwardFailed) :
    Admissible g found c ∧ (found.bucket.take s.clock.bucket).1 = true := by
  by_cases admissible : Admissible g found c
  · refine ⟨admissible, ?_⟩
    rw [handle_admissible hs admissible] at dropped
    cases taken : (found.bucket.take s.clock.bucket).1 with
    | true => rfl
    | false => simp [taken] at dropped
  · obtain ⟨⟨_, outcome⟩ | ⟨outcome, _⟩ | ⟨outcome, _⟩, _⟩ := handle_unadmissible hs admissible <;>
      simp [outcome] at dropped

theorem forwardTo_outcome (g : Setup) (s : State) (address : Option String) (h : Handle)
    (c : ClientPacket) : (s.forwardTo g address h c).1 = .noNode ∨
      (s.forwardTo g address h c).1 = .forwardFailed ∨
      ∃ place, (s.forwardTo g address h c).1 = .forwarded place := by
  unfold State.forwardTo
  cases address with
  | none => exact Or.inl rfl
  | some address =>
    dsimp only
    rcases s.forward g address h c with ⟨_ | _, _⟩
    · exact Or.inr (Or.inl rfl)
    · exact Or.inr (Or.inr ⟨address, rfl⟩)

theorem handle_idle {found : Session} (hs : s.session? h = some found) {c : ClientPacket}
    (dropped : (s.handle g h c).1 = .unauthenticated ∨ (s.handle g h c).1 = .heartbeatIgnored) :
    (s.handle g h c).2 = s.updateSession h fun _ => found.touch s.clock := by
  have touched := State.updateSession_const hs (·.touch s.clock)
  by_cases admissible : Admissible g found c
  · exfalso
    rw [handle_admissible hs admissible] at dropped
    split at dropped
    · generalize (s.updateSession h fun _ => found.admitted g s.clock c).destination g h
        (found.admitted g s.clock c) c = sent at dropped
      rcases forwardTo_outcome g sent.2 sent.1 h c with outcome | outcome | ⟨place, outcome⟩ <;>
        simp [outcome] at dropped
    · simp at dropped
  · obtain ⟨⟨_, outcome⟩ | ⟨_, result⟩ | ⟨_, result⟩, _⟩ := handle_unadmissible hs admissible
    · simp [outcome] at dropped
    · exact result.trans touched
    · exact result.trans touched

theorem handle_rateLimited {found : Session} (hs : s.session? h = some found) {c : ClientPacket}
    (dropped : (s.handle g h c).1 = .rateLimited) : (found.bucket.take s.clock.bucket).1 = false ∧
      (s.handle g h c).2 = s.updateSession h fun _ => found.charged s.clock := by
  by_cases admissible : Admissible g found c
  · have empty := (handle_charged hs admissible).1.mp dropped
    refine ⟨empty, ?_⟩
    rw [handle_admissible hs admissible, empty]
    rfl
  · exact absurd dropped (handle_uncharged hs admissible).1

theorem handle_noNode {found : Session} (hs : s.session? h = some found) {c : ClientPacket}
    (dropped : (s.handle g h c).1 = .noNode) : (found.bucket.take s.clock.bucket).1 = true ∧
      (s.handle g h c).2 = s.updateSession h fun _ => found.admitted g s.clock c := by
  obtain ⟨admissible, taken⟩ := admissible_of_handled hs (Or.inl dropped)
  refine ⟨taken, ?_⟩
  rw [handle_admissible hs admissible, if_pos taken] at dropped ⊢
  have placed := session?_update_const hs (found.admitted g s.clock c)
  generalize found.admitted g s.clock c = admitted at placed dropped ⊢
  rcases destination_cases (g := g) placed c with result | ⟨_, _, node, address, _, _, result⟩ <;>
    rw [result] at dropped ⊢
  · rw [forwardTo_noNode_iff] at dropped
    rw [dropped]
    rfl
  · rw [forwardTo_noNode_iff] at dropped
    cases dropped

/-- A forward to an address failed. Links to that address came and went, and of what waits the key of the request
is struck out if it had been entered. -/
structure Strays (s : State) (h : Handle) (key : RequestKey) (address : String) (news : List Occurrence)
    (t : State) : Prop where
  state : t = { s with
    nextLink := t.nextLink, links := t.links, pool := t.pool, pending := t.pending, history := news ++ s.history }
  keys : ∀ k, k ∈ t.pending.keys ↔ k ∈ s.pending.keys ∧ ¬(k = key ∧ .requested h key ∈ news)
  around : Around address 2 s news t
  news : ∀ o ∈ news, o = .requested h key ∨ o.place? = some address

theorem place_of_atLinks {o : Occurrence} (atLinks : o.AtLinks) : ∃ place, o.place? = some place := by
  cases o <;> first | exact ⟨_, rfl⟩ | exact atLinks.elim

theorem Around.placed {address : String} {attempts : Nat} {t : State} {news : List Occurrence}
    (around : Around address attempts s news t) {o : Occurrence} (member : o ∈ news) (atLinks : o.AtLinks) :
    o.place? = some address := by
  obtain ⟨place, found⟩ := place_of_atLinks atLinks
  rw [found, around.places o member place found]

theorem forward_strays (sound : s.ledger.Sound) {session : Session} (hs : s.session? h = some session)
    {address : String} {c : ClientPacket} {e : ForwardError} (failed : (s.forward g address h c).1 = .error e) :
    ∃ news, Strays s h ⟨session.id, c.seq.toInt32⟩ address news (s.forward g address h c).2 := by
  obtain ⟨news, around⟩ := forward_around g sound address h c failed
  have history := around.history
  rcases forward_cases g hs address c with ⟨_, _, _, _, opened, hf, _, links⟩ |
    ⟨_, _, _, _, opened, ended, hf, _, links, named⟩ | ⟨_, _, _, _, _, _, hf, _⟩ <;>
    rw [hf] at failed history around ⊢
  · obtain rfl := List.append_cancel_right history
    refine ⟨opened, rfl, fun k => ?_, around, fun o member => Or.inr (around.placed member (links o member))⟩
    have early : Occurrence.requested h ⟨session.id, c.seq.toInt32⟩ ∉ opened := fun member => links _ member
    simp [early]
  · obtain rfl := List.append_cancel_right history
    refine ⟨_, rfl, fun k => ?_, around, fun o member => ?_⟩
    · have entered : Occurrence.requested h ⟨session.id, c.seq.toInt32⟩ ∈
          ended ++ [Occurrence.requested h ⟨session.id, c.seq.toInt32⟩] ++ opened := by simp
      rw [and_iff_left entered]
      exact Pending.mem_insert_take _ _ _
    rcases List.mem_append.mp member with late | early
    · rcases List.mem_append.mp late with last | asked
      · obtain ⟨link, place, why, rfl⟩ := named o last
        exact Or.inr (around.placed member trivial)
      · exact Or.inl (List.mem_singleton.mp asked)
    · exact Or.inr (around.placed member (links o early))
  · cases failed

theorem forwardTo_strays (sound : s.ledger.Sound) {session : Session} (hs : s.session? h = some session)
    {address : Option String} {c : ClientPacket} (dropped : (s.forwardTo g address h c).1 = .forwardFailed) :
    ∃ place news, address = some place ∧
      Strays s h ⟨session.id, c.seq.toInt32⟩ place news (s.forwardTo g address h c).2 := by
  unfold State.forwardTo at dropped ⊢
  cases address with
  | none => cases dropped
  | some address =>
    have strays := @forward_strays g s h sound session hs address c
    dsimp only at dropped ⊢
    rcases hf : s.forward g address h c with ⟨e | _, t⟩ <;> rw [hf] at dropped strays
    · obtain ⟨news, strays⟩ := strays rfl
      exact ⟨address, news, rfl, strays⟩
    · cases dropped

/-- Where a frame goes that is let in: to the node of its session or, if that has none and logs in, to the one that
is chosen for it, which may take a turn. -/
inductive Destined (g : Setup) (s : State) (h : Handle) (found : Session) (c : ClientPacket) :
    (node : Option String) → (rotation : Rotation) → (address : String) → (news : List Occurrence) → Prop where
  | known {address : String} : found.node.bind s.resolver.address? = some address →
      Destined g s h found c found.node s.resolver.rotation address []
  | chosen {node address : String} {rotation : Rotation} : c.msgId = g.loginId → found.node = none →
      s.resolver.choose g.draws g.strategy found.player =
        (some (node, address), { s.resolver with rotation }) →
      Destined g s h found c (some node) rotation address [.bound h node]

theorem Destined.bound {found : Session} {c : ClientPacket} {node : Option String} {rotation : Rotation}
    {address : String} {news : List Occurrence} (destined : Destined g s h found c node rotation address news) :
    ∀ o ∈ news, ∃ chosen, o = .bound h chosen := by
  cases destined with
  | known => simp
  | chosen => simp

theorem handle_forwardFailed (sound : s.ledger.Sound) {found : Session} (hs : s.session? h = some found)
    {c : ClientPacket} (dropped : (s.handle g h c).1 = .forwardFailed) :
    (found.bucket.take s.clock.bucket).1 = true ∧
      ∃ node rotation address bound news,
        Destined g s h found c node rotation address bound ∧
        Strays { s.updateSession h (fun _ => { found.admitted g s.clock c with node }) with
            resolver := { s.resolver with rotation }, history := bound ++ s.history }
          h ⟨found.id, c.seq.toInt32⟩ address news (s.handle g h c).2 := by
  obtain ⟨admissible, taken⟩ := admissible_of_handled hs (Or.inr dropped)
  refine ⟨taken, ?_⟩
  rw [handle_admissible hs admissible, if_pos taken] at dropped ⊢
  have placed := session?_update_const hs (found.admitted g s.clock c)
  have unbound : (found.admitted g s.clock c).node = found.node := by rw [Session.admitted_eq]; rfl
  have named : (found.admitted g s.clock c).id = found.id := by rw [Session.admitted_eq]; rfl
  have player : (found.admitted g s.clock c).player = found.player := by rw [Session.admitted_eq]; rfl
  generalize found.admitted g s.clock c = admitted at placed unbound named player dropped ⊢
  rw [← named]
  have sound' : (s.updateSession h fun _ => admitted).ledger.Sound := sound
  rcases destination_cases (g := g) placed c with result |
    ⟨login, none, node, address, rotation, choice, result⟩ <;> rw [result] at dropped ⊢
  · obtain ⟨place, news, destined, strays⟩ := forwardTo_strays sound' placed dropped
    rw [unbound] at destined
    exact ⟨found.node, s.resolver.rotation, place, [], news, .known destined, unbound ▸ strays⟩
  · let chosen : State := ({ s.updateSession h (fun _ => admitted) with
        resolver := { s.resolver with rotation } }.updateSession h fun _ =>
          { admitted with node := some node }).record (.bound h node)
    have bound : chosen.session? h = some { admitted with node := some node } :=
      session?_update_const (s := { s.updateSession h (fun _ => admitted) with
        resolver := { s.resolver with rotation } }) placed _
    have sound'' : chosen.ledger.Sound := by
      have same : chosen.ledger = s.ledger := ledger_record (by trivial) _
      rwa [same]
    obtain ⟨place, news, destined, strays⟩ := forwardTo_strays sound'' bound dropped
    obtain rfl := Option.some.inj destined
    rw [player] at choice
    have state : chosen = { s.updateSession h (fun _ => { admitted with node := some node }) with
        resolver := { s.resolver with rotation }, history := [.bound h node] ++ s.history } := by
      simp [chosen, State.updateSession, State.updateSeat, State.record, List.modify_modify_eq, Function.comp_def]
    refine ⟨some node, rotation, address, [.bound h node], news, ?_, ?_⟩
    · exact .chosen login (unbound.symm.trans none) choice
    · rw [← state]
      exact strays

/-- What the frame of a session does that is dropped, in every state that a gateway can get to. A frame that
nobody was to have, or one too many, changes the time of the last activity and nothing else, not even the
number of tokens at that instant. One for which there is no node also costs a token, and if it is a login
begins one, unless the session is closed. One that cannot be forwarded may besides bind a session that had
no node, if it is a login, to the one that was chosen. Links to the address of that node may come and go, for
which there is one at most when the frame comes, with two attempts to open one, and of the requests that wait
its own key is struck out if it was entered. No request is left entered, no other link is touched, and no node
gets a frame. -/
theorem dropped_frame_leaves (g : Setup) (resolver : Resolver) (clock : SessionClock)
    (network : Network) (s : State)
    (reachable : Reachable g (.initial resolver clock network) s) (h : Handle) (found : Session)
    (hs : s.session? h = some found) (c : ClientPacket) :
    let outcome := (s.receive g h c).1
    let left := (s.receive g h c).2
    let now := s.clock.bucket
    let bucket := (found.bucket.take now).2
    let begun := if c.msgId = g.loginId ∧ found.phase ≠ .closed then .authenticating else found.phase
    let dropped : Occurrence := .handled h found c outcome
    let key : RequestKey := ⟨found.id, c.seq.toInt32⟩
    (outcome = .unauthenticated ∨ outcome = .heartbeatIgnored →
      left = (s.updateSession h fun _ => found.touch s.clock).record dropped) ∧
    (outcome = .rateLimited → bucket.tokensAt now = found.bucket.tokensAt now ∧
      left = (s.updateSession h fun _ => { found.touch s.clock with bucket }).record dropped) ∧
    (outcome = .noNode → bucket.tokensAt now = found.bucket.tokensAt now - 1 ∧
      left = (s.updateSession h fun _ =>
        { found.touch s.clock with bucket, phase := begun }).record dropped) ∧
    (outcome = .forwardFailed → bucket.tokensAt now = found.bucket.tokensAt now - 1 ∧
      ∃ node rotation address bound news,
        Destined g s h found c node rotation address bound ∧
        left = { s.updateSession h (fun _ =>
            { found.touch s.clock with bucket, node, phase := begun }) with
          resolver := { s.resolver with rotation }, nextLink := left.nextLink, links := left.links
          pool := left.pool, pending := left.pending, history := dropped :: (news ++ bound ++ s.history) } ∧
        (∀ k, k ∈ left.pending.keys ↔ k ∈ s.pending.keys ∧ ¬(k = key ∧ .requested h key ∈ news)) ∧
        (s.links.map (·.address)).Nodup ∧ Around address 2 s (dropped :: (news ++ bound)) left ∧
        (∀ o ∈ news, o = .requested h key ∨ o.place? = some address) ∧
        nodeFrames left.history = nodeFrames s.history) := by
  have sound := reachable_sound reachable hs
  have links := reachable_ledger reachable
  have tokens := sound.tokensAt_take s.clock.bucket
  rw [receive_eq g hs]
  dsimp only
  refine ⟨?_, ?_, ?_, ?_⟩
  · intro dropped
    rw [handle_idle hs dropped]
  · intro dropped
    obtain ⟨empty, result⟩ := handle_rateLimited hs dropped
    rw [empty] at tokens
    exact ⟨tokens, by rw [result]; rfl⟩
  · intro dropped
    obtain ⟨taken, result⟩ := handle_noNode hs dropped
    rw [if_pos taken] at tokens
    exact ⟨tokens, by rw [result, Session.admitted_eq]⟩
  · intro dropped
    obtain ⟨taken, node, rotation, address, bound, news, destined, strays⟩ := handle_forwardFailed links hs dropped
    rw [if_pos taken] at tokens
    generalize (s.handle g h c).1 = outcome, (s.handle g h c).2 = t at strays
    have alone := links.alone
    rw [Ledger.places, State.ledger, List.map_map] at alone
    have placeless : ∀ o ∈ bound, o.place? = none := by
      intro o member
      obtain ⟨chosen, rfl⟩ := destined.bound o member
      rfl
    have around : Around address (0 + 2) s (news ++ bound) t := by
      refine .trans ?_ strays.around
      exact around_of_unplaced address rfl placeless rfl rfl rfl
    have handled : Around address 0 t [.handled h found c outcome] (t.record (.handled h found c outcome)) :=
      around_of_unplaced address rfl (by simp [Occurrence.place?]) rfl rfl rfl
    have unrelated : ∀ o ∈ news ++ bound, o.Unrelated := by
      intro o member
      rcases List.mem_append.mp member with late | early
      · rcases strays.news o late with rfl | here
        · trivial
        · cases o <;> trivial
      · obtain ⟨chosen, rfl⟩ := destined.bound o early
        trivial
    have frames : nodeFrames t.history = nodeFrames s.history := by
      rw [around.history]
      exact (frames_unrelated unrelated s.history).1
    refine ⟨tokens, node, rotation, address, bound, news, destined, ?_, strays.keys, alone, around.trans handled,
      strays.news, frames⟩
    rw [strays.state, Session.admitted_eq]
    simp [State.record]

namespace Stranded

/-! A client logs in while there is no node, and again when there is one that cannot be reached. -/

def start : State := .initial Guarded.resolver ⟨0, 0⟩ (.steady fun _ => .refusing)

def alone : State := start.run Guarded.setup [.clientConnects none]

def misled : State := alone.run Guarded.setup [.addNode "a" "n:1"]

end Stranded

theorem stranded_login_dropped :
    let unplaced := (Stranded.alone.receive Guarded.setup 0 Guarded.login).2
    let placed := (Stranded.misled.receive Guarded.setup 0 Guarded.login).2
    Reachable Guarded.setup Stranded.start Stranded.alone ∧
    Reachable Guarded.setup Stranded.start Stranded.misled ∧
    (∃ left, unplaced.session? 0 = some left ∧ left.phase = .authenticating ∧ left.node = none ∧
      left.bucket.tokensAt 0 = 49) ∧
    unplaced.pending = Stranded.alone.pending ∧ unplaced.pool = Stranded.alone.pool ∧
    unplaced.resolver = Stranded.alone.resolver ∧
    (∃ left, placed.session? 0 = some left ∧ left.bucket.tokensAt 0 = 49) ∧
    nodeFrames placed.history = [] := by
  intro unplaced placed
  have alone : Reachable Guarded.setup Stranded.start Stranded.alone :=
    Reachable.start.moves (run_moves _ _ fun _ _ _ => trivial)
  have misled : Reachable Guarded.setup Stranded.start Stranded.misled :=
    alone.moves (run_moves _ _ fun _ _ _ => trivial)
  have seen : (Stranded.alone.session? 0).map (fun found => (found.phase, found.node,
      found.bucket.tokensAt 0)) = some (.connected, none, 50) := by decide +kernel
  have seen' : (Stranded.misled.session? 0).map (·.bucket.tokensAt 0) = some 50 := by decide +kernel
  obtain ⟨found, hs, facts⟩ := Option.map_eq_some_iff.mp seen
  obtain ⟨found', hs', full⟩ := Option.map_eq_some_iff.mp seen'
  simp only [Prod.mk.injEq] at facts
  obtain ⟨_, _, dropped, _⟩ := dropped_frame_leaves Guarded.setup _ _ _ _ alone 0 found hs Guarded.login
  obtain ⟨_, _, _, dropped'⟩ := dropped_frame_leaves Guarded.setup _ _ _ _ misled 0 found' hs' Guarded.login
  obtain ⟨tokens, left⟩ := dropped (by decide +kernel)
  obtain ⟨tokens', _, _, _, _, _, _, left', _, _, _, _, frames⟩ := dropped' (by decide +kernel)
  have now : Stranded.alone.clock.bucket = 0 := by decide +kernel
  have now' : Stranded.misled.clock.bucket = 0 := by decide +kernel
  rw [now] at tokens left
  rw [now'] at tokens' left'
  have begun : Guarded.login.msgId = Guarded.setup.loginId ∧ found.phase ≠ .closed :=
    ⟨rfl, by simp [facts.1]⟩
  rw [if_pos begun] at left
  have kept : placed.session? 0 = _ := congrArg (·.session? 0) left'
  simp only [unplaced, left]
  refine ⟨alone, misled, ⟨_, session?_update_const hs _, rfl, facts.2.1, ?_⟩, rfl, rfl, rfl,
    ⟨_, kept.trans (session?_update_const hs' _), ?_⟩, ?_⟩
  · exact tokens.trans (by rw [facts.2.2]; norm_num)
  · exact tokens'.trans (by rw [full]; norm_num)
  · exact frames.trans (by decide +kernel)

end SessionGateway.Gateway
