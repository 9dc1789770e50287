import SessionGateway.Proofs.Gateway.Deadlines
import SessionGateway.Proofs.Gateway.Rollback
import SessionGateway.Proofs.Gateway.SessionIds

/-! The registry of sessions. A session is listed exactly while its client is connected, under an id
that no other listed session has, and only listed sessions have requests that wait. -/
namespace SessionGateway.Gateway

open Wire Liveness

/-! ### Who is listed and who is connected -/

variable {g : Setup} {asked : Handle → SessionCall → Prop} {s s' : State} {h : Handle}

/-- What the registry and the connections have to do with a session. -/
structure Badge where
  id : SessionId
  listed : Bool
  connected : Bool
  deriving DecidableEq, Repr

def Seat.badge (seat : Seat) : Badge := ⟨seat.session.id, seat.listed, seat.link.isSome⟩

def State.roster (s : State) : List Badge := s.seats.map Seat.badge

def State.Connected (s : State) (h : Handle) (b : Badge) : Prop :=
  s.roster[h]? = some b ∧ b.connected = true

def Badge.gone (b : Badge) : Badge := { b with listed := false, connected := false }

theorem find?_eq_roster (s : State) (id : SessionId) :
    s.find? id = s.roster.findIdx? fun b => b.listed && b.id == id := by
  unfold State.find? State.roster
  rw [List.findIdx?_map]
  rfl

theorem session?_badge {session : Session} (hs : s.session? h = some session) :
    ∃ b, s.roster[h]? = some b ∧ b.id = session.id := by
  obtain ⟨seat, at_h, rfl⟩ := State.session?_eq_some.mp hs
  exact ⟨seat.badge, by simp [State.roster, at_h], rfl⟩

theorem clientLink?_badge :
    (∃ link, s.clientLink? h = some link) ↔ ∃ b, s.Connected h b := by
  unfold State.clientLink? State.Connected State.roster
  rw [List.getElem?_map]
  cases s.seats[h]? with
  | none => simp
  | some seat => simp [Seat.badge, Option.isSome_iff_exists]

theorem roster_session {b : Badge} (at_h : s.roster[h]? = some b) :
    ∃ session, s.session? h = some session ∧ session.id = b.id := by
  unfold State.roster at at_h
  rw [List.getElem?_map] at at_h
  obtain ⟨seat, found, rfl⟩ := Option.map_eq_some_iff.mp at_h
  exact ⟨seat.session, State.session?_eq_some.mpr ⟨seat, found, rfl⟩, rfl⟩

theorem roster_updateSeat {f : Seat → Seat}
    (kept : ∀ seat, s.seats[h]? = some seat → (f seat).badge = seat.badge) :
    (s.updateSeat h f).roster = s.roster := by
  apply List.ext_getElem?
  intro i
  unfold State.roster State.updateSeat
  rw [List.getElem?_map, List.getElem?_map, List.getElem?_modify]
  by_cases hi : h = i
  · subst i
    cases at_h : s.seats[h]? with
    | none => rfl
    | some seat => simp [kept seat at_h]
  · simp [hi]

theorem roster_updateSession {f : Session → Session}
    (kept : ∀ session, s.session? h = some session → (f session).id = session.id) :
    (s.updateSession h f).roster = s.roster := by
  apply roster_updateSeat
  intro seat at_h
  simp [Seat.badge, kept seat.session (State.session?_eq_some.mpr ⟨seat, at_h, rfl⟩)]

theorem roster_setClientLink {old : Link} (connected : s.clientLink? h = some old) (link : Link) :
    (s.setClientLink h link).roster = s.roster := by
  apply roster_updateSeat
  intro seat at_h
  have linked : seat.link = some old := by simpa [State.clientLink?, at_h] using connected
  simp [Seat.badge, linked]

theorem roster_closeSessions (s : State) : s.closeSessions.roster = s.roster := by
  unfold State.roster State.closeSessions
  rw [List.map_map]
  apply List.map_congr_left
  intro seat _
  by_cases hl : seat.listed = true <;> simp [hl, Seat.badge, Session.close]

theorem perform_all_id (clock : SessionClock) (session : Session) (calls : List SessionCall) :
    (calls.foldl (Session.perform clock) session).id = session.id := by
  induction calls generalizing session with
  | nil => rfl
  | cons call calls ih => rw [List.foldl_cons, ih, Session.perform_id]

structure RegistryInvariant (s : State) : Prop where
  listed : ∀ (h : Handle) (b : Badge), s.roster[h]? = some b → b.listed = b.connected
  distinct : ∀ (h h' : Handle) (b b' : Badge), s.Connected h b → s.Connected h' b' →
    b.id = b'.id → h = h'
  waiting : ∀ k ∈ s.pending.keys, ∃ h b, s.Connected h b ∧ b.id = k.session
  next : ∃ m, s.nextSessionId = ordinal m ∧ (s.roster.length ≤ idCount →
    m = s.roster.length ∧ ∀ (h : Handle) (b : Badge), s.roster[h]? = some b → b.id = ordinal h)

theorem RegistryInvariant.find?_iff (inv : RegistryInvariant s) {id : SessionId} :
    s.find? id = some h ↔ ∃ b, s.Connected h b ∧ b.id = id := by
  rw [find?_eq_roster]
  constructor
  · intro found
    obtain ⟨inside, hit, _⟩ := List.findIdx?_eq_some_iff_getElem.mp found
    have at_h := List.getElem?_eq_getElem inside
    simp only [Bool.and_eq_true, beq_iff_eq] at hit
    refine ⟨_, ⟨at_h, ?_⟩, hit.2⟩
    rw [← inv.listed h _ at_h]
    exact hit.1
  · rintro ⟨b, ⟨at_h, connected⟩, rfl⟩
    obtain ⟨inside, rfl⟩ := List.getElem?_eq_some_iff.mp at_h
    apply List.findIdx?_eq_some_iff_getElem.mpr
    refine ⟨inside, by simp [inv.listed h _ at_h, connected], ?_⟩
    intro j hj hit
    simp only [Bool.and_eq_true, beq_iff_eq] at hit
    have at_j := List.getElem?_eq_getElem (Nat.lt_trans hj inside)
    have there : s.roster[j].connected = true := by
      rw [← inv.listed j _ at_j]
      exact hit.1
    exact Nat.ne_of_lt hj (inv.distinct j h _ _ ⟨at_j, there⟩ ⟨at_h, connected⟩ hit.2)

/-- What a move does to the registry: nothing, but for waits of connected sessions; or a client comes; or
one goes, and its waits with it. -/
inductive Registers (s : State) : State → Prop where
  | keeps {s' : State} : s'.roster = s.roster → s'.nextSessionId = s.nextSessionId →
      (∀ k ∈ s'.pending.keys, k ∈ s.pending.keys ∨ ∃ h b, s.Connected h b ∧ b.id = k.session) →
      Registers s s'
  | admits {s' : State} (id next : SessionId) :
      freeId (fun id => (s.find? id).isSome) s.nextSessionId s.sessionCount = (id, next) →
      s.hasFreeId = true → s'.roster = s.roster ++ [⟨id, true, true⟩] → s'.nextSessionId = next →
      s'.pending = s.pending → Registers s s'
  | dismisses {s' : State} (h : Handle) (b : Badge) : s.Connected h b →
      s'.roster = s.roster.modify h Badge.gone → s'.nextSessionId = s.nextSessionId →
      s'.pending = (s.pending.forget b.id).2 → Registers s s'

theorem openSession_registers (peer : Option Text.SocketAddress) (link : Link)
    (room : s.hasFreeId = true) (o : Occurrence) :
    Registers s ((s.openSession g peer (some link)).2.record o) := by
  rcases hf : freeId (fun id => (s.find? id).isSome) s.nextSessionId s.sessionCount with ⟨id, next⟩
  refine .admits id next hf room ?_ ?_ ?_
  · simp [State.openSession, State.record, hf, State.roster, Seat.badge, Session.start]
  · simp [State.openSession, State.record, hf]
  · simp [State.openSession, State.record]

theorem receive_roster {found : Session} (hs : s.session? h = some found) {p : ClientPacket}
    (business : isReserved p.msgId = false) : (s.receive g h p).2.roster = s.roster := by
  obtain ⟨outcome, after, traffic, news, received⟩ := receive_received g hs business
  have seats : (s.receive g h p).2.roster = (s.updateSession h fun _ => after).roster := by
    unfold State.roster
    rw [received.seats]
  rw [seats]
  apply roster_updateSession
  intro session hsession
  obtain rfl : found = session := Option.some.inj (hs.symm.trans hsession)
  rw [received.client]

theorem receive_registers {found : Session} {b : Badge} {p : ClientPacket}
    (hs : s.session? h = some found) (connected : s.Connected h b) (id : b.id = found.id)
    (business : isReserved p.msgId = false) : Registers s (s.receive g h p).2 := by
  obtain ⟨outcome, after, traffic, news, received⟩ := receive_received g hs business
  refine .keeps (receive_roster hs business) received.nextSessionId ?_
  intro k hk
  rcases received.traffic.waiting hk with hk | ⟨rfl, _⟩
  · exact Or.inl hk
  · exact Or.inr ⟨h, b, connected, id⟩

theorem answered_roster {p : NodePacket} {session after : Session} {calls : List SessionCall}
    {noted queued : List Occurrence} {result : Dispatch}
    (answered : Answered g s p h session calls after noted queued result) :
    (s.updateSession h fun _ => after).roster = s.roster := by
  apply roster_updateSession
  intro found hfound
  obtain rfl : session = found := Option.some.inj (answered.waiter.symm.trans hfound)
  have asked := perform_all_id s.clock session calls
  cases answered.queues with
  | queued => exact asked
  | dropped => exact asked

theorem reply_registers (p : NodePacket) : Registers s (s.reply g p).2 := by
  rcases reply_cases g s p with ⟨_, result⟩ | ⟨_, _, result⟩ |
    ⟨h, session, calls, after, noted, queued, outcome, answered, result⟩
  · rw [result]
    exact .keeps rfl rfl fun k hk => Or.inl hk
  · rw [result]
    exact .keeps rfl rfl fun k hk => Or.inl ((Pending.mem_take _ _ _).mp hk).1
  · rw [result]
    exact .keeps (answered_roster answered) rfl fun k hk => Or.inl ((Pending.mem_take _ _ _).mp hk).1

theorem endClient_eq (inv : RegistryInvariant s) {link : Link} (hl : s.clientLink? h = some link)
    (why : Ending) : ∃ seat, s.seats[h]? = some seat ∧ s.Connected h seat.badge ∧
      s.endClient h why = { s with
        seats := s.seats.modify h fun seat =>
          { session := seat.session.close.abandon, listed := false, link := none }
        pending := (s.pending.forget seat.session.id).2
        history := .clientEnded h why :: s.history } := by
  obtain ⟨b, connected⟩ := clientLink?_badge.mp ⟨link, hl⟩
  obtain ⟨seat, at_h, rfl⟩ : ∃ seat, s.seats[h]? = some seat ∧ seat.badge = b := by
    simpa [State.roster] using connected.1
  have hs : s.session? h = some seat.session := State.session?_eq_some.mpr ⟨seat, at_h, rfl⟩
  have roster : (s.updateSession h (·.close)).roster = s.roster :=
    roster_updateSession fun session _ => rfl
  have found : s.find? seat.session.id = some h := inv.find?_iff.mpr ⟨_, connected, rfl⟩
  have closed : { s.updateSession h (·.close) with
      pending := (s.pending.forget seat.session.id).2 }.find? seat.session.id = some h := by
    rw [find?_eq_roster] at found ⊢
    rw [← roster] at found
    exact found
  refine ⟨seat, at_h, connected, ?_⟩
  simp only [State.endClient, hl, State.disconnect, hs, State.unlist]
  have pending : (s.updateSession h (·.close)).pending = s.pending := rfl
  rw [pending, closed]
  simp [State.updateSession, State.updateSeat, State.record, List.modify_modify_eq,
    Function.comp_def]

theorem endClient_registers (inv : RegistryInvariant s) {link : Link} (hl : s.clientLink? h = some link)
    (why : Ending) : Registers s (s.endClient h why) := by
  obtain ⟨seat, at_h, connected, result⟩ := endClient_eq inv hl why
  rw [result]
  refine .dismisses h seat.badge connected ?_ rfl rfl
  apply List.ext_getElem?
  intro i
  simp only [State.roster, List.getElem?_map, List.getElem?_modify]
  by_cases hi : h = i
  · subst i
    simp [at_h, Seat.badge, Badge.gone, Session.close, Session.abandon]
  · simp [hi]

theorem move_registers (inv : RegistryInvariant s) (move : Move g asked s s') : Registers s s' := by
  have same {s' : State} (roster : s'.roster = s.roster) (next : s'.nextSessionId = s.nextSessionId)
      (pending : s'.pending = s.pending) : Registers s s' :=
    .keeps roster next fun k hk => Or.inl (pending ▸ hk)
  cases move with
  | waits | reads | rewires | lists | configures | stops | drains | settles | shows | relinksNode =>
    exact same rfl rfl rfl
  | asks h call =>
    have kept : (s.updateSession h (·.perform s.clock call)).roster = s.roster :=
      roster_updateSession fun session _ => session.perform_id s.clock call
    exact same kept rfl rfl
  | closes => exact same (roster_closeSessions s) rfl rfl
  | touches h => exact same (roster_updateSession fun _ _ => rfl) rfl rfl
  | empties h => exact same (roster_updateSession fun _ _ => rfl) rfl rfl
  | opens peer link room _ => exact openSession_registers peer link room _
  | relinks h old link connected => exact same (roster_setClientLink connected link) rfl rfl
  | receives h link p connected business =>
    obtain ⟨b, hb⟩ := clientLink?_badge.mp ⟨link, connected⟩
    obtain ⟨found, hs, id⟩ := roster_session hb.1
    exact receive_registers hs hb id.symm business
  | ends h link why connected => exact endClient_registers inv connected why
  | replies p _ => exact reply_registers p
  | beats id p _ =>
    rcases writeNode_cases g s id p with ⟨_, _, hw⟩ | ⟨_, hw⟩ | ⟨_, _, _, hw⟩ <;> rw [hw]
    · exact same rfl rfl rfl
    · exact same rfl rfl rfl
    · exact same rfl rfl rfl
  | endsNode id why =>
    obtain ⟨_, rewired, _⟩ := endLink_rewires s id why
    rw [rewired.state]
    exact same rfl rfl rfl
  | leaves address =>
    obtain ⟨_, rewired⟩ := endLinkTo_rewires s address
    rw [rewired.state]
    exact same rfl rfl rfl

/-! ### The invariant -/

theorem connected_of_roster (roster : s'.roster = s.roster) {h : Handle} {b : Badge} :
    s'.Connected h b ↔ s.Connected h b := by
  unfold State.Connected
  rw [roster]

theorem admitted_roster {id : SessionId} (roster : s'.roster = s.roster ++ [⟨id, true, true⟩])
    {h : Handle} {b : Badge} :
    s'.roster[h]? = some b ↔ s.roster[h]? = some b ∨ h = s.roster.length ∧ b = ⟨id, true, true⟩ := by
  rw [roster]
  rcases Nat.lt_trichotomy h s.roster.length with lt | rfl | gt
  · simp [List.getElem?_append_left lt, Nat.ne_of_lt lt]
  · simp [eq_comm]
  · have beyond : 0 < h - s.roster.length := Nat.sub_pos_of_lt gt
    rw [List.getElem?_append_right (Nat.le_of_lt gt), List.getElem?_eq_none (Nat.le_of_lt gt)]
    simp [Nat.ne_of_gt gt, Nat.ne_of_gt beyond]

theorem admitted_connected {id : SessionId} (roster : s'.roster = s.roster ++ [⟨id, true, true⟩])
    {h : Handle} {b : Badge} :
    s'.Connected h b ↔ s.Connected h b ∨ h = s.roster.length ∧ b = ⟨id, true, true⟩ := by
  unfold State.Connected
  rw [admitted_roster roster]
  constructor
  · rintro ⟨at_h | new, linked⟩
    · exact Or.inl ⟨at_h, linked⟩
    · exact Or.inr new
  · rintro (⟨at_h, linked⟩ | ⟨rfl, rfl⟩)
    · exact ⟨Or.inl at_h, linked⟩
    · exact ⟨Or.inr ⟨rfl, rfl⟩, rfl⟩

theorem dismissed_roster {i : Handle} (roster : s'.roster = s.roster.modify i Badge.gone) {h : Handle}
    {b : Badge} : s'.roster[h]? = some b ↔
      ∃ old, s.roster[h]? = some old ∧ b = if i = h then old.gone else old := by
  rw [roster, List.getElem?_modify]
  cases s.roster[h]? with
  | none => simp
  | some old => by_cases hi : i = h <;> simp [hi, eq_comm]

theorem dismissed_connected {i : Handle} (roster : s'.roster = s.roster.modify i Badge.gone)
    {h : Handle} {b : Badge} : s'.Connected h b ↔ s.Connected h b ∧ i ≠ h := by
  unfold State.Connected
  rw [dismissed_roster roster]
  by_cases hi : i = h
  · simp only [hi, if_true, ne_eq, not_true_eq_false, and_false, iff_false]
    rintro ⟨⟨old, _, rfl⟩, connected⟩
    cases connected
  · simp [hi]

theorem free_candidate {m : Nat} (start : s.nextSessionId = ordinal m) (room : s.hasFreeId = true) : ∃ j,
    freeId (fun id => (s.find? id).isSome) s.nextSessionId s.sessionCount =
      (ordinal (m + j), ordinal (m + j + 1)) ∧
    (∀ i < j, (s.find? (ordinal (m + i))).isSome = true) ∧
    (s.find? (ordinal (m + j))).isSome = false := by
  let ids := (s.seats.filter (·.listed)).map (·.session.id)
  have count : ids.length = s.sessionCount := by
    simp [ids, State.sessionCount, List.countP_eq_length_filter]
  have listed : ∀ id, (s.find? id).isSome = true → id ∈ ids := by
    intro id found
    obtain ⟨h, found⟩ := Option.isSome_iff_exists.mp found
    obtain ⟨seat, at_h, on, rfl⟩ := find?_spec found
    exact List.mem_map.mpr ⟨seat, List.mem_filter.mpr ⟨List.mem_of_getElem? at_h, on⟩, rfl⟩
  have few : ids.length < idCount := by
    rw [count]
    simpa [State.hasFreeId] using room
  have free := freeId_free listed few m
  rwa [count, ← start] at free

theorem fresh_unused (inv : RegistryInvariant s) {id next : SessionId}
    (free : freeId (fun id => (s.find? id).isSome) s.nextSessionId s.sessionCount = (id, next))
    (room : s.hasFreeId = true) :
    (∀ h b, s.Connected h b → b.id ≠ id) ∧ ∃ m, next = ordinal (m + 1) ∧ id = ordinal m ∧
      (s.roster.length < idCount → m = s.roster.length) := by
  obtain ⟨m, start, unwrapped⟩ := inv.next
  obtain ⟨j, result, before, unused⟩ := free_candidate start room
  obtain ⟨rfl, rfl⟩ := Prod.mk.injEq .. ▸ free.symm.trans result
  refine ⟨?_, m + j, rfl, rfl, ?_⟩
  · intro h b connected same
    have found := inv.find?_iff.mpr ⟨b, connected, same⟩
    rw [found] at unused
    cases unused
  · intro small
    obtain ⟨rfl, ids⟩ := unwrapped (by omega)
    -- An id that is skipped is in use, yet all ids in use come before the first candidate.
    cases j with
    | zero => rfl
    | succ j =>
      have taken := before 0 (by omega)
      obtain ⟨h, found⟩ := Option.isSome_iff_exists.mp taken
      obtain ⟨b, connected, same⟩ := inv.find?_iff.mp found
      have inside := (List.getElem?_eq_some_iff.mp connected.1).1
      rw [ids h b connected.1] at same
      have := ordinal_inj (by omega) (by omega) same
      omega

theorem registers_preserves_invariant (inv : RegistryInvariant s) (change : Registers s s') :
    RegistryInvariant s' := by
  cases change with
  | keeps roster next pending =>
    refine ⟨?_, ?_, ?_, ?_⟩
    · rw [roster]
      exact inv.listed
    · intro h h' b b' hb hb' same
      rw [connected_of_roster roster] at hb hb'
      exact inv.distinct h h' b b' hb hb' same
    · intro k hk
      simp only [connected_of_roster roster]
      rcases pending k hk with hk | found
      · exact inv.waiting k hk
      · exact found
    · rw [next, roster]
      exact inv.next
  | admits id next free room roster hnext pending =>
    obtain ⟨unused, m, rfl, rfl, unwrapped⟩ := fresh_unused inv free room
    refine ⟨?_, ?_, ?_, ?_⟩
    · intro h b at_h
      rcases (admitted_roster roster).mp at_h with at_h | ⟨rfl, rfl⟩
      · exact inv.listed h b at_h
      · rfl
    · intro h h' b b' hb hb' same
      rw [admitted_connected roster] at hb hb'
      rcases hb with hb | ⟨rfl, rfl⟩ <;> rcases hb' with hb' | ⟨rfl, rfl⟩
      · exact inv.distinct h h' b b' hb hb' same
      · exact absurd same (unused h b hb)
      · exact absurd same.symm (unused h' b' hb')
      · rfl
    · intro k hk
      rw [pending] at hk
      obtain ⟨h, b, hb, id⟩ := inv.waiting k hk
      exact ⟨h, b, (admitted_connected roster).mpr (Or.inl hb), id⟩
    · refine ⟨m + 1, hnext, fun small => ?_⟩
      rw [roster, List.length_append, List.length_singleton] at small ⊢
      have here := unwrapped (by omega)
      refine ⟨by omega, fun h b at_h => ?_⟩
      obtain ⟨_, _, ids⟩ := inv.next
      rw [← roster] at at_h
      rcases (admitted_roster roster).mp at_h with at_h | ⟨rfl, rfl⟩
      · exact (ids (by omega)).2 h b at_h
      · rw [here]
  | dismisses i gone was roster next pending =>
    refine ⟨?_, ?_, ?_, ?_⟩
    · intro h b at_h
      obtain ⟨old, was_h, rfl⟩ := (dismissed_roster roster).mp at_h
      split
      · rfl
      · exact inv.listed h old was_h
    · intro h h' b b' hb hb' same
      rw [dismissed_connected roster] at hb hb'
      exact inv.distinct h h' b b' hb.1 hb'.1 same
    · intro k hk
      rw [pending, Pending.mem_forget] at hk
      obtain ⟨h, b, hb, id⟩ := inv.waiting k hk.1
      refine ⟨h, b, (dismissed_connected roster).mpr ⟨hb, ?_⟩, id⟩
      -- Were its session the one that goes, the wait would have gone with it.
      rintro rfl
      rw [Option.some.inj (was.1.symm.trans hb.1)] at hk
      exact hk.2 id.symm
    · rw [next, roster, List.length_modify]
      obtain ⟨m, start, unwrapped⟩ := inv.next
      refine ⟨m, start, fun small => ⟨(unwrapped small).1, fun h b at_h => ?_⟩⟩
      rw [← roster] at at_h
      obtain ⟨old, was_h, rfl⟩ := (dismissed_roster roster).mp at_h
      have id := (unwrapped small).2 h old was_h
      split
      · exact id
      · exact id

theorem initial_registry (resolver : Selection.Resolver) (clock : SessionClock)
    (network : Network) : RegistryInvariant (State.initial resolver clock network) where
  listed := by simp [State.roster, State.initial]
  distinct := by simp [State.Connected, State.roster, State.initial]
  waiting := by simp [State.initial, Pending.empty]
  next := ⟨0, rfl, fun _ => ⟨rfl, by simp [State.roster, State.initial]⟩⟩

theorem move_preserves_registry (s s' : State) (inv : RegistryInvariant s) (move : Move g asked s s') :
    RegistryInvariant s' :=
  registers_preserves_invariant inv (move_registers inv move)

theorem run_registry (inv : RegistryInvariant s) (events : List Event) :
    RegistryInvariant (s.run g events) :=
  run_invariant_always move_preserves_registry inv events

theorem registers_badge (change : Registers s s') {b : Badge} (at_h : s.roster[h]? = some b) :
    s'.roster[h]? = some b ∨ b.connected = true ∧ s'.roster[h]? = some b.gone := by
  cases change with
  | keeps roster => exact Or.inl (roster ▸ at_h)
  | admits id next _ _ roster => exact Or.inl ((admitted_roster roster).mpr (Or.inl at_h))
  | dismisses i gone was roster =>
    by_cases hi : i = h
    · subst i
      obtain rfl : gone = b := Option.some.inj (was.1.symm.trans at_h)
      exact Or.inr ⟨was.2, (dismissed_roster roster).mpr ⟨gone, at_h, by simp⟩⟩
    · exact Or.inl ((dismissed_roster roster).mpr ⟨b, at_h, by simp [hi]⟩)

theorem registers_id (change : Registers s s') {b : Badge} (at_h : s.roster[h]? = some b) :
    ∃ b', s'.roster[h]? = some b' ∧ b'.id = b.id := by
  rcases registers_badge change at_h with kept | ⟨_, gone⟩
  · exact ⟨b, kept, rfl⟩
  · exact ⟨b.gone, gone, rfl⟩

theorem waiting_connected (inv : RegistryInvariant s) (change : Registers s s') {k : RequestKey}
    (waits : k ∈ s.pending.keys) {b : Badge} (connected : s'.Connected h b) (id : b.id = k.session) :
    s.Connected h b := by
  cases change with
  | keeps roster => exact (connected_of_roster roster).mp connected
  | admits fresh next free room roster =>
    rcases (admitted_roster roster).mp connected.1 with at_h | ⟨_, rfl⟩
    · exact ⟨at_h, connected.2⟩
    · obtain ⟨h', b', connected', id'⟩ := inv.waiting k waits
      exact absurd (id'.trans id.symm) ((fresh_unused inv free room).1 h' b' connected')
  | dismisses i gone was roster => exact ((dismissed_connected roster).mp connected).1

namespace Cramped

def left : State := start.run setup (events ++ [.clientCloses 0])

end Cramped

end SessionGateway.Gateway
