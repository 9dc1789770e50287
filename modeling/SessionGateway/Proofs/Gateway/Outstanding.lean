import SessionGateway.Proofs.Gateway.Deliveries

/-! Requests that are outstanding. A forwarded request waits until its reply is read, its session goes or
makes a request under the same number again, whatever happens besides. So the first reply that is read
finds its session. -/
namespace SessionGateway.Gateway

open Wire Liveness

variable {g : Setup} {asked : Handle → SessionCall → Prop} {s s' : State} {h : Handle} {k : RequestKey}
  {b : Badge}

/-- What settles a request of the session at `h`: the session's client goes, another request is entered
under its key, or a reply under its key is read. -/
def Occurrence.Settles (h : Handle) (k : RequestKey) : Occurrence → Prop
  | .clientEnded h' _ => h' = h
  | .requested h' k' => h' = h ∧ k' = k
  | .dispatched p _ => (⟨p.session, p.seq⟩ : RequestKey) = k
  | _ => False

/-- A frame of the session at `h` was forwarded under this key, and nothing settled the request since. -/
def Outstanding (h : Handle) (k : RequestKey) (history : List Occurrence) : Prop :=
  ∃ later found c address earlier,
    history = later ++ .handled h found c (.forwarded address) :: earlier ∧
    (⟨found.id, c.seq.toInt32⟩ : RequestKey) = k ∧ ∀ o ∈ later, ¬o.Settles h k

theorem outstanding_append {news history : List Occurrence} (out : Outstanding h k (news ++ history)) :
    (Outstanding h k history ∧ ∀ o ∈ news, ¬o.Settles h k) ∨
      ∃ found c address, .handled h found c (.forwarded address) ∈ news ∧
        (⟨found.id, c.seq.toInt32⟩ : RequestKey) = k := by
  obtain ⟨later, found, c, address, earlier, split, key, unsettled⟩ := out
  rcases List.append_eq_append_iff.mp split with ⟨more, rfl, rest⟩ | ⟨more, rfl, rest⟩
  · left
    refine ⟨⟨more, found, c, address, earlier, rest, key, ?_⟩, ?_⟩
    · exact fun o member => unsettled o (List.mem_append_right news member)
    · exact fun o member => unsettled o (List.mem_append_left more member)
  · cases more with
    | nil =>
      left
      rw [List.append_nil]
      exact ⟨⟨[], found, c, address, earlier, rest.symm, key, by simp⟩, unsettled⟩
    | cons o more =>
      right
      obtain ⟨rfl, _⟩ := List.cons.inj rest
      exact ⟨found, c, address, by simp, key⟩

/-! ### Waiting -/

/-- What happened between two states, for requests that wait: they wait on unless something settles them,
and a request that was forwarded waits. -/
structure Heeds (news : List Occurrence) (s s' : State) : Prop where
  history : s'.history = news ++ s.history
  waits : ∀ h b k, s.Connected h b → b.id = k.session → k ∈ s.pending.keys →
    (∀ o ∈ news, ¬o.Settles h k) → s'.Connected h b ∧ k ∈ s'.pending.keys
  forwards : ∀ h found c address, .handled h found c (.forwarded address) ∈ news →
    (⟨found.id, c.seq.toInt32⟩ : RequestKey) ∈ s'.pending.keys ∧ ∃ b, s'.Connected h b ∧ b.id = found.id

def Occurrence.Unhandled : Occurrence → Prop
  | .handled _ _ _ _ => False
  | _ => True

theorem Occurrence.AtLinks.unhandled {o : Occurrence} (atLinks : o.AtLinks) : o.Unhandled := by
  cases o <;> trivial

theorem Occurrence.AtWork.unhandled {o : Occurrence} (atWork : o.AtWork) : o.Unhandled := by
  cases o <;> trivial

theorem heeds_of_same (news : List Occurrence) (history : s'.history = news ++ s.history)
    (unhandled : ∀ o ∈ news, o.Unhandled) (roster : s'.roster = s.roster)
    (pending : s'.pending = s.pending) : Heeds news s s' where
  history
  waits := by
    intro h b k connected _ waits _
    exact ⟨(connected_of_roster roster).mpr connected, pending ▸ waits⟩
  forwards := fun _ _ _ _ member => (unhandled _ member).elim

theorem Rewired.heeds {news : List Occurrence} (rewired : Rewired s news s') : Heeds news s s' := by
  rw [rewired.state]
  exact heeds_of_same news rfl (fun o member => (rewired.news o member).unhandled) rfl rfl

theorem receive_heeds (inv : RegistryInvariant s) {found : Session} (hs : s.session? h = some found)
    (connected : s.Connected h b) (id : b.id = found.id) {c : ClientPacket}
    (business : isReserved c.msgId = false) : ∃ news, Heeds news s (s.receive g h c).2 := by
  obtain ⟨outcome, after, traffic, news, received⟩ := receive_received g hs business
  have roster := receive_roster (g := g) hs business
  refine ⟨.handled h found c outcome :: (traffic ++ news), ?_, ?_, ?_⟩
  · rw [received.history, List.cons_append, List.append_assoc]
  · intro h' b' k connected' id' waits unsettled
    refine ⟨(connected_of_roster roster).mpr connected', ?_⟩
    -- A request that is refused takes its own key away, and the key may have been in use.
    have other {key : RequestKey} (entered : .requested h key ∈ traffic) (owner : key.session = found.id) :
        k ≠ key := by
      rintro rfl
      obtain rfl := inv.distinct h' h b' b connected' connected (id'.trans (owner.trans id.symm))
      exact unsettled (.requested h' k) (by simp [entered]) ⟨rfl, rfl⟩
    have entered := received.traffic
    generalize (s.receive g h c).2.pending = pending at entered
    cases entered with
    | unasked => exact waits
    | refused => exact (Pending.mem_insert_take _ _ _).mpr ⟨waits, other (by simp) rfl⟩
    | sent => exact (Pending.mem_insert _ _ _).mpr (Or.inr waits)
  · intro h' found' c' address member
    simp only [List.mem_cons, List.mem_append] at member
    rcases member with same | member | member
    · obtain ⟨rfl, rfl, rfl, rfl⟩ := Occurrence.handled.injEq .. ▸ same
      refine ⟨?_, b, (connected_of_roster roster).mpr connected, id⟩
      have entered := received.traffic
      generalize (s.receive g h' c').2.pending = pending at entered
      cases entered with
      | unasked _ unsent => exact absurd rfl (unsent address)
      | sent => exact (Pending.mem_insert _ _ _).mpr (Or.inl rfl)
    · rcases received.traffic.recorded member with same | ⟨_, _, same⟩ | ⟨_, _, _, same⟩ <;> cases same
    · exact (received.news _ member).elim

theorem reply_roster (g : Setup) (s : State) (p : NodePacket) : (s.reply g p).2.roster = s.roster := by
  rcases reply_cases g s p with ⟨_, result⟩ | ⟨_, _, result⟩ |
    ⟨h, session, calls, after, noted, queued, outcome, answered, result⟩
  · rw [result]
    rfl
  · rw [result]
    rfl
  · rw [result]
    exact answered_roster answered

theorem reply_pending (g : Setup) (s : State) (p : NodePacket) :
    (s.reply g p).2.pending = (s.pending.take ⟨p.session, p.seq⟩).2 := by
  rcases reply_cases g s p with ⟨absent, result⟩ | ⟨_, _, result⟩ | ⟨_, _, _, _, _, _, _, _, result⟩
  · rw [result, Pending.take_of_not_mem absent]
    rfl
  · rw [result]
  · rw [result]

theorem reply_heeds (g : Setup) (s : State) (p : NodePacket) : ∃ news, Heeds news s (s.reply g p).2 := by
  have recorded : ∃ news, (s.reply g p).2.history = news ++ s.history ∧
      (∀ o ∈ news, o.Unhandled) ∧ ∃ result, .dispatched p result ∈ news := by
    rcases reply_cases g s p with ⟨_, result⟩ | ⟨_, _, result⟩ |
      ⟨h, session, calls, after, noted, queued, outcome, answered, result⟩ <;> rw [result]
    · exact ⟨[.dispatched p .noPending], rfl, by simp [Occurrence.Unhandled], _, List.mem_cons_self⟩
    · exact ⟨[.dispatched p .sessionGone], rfl, by simp [Occurrence.Unhandled], _, List.mem_cons_self⟩
    · refine ⟨.dispatched p outcome :: (queued ++ noted), by simp, ?_, _, List.mem_cons_self⟩
      cases answered.queues <;> cases answered.inspects <;> simp [Occurrence.Unhandled]
  obtain ⟨news, history, unhandled, outcome, dispatched⟩ := recorded
  refine ⟨news, history, ?_, fun _ _ _ _ member => (unhandled _ member).elim⟩
  intro h b k connected _ waits unsettled
  refine ⟨(connected_of_roster (reply_roster g s p)).mpr connected, ?_⟩
  rw [reply_pending, Pending.mem_take]
  refine ⟨waits, ?_⟩
  rintro rfl
  exact unsettled _ dispatched rfl

theorem endClient_heeds (inv : RegistryInvariant s) {link : Link} (connected : s.clientLink? h = some link)
    (why : Ending) : Heeds [.clientEnded h why] s (s.endClient h why) := by
  obtain ⟨seat, at_h, here, result⟩ := endClient_eq inv connected why
  rw [result]
  refine ⟨rfl, ?_, by simp⟩
  intro h' b k connected' id waits unsettled
  have other : ¬h = h' := by
    rintro rfl
    exact unsettled _ List.mem_cons_self rfl
  constructor
  · refine ⟨?_, connected'.2⟩
    rw [← connected'.1]
    simp [State.roster, other]
  · refine (Pending.mem_forget _ _ _).mpr ⟨waits, ?_⟩
    intro same
    exact other (inv.distinct h h' seat.badge b here connected' (same.symm.trans id.symm))

theorem move_heeds (inv : RegistryInvariant s) (move : Move g asked s s') : ∃ news, Heeds news s s' := by
  cases move with
  | waits | reads | rewires | lists | configures | stops | drains | settles | relinksNode =>
    exact ⟨[], heeds_of_same [] rfl (by simp) rfl rfl⟩
  | shows h link p _ => exact ⟨[_], heeds_of_same [_] rfl (by simp [Occurrence.Unhandled]) rfl rfl⟩
  | asks h call =>
    have kept : (s.updateSession h (·.perform s.clock call)).roster = s.roster :=
      roster_updateSession fun session _ => session.perform_id s.clock call
    exact ⟨[], heeds_of_same [] rfl (by simp) kept rfl⟩
  | closes => exact ⟨[], heeds_of_same [] rfl (by simp) (roster_closeSessions s) rfl⟩
  | touches h => exact ⟨[], heeds_of_same [] rfl (by simp) (roster_updateSession fun _ _ => rfl) rfl⟩
  | empties h => exact ⟨[], heeds_of_same [] rfl (by simp) (roster_updateSession fun _ _ => rfl) rfl⟩
  | relinks h old link connected =>
    exact ⟨[], heeds_of_same [] rfl (by simp) (roster_setClientLink connected link) rfl⟩
  | opens peer link room _ =>
    refine ⟨[.clientOpened s.seats.length], rfl, ?_, by simp⟩
    intro h b k connected _ waits _
    refine ⟨⟨?_, connected.2⟩, waits⟩
    have inside := (List.getElem?_eq_some_iff.mp connected.1).1
    rw [← connected.1]
    simp only [State.roster, State.record, State.openSession, List.map_append] at inside ⊢
    exact List.getElem?_append_left inside
  | receives h link c connected business =>
    obtain ⟨b, hb⟩ := clientLink?_badge.mp ⟨link, connected⟩
    obtain ⟨found, hs, id⟩ := roster_session hb.1
    exact receive_heeds inv hs hb id.symm business
  | ends h link why connected => exact ⟨_, endClient_heeds inv connected why⟩
  | replies p _ => exact reply_heeds g s p
  | beats id p _ =>
    obtain ⟨news, worked⟩ := writeNode_worked g s id p
    rw [worked.state]
    exact ⟨news, heeds_of_same news rfl (fun o member => (worked.news o member).unhandled) rfl rfl⟩
  | endsNode id why =>
    obtain ⟨_, rewired, _⟩ := endLink_rewires s id why
    exact ⟨_, rewired.heeds⟩
  | leaves address =>
    obtain ⟨_, rewired⟩ := endLinkTo_rewires s address
    exact ⟨_, rewired.heeds⟩

/-- Whoever has a request outstanding is connected, and the request waits. -/
structure OutstandingInvariant (s : State) : Prop where
  registry : RegistryInvariant s
  waits : ∀ h k, Outstanding h k s.history →
    k ∈ s.pending.keys ∧ ∃ b, s.Connected h b ∧ b.id = k.session

theorem move_preserves_outstanding (s s' : State) (inv : OutstandingInvariant s) (move : Move g asked s s') :
    OutstandingInvariant s' := by
  refine ⟨move_preserves_registry s s' inv.registry move, ?_⟩
  intro h k out
  obtain ⟨news, heeds⟩ := move_heeds inv.registry move
  rw [heeds.history] at out
  rcases outstanding_append out with ⟨before, unsettled⟩ | ⟨found, c, address, member, rfl⟩
  · obtain ⟨waits, b, connected, id⟩ := inv.waits h k before
    obtain ⟨still, waiting⟩ := heeds.waits h b k connected id waits unsettled
    exact ⟨waiting, b, still, id⟩
  · exact heeds.forwards h found c address member

theorem initial_outstanding (resolver : Selection.Resolver) (clock : SessionClock)
    (network : Network) : OutstandingInvariant (State.initial resolver clock network) where
  registry := initial_registry resolver clock network
  waits := by
    rintro h k ⟨later, found, c, address, earlier, split, _⟩
    cases later <;> cases split

/-! ### Reading -/

/-- A frame that is dispatched as a reply under this key. -/
def RequestKey.AnsweredBy (k : RequestKey) : Packet → Prop
  | .node p => isReserved p.msgId = false ∧ (⟨p.session, p.seq⟩ : RequestKey) = k
  | _ => False

/-- A reply under a number was shown to the interceptor for the session at `h`, or queued for it. -/
def Occurrence.Concerns (h : Handle) (q : Int32) : Occurrence → Prop
  | .inspected h' p _ | .delivered h' p => h' = h ∧ p.seq = q
  | _ => False

theorem Occurrence.AtWork.unconcerned {o : Occurrence} (atWork : o.AtWork) (h : Handle) (q : Int32) :
    ¬o.Concerns h q := by
  intro concerns
  cases o <;> trivial

/-- How often a reply under a number was shown to the interceptor for a session. -/
def inspections (h : Handle) (q : Int32) (history : List Occurrence) : Nat :=
  history.countP fun
    | .inspected h' p _ => h' == h && p.seq == q
    | _ => false

theorem counts_unconcerned {q : Int32} {news : List Occurrence} (unconcerned : ∀ o ∈ news, ¬o.Concerns h q)
    (history : List Occurrence) : inspections h q (news ++ history) = inspections h q history ∧
      replies h q (news ++ history) = replies h q history := by
  have none : inspections h q news = 0 ∧ replies h q news = 0 := by
    constructor <;> refine List.countP_eq_zero.mpr fun o member counted => ?_ <;>
      have := unconcerned o member <;> cases o <;> simp_all [Occurrence.Concerns]
  constructor
  · rw [inspections, List.countP_append, ← inspections, ← inspections, none.1, Nat.zero_add]
  · rw [replies_append, none.2, Nat.zero_add]

theorem reply_other (inv : RegistryInvariant s) (connected : s.Connected h b) (id : b.id = k.session)
    {p : NodePacket} (other : (⟨p.session, p.seq⟩ : RequestKey) ≠ k ∨ k ∉ s.pending.keys) :
    (k ∈ (s.reply g p).2.pending.keys ↔ k ∈ s.pending.keys) ∧
      ∃ news, (s.reply g p).2.history = news ++ s.history ∧ ∀ o ∈ news, ¬o.Concerns h k.seq := by
  constructor
  · rw [reply_pending, Pending.mem_take]
    constructor
    · exact And.left
    · intro waits
      exact ⟨waits, fun same => other.elim (fun different => different same.symm) fun absent => absent waits⟩
  · rcases reply_cases g s p with ⟨_, result⟩ | ⟨_, _, result⟩ |
      ⟨h', session, calls, after, noted, queued, outcome, answered, result⟩ <;> rw [result]
    · exact ⟨[_], rfl, by simp [Occurrence.Concerns]⟩
    · exact ⟨[_], rfl, by simp [Occurrence.Concerns]⟩
    · refine ⟨.dispatched p outcome :: (queued ++ noted), by simp, ?_⟩
      have apart : h' = h → ¬p.seq = k.seq := by
        rintro rfl number
        obtain ⟨b', connected', id'⟩ := inv.find?_iff.mp answered.found
        obtain rfl : b = b' := Option.some.inj (connected.1.symm.trans connected'.1)
        have same : (⟨p.session, p.seq⟩ : RequestKey) = k := by rw [← id', id, number]
        exact other.elim (fun different => different same) fun absent => absent (same ▸ answered.waiting)
      cases answered.queues <;> cases answered.inspects <;>
        simp +contextual [Occurrence.Concerns, apart]

/-- What frames of a node leave of a request that they do not answer, or that waits no longer. -/
structure Spares (g : Setup) (h : Handle) (b : Badge) (k : RequestKey) (s s' : State) : Prop where
  registry : RegistryInvariant s'
  connected : s'.Connected h b
  waits : k ∈ s'.pending.keys ↔ k ∈ s.pending.keys
  spoken : ∃ news, Spoken g news s s' ∧ ∀ o ∈ news, ¬o.Concerns h k.seq

theorem registry_of_links (inv : RegistryInvariant s) (links : List NodeLink) (pool : Pool)
    (history : List Occurrence) : RegistryInvariant { s with links, pool, history } :=
  registers_preserves_invariant inv (.keeps rfl rfl fun _ => Or.inl)

theorem nodeFrame_spares (inv : RegistryInvariant s) (connected : s.Connected h b) (owner : b.id = k.session)
    (id : Nat) {p : Packet} (takes : g.nodeCodec.Takes p) (other : ¬k.AnsweredBy p ∨ k ∉ s.pending.keys) :
    Spares g h b k s (s.nodeFrame g id p) := by
  rcases nodeFrame_cases g s id p with ⟨news, worked⟩ | ⟨q, links, rfl, business, result⟩
  · have spoken : Spoken g news s (s.nodeFrame g id p) := worked.spoken
    rw [worked.state] at spoken ⊢
    exact ⟨registry_of_links inv _ _ _, connected, Iff.rfl, news, spoken,
      fun o member => (worked.news o member).unconcerned h k.seq⟩
  · have inv₀ : RegistryInvariant { s with links } := registry_of_links inv links _ _
    have other₀ : (⟨q.session, q.seq⟩ : RequestKey) ≠ k ∨ k ∉ s.pending.keys :=
      other.imp_left fun unanswered same => unanswered ⟨business, same⟩
    obtain ⟨waits, news, history, unconcerned⟩ :=
      reply_other (g := g) inv₀ (h := h) (b := b) connected owner other₀
    obtain ⟨news', spoken⟩ := reply_spoken g { s with links } takes
    obtain rfl : news = news' := List.append_cancel_right (history.symm.trans spoken.history)
    rw [result]
    exact ⟨registers_preserves_invariant inv₀ (reply_registers q),
      (connected_of_roster (reply_roster g _ q)).mpr connected, waits, news,
      ⟨spoken.history, spoken.record, spoken.link, spoken.session⟩, unconcerned⟩

theorem nodeFrames_spare (inv : RegistryInvariant s) (connected : s.Connected h b) (owner : b.id = k.session)
    (id : Nat) (packets : List Packet) (taken : ∀ p ∈ packets, g.nodeCodec.Takes p)
    (other : (∀ p ∈ packets, ¬k.AnsweredBy p) ∨ k ∉ s.pending.keys) :
    Spares g h b k s (packets.foldl (State.nodeFrame g id) s) := by
  induction packets generalizing s with
  | nil => exact ⟨inv, connected, Iff.rfl, [], .refl g s, by simp⟩
  | cons p packets ih =>
    have first := nodeFrame_spares (g := g) inv connected owner id (taken p List.mem_cons_self)
      (other.imp_left fun unanswered => unanswered p List.mem_cons_self)
    have rest := ih first.registry first.connected (fun q hq => taken q (List.mem_cons_of_mem p hq))
      (other.imp (fun unanswered q hq => unanswered q (List.mem_cons_of_mem p hq))
        fun absent => mt first.waits.mp absent)
    obtain ⟨news, spoken, unconcerned⟩ := first.spoken
    obtain ⟨later, spoken', unconcerned'⟩ := rest.spoken
    refine ⟨rest.registry, rest.connected, rest.waits.trans first.waits, _, spoken.trans spoken', ?_⟩
    intro o member
    rcases List.mem_append.mp member with member | member
    · exact unconcerned' o member
    · exact unconcerned o member

theorem reply_waiting (g : Setup) (inv : RegistryInvariant s) (connected : s.Connected h b)
    {p : NodePacket} (owner : b.id = p.session) (waits : (⟨p.session, p.seq⟩ : RequestKey) ∈ s.pending.keys) :
    ∃ session calls after noted queued result,
      Answered g s p h session calls after noted queued result ∧ (s.reply g p).2 =
        { s.updateSession h (fun _ => after) with
          pending := (s.pending.take ⟨p.session, p.seq⟩).2
          history := .dispatched p result :: (queued ++ noted ++ s.history) } := by
  have found : s.find? p.session = some h := inv.find?_iff.mpr ⟨b, connected, owner⟩
  rcases reply_cases g s p with ⟨absent, _⟩ | ⟨_, gone, _⟩ |
    ⟨h', session, calls, after, noted, queued, outcome, answered, result⟩
  · exact absurd waits absent
  · cases found.symm.trans gone
  · obtain rfl : h = h' := Option.some.inj (found.symm.trans answered.found)
    exact ⟨session, calls, after, noted, queued, outcome, answered, result⟩

/-- Whether a frame that is sent to the session is queued. -/
def Session.HasRoom (session : Session) : Prop :=
  session.isActive = true ∧ session.queue.length < session.capacity

instance (session : Session) : Decidable session.HasRoom := inferInstanceAs (Decidable (_ ∧ _))

theorem answered_counts {p : NodePacket} {session after : Session} {calls : List SessionCall}
    {noted queued : List Occurrence} {result : Dispatch}
    (answered : Answered g s p h session calls after noted queued result) (history : List Occurrence) :
    inspections h p.seq (.dispatched p result :: (queued ++ noted ++ history)) =
        inspections h p.seq history + (if g.interceptor.isSome then 1 else 0) ∧
      replies h p.seq (.dispatched p result :: (queued ++ noted ++ history)) =
        replies h p.seq history +
          (if (calls.foldl (Session.perform s.clock) session).HasRoom then 1 else 0) := by
  have shown : inspections h p.seq (noted ++ history) =
        inspections h p.seq history + (if g.interceptor.isSome then 1 else 0) ∧
      replies h p.seq (noted ++ history) = replies h p.seq history := by
    cases answered.inspects with
    | unseen none => simp [none]
    | seen interceptor asks => simp [inspections, replies, asks]
  cases answered.queues with
  | queued active room =>
    have hasRoom : (calls.foldl (Session.perform s.clock) session).HasRoom := ⟨active, room⟩
    rw [if_pos hasRoom, ← shown.1, ← shown.2]
    simp [inspections, replies]
  | dropped full =>
    have noRoom : ¬(calls.foldl (Session.perform s.clock) session).HasRoom := full
    rw [if_neg noRoom, ← shown.1, ← shown.2]
    simp [inspections, replies]

/-- The first reply among the frames of a chunk is handed to the session that waits for it, and no other
frame of the chunk is taken for it. -/
theorem frames_arrive (inv : RegistryInvariant s) (connected : s.Connected h b) {p : NodePacket}
    (owner : b.id = p.session) (waits : (⟨p.session, p.seq⟩ : RequestKey) ∈ s.pending.keys)
    (business : isReserved p.msgId = false) {earlier later : List Packet}
    (taken : ∀ q ∈ earlier ++ .node p :: later, g.nodeCodec.Takes q)
    (first : ∀ q ∈ earlier, ¬(⟨p.session, p.seq⟩ : RequestKey).AnsweredBy q) {id : Nat}
    {nodeLink : NodeLink}
    (opened : (earlier.foldl (State.nodeFrame g id) s).nodeLink? id = some nodeLink) :
    let before := earlier.foldl (State.nodeFrame g id) s
    let s₁ := (earlier ++ .node p :: later).foldl (State.nodeFrame g id) s
    ∃ session calls after noted queued result newer older final,
      Answered g before p h session calls after noted queued result ∧
      s₁.history = newer ++ .dispatched p result :: (queued ++ noted ++ before.history) ∧
      before.history = older ++ s.history ∧ (∀ o ∈ newer ++ older, ¬o.Concerns h p.seq) ∧
      s₁.session? h = some final ∧ after.queue <+: final.queue := by
  intro before s₁
  have spared := nodeFrames_spare (g := g) inv connected owner id earlier
    (fun q hq => taken q (List.mem_append_left _ hq)) (Or.inl first)
  obtain ⟨older, spoken, unconcerned⟩ := spared.spoken
  obtain ⟨links, read⟩ := nodeFrame_reply (g := g) opened business
  have inv₁ : RegistryInvariant { before with links } := registry_of_links spared.registry links _ _
  obtain ⟨session, calls, after, noted, queued, result, answered, replied⟩ :=
    reply_waiting g inv₁ (b := b) spared.connected owner (spared.waits.mpr waits)
  have inv₂ : RegistryInvariant (before.nodeFrame g id (.node p)) := by
    rw [read]
    exact registers_preserves_invariant inv₁ (reply_registers p)
  have still : (before.nodeFrame g id (.node p)).Connected h b := by
    rw [read]
    exact (connected_of_roster (reply_roster g _ p)).mpr spared.connected
  have settled : (⟨p.session, p.seq⟩ : RequestKey) ∉ (before.nodeFrame g id (.node p)).pending.keys := by
    rw [read, reply_pending, Pending.mem_take]
    exact fun kept => kept.2 rfl
  have rest := nodeFrames_spare (g := g) inv₂ still (k := ⟨p.session, p.seq⟩) owner id later
    (fun q hq => taken q (by simp [hq])) (Or.inr settled)
  obtain ⟨newer, spoken', unconcerned'⟩ := rest.spoken
  have whole : s₁ = later.foldl (State.nodeFrame g id) (before.nodeFrame g id (.node p)) := by
    simp only [s₁, before, List.foldl_append, List.foldl_cons]
  have seen : (before.nodeFrame g id (.node p)).session? h = some after := by
    have updated := answered.session?_eq h
    rw [if_pos rfl] at updated
    rw [read, replied]
    exact updated
  obtain ⟨final, there, supplied⟩ := spoken'.session h after seen
  obtain ⟨more, queue, _⟩ := supplied.queue
  refine ⟨session, calls, after, noted, queued, result, newer, older, final,
    ⟨answered.waiting, answered.found, answered.waiter, answered.inspects, answered.queues⟩, ?_,
    spoken.history, ?_, ?_, ?_⟩
  · rw [whole, spoken'.history, read, replied]
  · intro o member
    rcases List.mem_append.mp member with member | member
    · exact unconcerned' o member
    · exact unconcerned o member
  · rw [whole]
    exact there
  · exact ⟨more, queue.symm⟩

/-- A reply came to the session at `h`: it was read in the state `before`, on the way from `start` to
`after`. The interceptor saw it once and left the session as `seen`, and its client was sent it once if
there was room. When all was read, in the state `read`, and the session was not closed over it, the reply
stands in the client's stream behind what waited for the client then. -/
structure Arrives (g : Setup) (start before read after : State) (h : Handle) (p : NodePacket)
    (session seen : Session) : Prop where
  waiter : before.session? h = some session ∧ session.id = p.session
  inspected : ∃ calls noted queued result newer, Inspects g before.history h session p calls noted ∧
    seen = calls.foldl (Session.perform before.clock) session ∧
    after.history = newer ++ .dispatched p result :: (queued ++ noted ++ before.history)
  once : inspections h p.seq after.history =
    inspections h p.seq start.history + if g.interceptor.isSome then 1 else 0
  delivered : replies h p.seq after.history =
    replies h p.seq start.history + if seen.HasRoom then 1 else 0
  shown : seen.HasRoom → (∀ later, read.session? h = some later → later.cancelled = false) →
    read.network.toClient h = .taken → (∀ c ∈ seen.queue, g.clientCodec.Takes (.client c)) → ∃ newer, written h after.history =
      newer ++ .client p.unwrap :: ((seen.queue.map Packet.client).reverse ++ written h start.history)

theorem flush_unconcerned (g : Setup) (s : State) (h : Handle) (q : Int32) :
    ∃ news, (s.flush g).history = news ++ s.history ∧ ∀ o ∈ news, ¬o.Concerns h q := by
  obtain ⟨news, history, regards⟩ := (flush_confined g s).history
  refine ⟨news, history, ?_⟩
  intro o member concerns
  have := regards o member
  cases o <;> trivial

theorem flush_shows {link : Link} {session : Session} (connected : s.clientLink? h = some link)
    (hs : s.session? h = some session) (going : session.cancelled = false)
    (taken : s.network.toClient h = .taken) {front more : List ClientPacket} {c : ClientPacket}
    (queue : session.queue = front ++ c :: more) (fits : ∀ c ∈ front, g.clientCodec.Takes (.client c))
    (passes : g.clientCodec.Takes (.client c)) :
    ∃ newer, written h (s.flush g).history =
      newer ++ .client c :: ((front.map Packet.client).reverse ++ written h s.history) := by
  have turn : written h (s.flush g).history = _ := (flush_flushed g connected hs).written
  have clear {c : ClientPacket} (takes : g.clientCodec.Takes (.client c)) :
      decide (fault? g.clientCodec (.client c) .taken = none) = true :=
    decide_eq_true (fault?_eq_none_iff.mpr ⟨rfl, takes⟩)
  have before : ∀ q ∈ front.map Packet.client, decide (fault? g.clientCodec q .taken = none) = true := by
    intro q hq
    obtain ⟨c, hc, rfl⟩ := List.mem_map.mp hq
    exact clear (fits c hc)
  have all : session.waiting (s.network.parting h) = front ++ c :: more := by
    rw [Session.waiting, going, ← queue]
    rfl
  rw [all, taken, Setup.passing, List.map_append, List.takeWhile_append_of_pos before, List.map_cons,
    List.takeWhile_cons, if_pos (clear passes), List.reverse_append, List.reverse_cons, List.append_assoc,
    List.append_assoc] at turn
  exact ⟨_, turn⟩

theorem step_arrives (inv : RegistryInvariant s) (connected : s.Connected h b) {p : NodePacket}
    (owner : b.id = p.session) (waits : (⟨p.session, p.seq⟩ : RequestKey) ∈ s.pending.keys)
    (business : isReserved p.msgId = false) {earlier later : List Packet}
    (first : ∀ q ∈ earlier, ¬(⟨p.session, p.seq⟩ : RequestKey).AnsweredBy q)
    {id : Nat} {nodeLink : NodeLink} {bytes : Octets} (opened : s.nodeLink? id = some nodeLink)
    (packets : (g.nodeCodec.drain (nodeLink.link.input ++ bytes)).packets = earlier ++ .node p :: later) :
    let before := earlier.foldl (State.nodeFrame g id) (s.updateNodeLink id fun link =>
      { link with input := (g.nodeCodec.drain (nodeLink.link.input ++ bytes)).rest })
    (∃ link, before.nodeLink? id = some link) →
      ∃ session seen, Arrives g s before (s.nodeOctets g id bytes) (s.step g (.nodeSends id bytes)) h p session seen := by
  obtain ⟨_, taken, _⟩ := Codec.drain_stream g.nodeCodec (nodeLink.link.input ++ bytes)
  obtain ⟨news, whole⟩ := nodeOctets_spoken g s id bytes
  obtain ⟨atEnd, worked⟩ := nodeOctets_links g opened bytes
  have step : s.step g (.nodeSends id bytes) = ((s.nodeOctets g id bytes).flush g).settle := rfl
  rw [step]
  rw [packets] at taken worked
  generalize (g.nodeCodec.drain (nodeLink.link.input ++ bytes)).rest = rest at worked ⊢
  generalize s.nodeOctets g id bytes = s₂ at whole worked ⊢
  rintro before ⟨link, stillOpen⟩
  have inv₀ : RegistryInvariant (s.updateNodeLink id fun link => { link with input := rest }) :=
    registry_of_links inv _ _ _
  obtain ⟨session, calls, after, noted, queued, result, newer, older, final, answered, history, past,
    unconcerned, there, queue⟩ := frames_arrive (g := g) inv₀ connected owner waits business
      (fun q hq => (taken q hq).1) first stillOpen
  obtain ⟨flushed, flushHistory, unconcerned'⟩ := flush_unconcerned g s₂ h p.seq
  have total : (s₂.flush g).settle.history = (flushed ++ (atEnd ++ newer)) ++
      .dispatched p result :: (queued ++ noted ++ (older ++ s.history)) := by
    rw [State.settle, flushHistory, worked.state]
    simp only [history, past, List.append_assoc]
    rfl
  have quiet : ∀ o ∈ flushed ++ (atEnd ++ newer), ¬o.Concerns h p.seq := by
    intro o member concerns
    rcases List.mem_append.mp member with member | member
    · exact unconcerned' o member concerns
    rcases List.mem_append.mp member with member | member
    · exact (worked.news o member).unconcerned h p.seq concerns
    · exact unconcerned o (List.mem_append_left older member) concerns
  have counts := counts_unconcerned quiet (.dispatched p result :: (queued ++ noted ++ (older ++ s.history)))
  have answers := answered_counts answered (older ++ s.history)
  have before' := counts_unconcerned
    (fun o member => unconcerned o (List.mem_append_right newer member)) s.history
  refine ⟨session, calls.foldl (Session.perform before.clock) session, ⟨answered.waiter, ?_⟩,
    ⟨calls, noted, queued, result, flushed ++ (atEnd ++ newer), answered.inspects, rfl, ?_⟩, ?_, ?_, ?_⟩
  · obtain ⟨seat, at_h, _, id'⟩ := find?_spec answered.found
    obtain rfl := Option.some.inj ((State.session?_eq_some.mpr ⟨seat, at_h, rfl⟩).symm.trans answered.waiter)
    exact id'
  · rw [total, past]
    rfl
  · rw [total, counts.1, answers.1, before'.1]
  · rw [total, counts.2, answers.2, before'.2]
  · intro room going takesAll fits
    obtain ⟨clientLink, linked⟩ := clientLink?_badge.mpr ⟨b, connected⟩
    have seen : s₂.session? h = some final := by
      rw [worked.state]
      exact there
    have passes : g.clientCodec.Takes (.client p.unwrap) := takes_unwrap (taken (.node p) (by simp)).1
    obtain ⟨more, waiting⟩ : ∃ more, final.queue =
        (calls.foldl (Session.perform before.clock) session).queue ++ p.unwrap :: more := by
      obtain ⟨more, queue⟩ := queue
      cases answered.queues with
      | queued => exact ⟨more, by rw [← queue, List.append_assoc]; rfl⟩
      | dropped full => exact absurd room full
    have unwritten : written h s₂.history = written h s.history :=
      congrArg View.written (whole.view_eq h)
    rw [← unwritten]
    exact flush_shows ((whole.link h).trans linked) seen (going final seen) takesAll waiting fits passes

/-- No reply is lost. Whatever happened since a frame of a session was forwarded, as long as its client did
not go and no further request was entered under its key, the first reply under that key that is read from
any link, open at that moment, is shown to the interceptor once and, if that leaves the session room for
it, sent to the session's client once, behind what waited there. -/
theorem no_reply_lost (g : Setup) (resolver : Selection.Resolver) (clock : SessionClock)
    (network : Network) (events : List Event) (h : Handle) (p : NodePacket) (id : Nat)
    (nodeLink : NodeLink) (bytes : Octets) (earlier later : List Packet) :
    let s := (State.initial resolver clock network).run g events
    Outstanding h ⟨p.session, p.seq⟩ s.history →
    s.nodeLink? id = some nodeLink →
    (g.nodeCodec.drain (nodeLink.link.input ++ bytes)).packets = earlier ++ .node p :: later →
    isReserved p.msgId = false →
    (∀ q ∈ earlier, ¬(⟨p.session, p.seq⟩ : RequestKey).AnsweredBy q) →
    let before := earlier.foldl (State.nodeFrame g id) (s.updateNodeLink id fun link =>
      { link with input := (g.nodeCodec.drain (nodeLink.link.input ++ bytes)).rest })
    (∃ link, before.nodeLink? id = some link) →
      ∃ session seen, Arrives g s before (s.nodeOctets g id bytes) (s.step g (.nodeSends id bytes)) h p session seen := by
  intro s out opened packets business first
  have inv : OutstandingInvariant s :=
    run_invariant_always move_preserves_outstanding (initial_outstanding resolver clock network) events
  obtain ⟨waits, b, connected, owner⟩ := inv.waits h _ out
  exact step_arrives inv.registry connected owner waits business first opened packets

namespace Prompt

/-! A session whose login is answered behind a reply that nobody waits for. -/

def setup : Setup where
  frameLimit := 64
  queueCapacity := 4
  rate := .standard
  heartbeats := ⟨60000, 30000, none, 3⟩
  connectTimeout := 5000
  loginId := 11000
  strategy := .roundRobin
  interceptor := some fun _ _ _ => [.authenticate 7]
  draws := id

def request : ClientPacket := { msgId := 11000, seq := -4, magic := 9, body := [1] }

def stray : NodePacket := { session := 1, msgId := 11001, seq := 4, body := [] }

def reply : NodePacket := { session := 1, msgId := 11000, seq := -4, body := [2] }

def resolver : Selection.Resolver := ⟨"game-node", none, .empty, ⟨0, 0⟩⟩

def events : List Event :=
  [.addNode "a" "n:1", .clientConnects none, .clientSends 0 (Packet.client request).octets]

def waiting : State := (State.initial resolver ⟨0, 0⟩ (.steady fun _ => .accepting)).run setup events

def found : Session := .start 1 none .standard 4 ⟨0, 0⟩

def answer : Octets := (Packet.node stray).octets ++ (Packet.node reply).octets

end Prompt

theorem prompt_reply_arrives : Outstanding 0 ⟨1, -4⟩ Prompt.waiting.history ∧
    ∃ before session seen, Arrives Prompt.setup Prompt.waiting before
      (Prompt.waiting.nodeOctets Prompt.setup 1 Prompt.answer)
      (Prompt.waiting.step Prompt.setup (.nodeSends 1 Prompt.answer)) 0 Prompt.reply session seen := by
  have handled : Prompt.waiting.history =
      [] ++ .handled 0 Prompt.found Prompt.request (.forwarded "n:1") :: Prompt.waiting.history.tail := by
    decide +kernel
  have out : Outstanding 0 ⟨1, -4⟩ Prompt.waiting.history :=
    ⟨[], Prompt.found, Prompt.request, "n:1", _, handled, rfl, by simp⟩
  have opened : (Prompt.waiting.nodeLink? 1).map (·.link.input) = some [] := by decide +kernel
  obtain ⟨nodeLink, opened, input⟩ := Option.map_eq_some_iff.mp opened
  have first : ∀ q ∈ [Packet.node Prompt.stray], ¬(⟨1, -4⟩ : RequestKey).AnsweredBy q := by
    intro q member
    obtain rfl := List.mem_singleton.mp member
    exact fun answers => absurd answers.2 (by decide)
  obtain ⟨session, seen, arrives⟩ := no_reply_lost Prompt.setup Prompt.resolver ⟨0, 0⟩ (.steady fun _ => .accepting)
    Prompt.events 0 Prompt.reply 1 nodeLink Prompt.answer [.node Prompt.stray] [] out opened
    (by rw [input]; decide +kernel) rfl first
    (by rw [input]; exact Option.isSome_iff_exists.mp (by decide +kernel))
  exact ⟨out, _, session, seen, arrives⟩

end SessionGateway.Gateway
