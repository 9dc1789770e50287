import SessionGateway.Proofs.Gateway.Registry

/-! Moves by what they mean for requests and replies. A move handles a frame of a client, dispatches a
reply of a node, or passes both by. -/
namespace SessionGateway.Gateway

open Wire Selection

variable {g : Setup} {asked : Handle → SessionCall → Prop} {s s' : State} {h : Handle}

/-- What may come on record while no frame is handled and no reply dispatched. To nodes only heartbeats
go then. -/
def Occurrence.Incidental : Occurrence → Prop
  | .handled _ _ _ _ | .requested _ _ | .inspected _ _ _ | .delivered _ _ => False
  | .nodeReceived _ _ p => isReserved p.msgId = true
  | _ => True

theorem Occurrence.Prepares.incidental {o : Occurrence} (ho : o.Prepares) : o.Incidental := by
  cases o <;> trivial

/-- What becomes of a session while its frames are not handled and its replies not dispatched. -/
def Session.Follows (asked : SessionCall → Prop) (before after : Session) : Prop :=
  (after.player = before.player ∧ after.id = before.id ∧ after.node = before.node ∧
    (after.phase = before.phase ∨ after.phase = .closed)) ∨
  ∃ clock call, asked call ∧ after = before.perform clock call

theorem Session.Follows.refl (asked : SessionCall → Prop) (session : Session) :
    session.Follows asked session :=
  Or.inl ⟨rfl, rfl, rfl, Or.inl rfl⟩

structure Passes (asked : Handle → SessionCall → Prop) (s s' : State) : Prop where
  history : ∃ news, s'.history = news ++ s.history ∧ ∀ o ∈ news, o.Incidental
  waiting : ∀ k ∈ s'.pending.keys, k ∈ s.pending.keys
  rotation : s'.resolver.rotation = s.resolver.rotation
  sessions : ∀ h after, s'.session? h = some after →
    (s.session? h = none ∧ after.player = none ∧ after.node = none ∧ after.phase = .connected) ∨
    ∃ before, s.session? h = some before ∧ before.Follows (asked h) after

theorem passes_of_same (news : List Occurrence) (history : s'.history = news ++ s.history)
    (incidental : ∀ o ∈ news, o.Incidental) (pending : s'.pending = s.pending)
    (rotation : s'.resolver.rotation = s.resolver.rotation)
    (sessions : ∀ h, s'.session? h = s.session? h) : Passes asked s s' where
  history := ⟨news, history, incidental⟩
  waiting := by
    rw [pending]
    exact fun _ hk => hk
  rotation
  sessions := by
    intro h after hs
    rw [sessions] at hs
    exact Or.inr ⟨after, hs, .refl _ _⟩

theorem passes_of_update {f : Session → Session}
    (follows : ∀ session : Session, session.Follows (asked h) (f session)) :
    Passes asked s (s.updateSession h f) where
  history := ⟨[], rfl, by simp⟩
  waiting := fun _ hk => hk
  rotation := rfl
  sessions := by
    intro h' after hs
    rw [State.session?_updateSession] at hs
    by_cases hh : h = h'
    · subst h'
      rw [if_pos rfl] at hs
      obtain ⟨before, hb, rfl⟩ := Option.map_eq_some_iff.mp hs
      exact Or.inr ⟨before, hb, follows before⟩
    · rw [if_neg hh] at hs
      exact Or.inr ⟨after, hs, .refl _ _⟩

theorem closeSessions_passes (s : State) : Passes asked s s.closeSessions where
  history := ⟨[], rfl, by simp⟩
  waiting := fun _ hk => hk
  rotation := rfl
  sessions := by
    intro h after hs
    obtain ⟨seat, at_h, rfl⟩ := State.session?_eq_some.mp hs
    simp only [State.closeSessions, List.getElem?_map, Option.map_eq_some_iff] at at_h
    obtain ⟨before, was, rfl⟩ := at_h
    refine Or.inr ⟨before.session, State.session?_eq_some.mpr ⟨before, was, rfl⟩, ?_⟩
    by_cases listed : before.listed = true
    · rw [if_pos listed]
      exact Or.inl ⟨rfl, rfl, rfl, Or.inr rfl⟩
    · rw [if_neg listed]
      exact .refl _ _

theorem openSession_passes (peer : Option Text.SocketAddress) (link : Link) (h : Handle) :
    Passes asked s ((s.openSession g peer (some link)).2.record (.clientOpened h)) where
  history := ⟨[.clientOpened h], rfl, by simp [Occurrence.Incidental]⟩
  waiting := fun _ hk => hk
  rotation := rfl
  sessions := by
    intro h' after hs
    obtain ⟨seat, at_h, rfl⟩ := State.session?_eq_some.mp hs
    simp only [State.record, State.openSession] at at_h
    by_cases old : h' < s.seats.length
    · rw [List.getElem?_append_left old] at at_h
      exact Or.inr ⟨seat.session, State.session?_eq_some.mpr ⟨seat, at_h, rfl⟩, .refl _ _⟩
    · have beyond : s.seats.length ≤ h' := Nat.le_of_not_lt old
      rw [List.getElem?_append_right beyond] at at_h
      obtain rfl := List.mem_singleton.mp (List.mem_of_getElem? at_h)
      refine Or.inl ⟨?_, rfl, rfl, rfl⟩
      simp [State.session?, List.getElem?_eq_none beyond]

theorem endClient_passes (inv : RegistryInvariant s) {link : Link} (hl : s.clientLink? h = some link)
    (why : Ending) : Passes asked s (s.endClient h why) := by
  obtain ⟨seat, at_h, _, result⟩ := endClient_eq inv hl why
  rw [result]
  refine ⟨⟨[.clientEnded h why], rfl, by simp [Occurrence.Incidental]⟩, ?_, rfl, ?_⟩
  · intro k hk
    exact ((Pending.mem_forget _ _ _).mp hk).1
  · intro h' after hs
    obtain ⟨later, at_h', rfl⟩ := State.session?_eq_some.mp hs
    rw [List.getElem?_modify] at at_h'
    obtain ⟨before, was, rfl⟩ := Option.map_eq_some_iff.mp at_h'
    refine Or.inr ⟨before.session, State.session?_eq_some.mpr ⟨before, was, rfl⟩, ?_⟩
    by_cases hh : h = h'
    · rw [if_pos hh]
      exact Or.inl ⟨rfl, rfl, rfl, Or.inr rfl⟩
    · rw [if_neg hh]
      exact .refl _ _

theorem Rewired.passes {news : List Occurrence} (rewired : Rewired s news s') : Passes asked s s' := by
  have incidental : ∀ o ∈ news, o.Incidental := by
    intro o member
    have atLinks := rewired.news o member
    cases o <;> trivial
  rw [rewired.state]
  exact passes_of_same news rfl incidental rfl rfl fun _ => rfl

theorem writeNode_passes (id : Nat) {p : Packet} (reserved : isReserved p.msgId = true) :
    Passes asked s (s.writeNode g id p).2 := by
  rcases writeNode_cases g s id p with ⟨_, _, hw⟩ | ⟨_, hw⟩ | ⟨link, _, _, hw⟩ <;> rw [hw]
  · exact passes_of_same [] rfl (by simp) rfl rfl fun _ => rfl
  · exact passes_of_same [] rfl (by simp) rfl rfl fun _ => rfl
  · exact passes_of_same [.nodeReceived id link.address p] rfl
      (by simpa [Occurrence.Incidental] using reserved) rfl rfl fun _ => rfl

theorem reply_passes (asked : Handle → SessionCall → Prop) (g : Setup) (s : State) (p : NodePacket) :
    Passes asked s (s.reply g p).2 ∨
    ∃ h session calls after noted queued result,
      Answered g s p h session calls after noted queued result ∧ (s.reply g p).2 =
        { s.updateSession h (fun _ => after) with
          pending := (s.pending.take ⟨p.session, p.seq⟩).2
          history := .dispatched p result :: (queued ++ noted ++ s.history) } := by
  rcases reply_cases g s p with ⟨_, result⟩ | ⟨_, _, result⟩ | answered
  · left
    rw [result]
    exact passes_of_same [.dispatched p .noPending] rfl (by simp [Occurrence.Incidental]) rfl rfl
      fun _ => rfl
  · left
    rw [result]
    refine ⟨⟨[.dispatched p .sessionGone], rfl, by simp [Occurrence.Incidental]⟩, ?_, rfl, ?_⟩
    · intro k hk
      exact ((Pending.mem_take _ _ _).mp hk).1
    · intro h after hs
      exact Or.inr ⟨after, hs, .refl _ _⟩
  · exact Or.inr answered

theorem move_cases (inv : RegistryInvariant s) (move : Move g asked s s') :
    Passes asked s s' ∨
    (∃ h found b p, s.session? h = some found ∧ s.Connected h b ∧ b.id = found.id ∧
      isReserved p.msgId = false ∧ s' = (s.receive g h p).2) ∨
    (∃ p, isReserved p.msgId = false ∧ s' = (s.reply g p).2) := by
  cases move with
  | waits | reads | rewires | lists | configures | stops | drains | settles | relinksNode =>
    exact Or.inl (passes_of_same [] rfl (by simp) rfl rfl fun _ => rfl)
  | shows h link p _ =>
    exact Or.inl (passes_of_same [.clientReceived h p] rfl (by simp [Occurrence.Incidental]) rfl rfl
      fun _ => rfl)
  | asks h call permitted =>
    have follows (session : Session) : session.Follows (asked h) (session.perform s.clock call) :=
      Or.inr ⟨s.clock, call, permitted, rfl⟩
    exact Or.inl (passes_of_update follows)
  | closes => exact Or.inl (closeSessions_passes s)
  | touches h =>
    have follows (session : Session) : session.Follows (asked h) (session.touch s.clock) :=
      Or.inl ⟨rfl, rfl, rfl, Or.inl rfl⟩
    exact Or.inl (passes_of_update follows)
  | empties h =>
    have follows (session : Session) : session.Follows (asked h) session.receive.2 :=
      Or.inl ⟨rfl, rfl, rfl, Or.inl rfl⟩
    exact Or.inl (passes_of_update follows)
  | opens peer link _ _ => exact Or.inl (openSession_passes peer link _)
  | relinks h old link _ =>
    exact Or.inl (passes_of_same [] rfl (by simp) rfl rfl fun h' => State.session?_setClientLink s h h' link)
  | receives h link p connected business =>
    obtain ⟨b, hb⟩ := clientLink?_badge.mp ⟨link, connected⟩
    obtain ⟨found, hs, id⟩ := roster_session hb.1
    exact Or.inr (Or.inl ⟨h, found, b, p, hs, hb, id.symm, business, rfl⟩)
  | ends h link why connected => exact Or.inl (endClient_passes inv connected why)
  | replies p business => exact Or.inr (Or.inr ⟨p, business, rfl⟩)
  | beats id p reserved => exact Or.inl (writeNode_passes id reserved)
  | endsNode id why =>
    obtain ⟨_, rewired, _⟩ := endLink_rewires s id why
    exact Or.inl rewired.passes
  | leaves address =>
    obtain ⟨_, rewired⟩ := endLinkTo_rewires s address
    exact Or.inl rewired.passes

end SessionGateway.Gateway
