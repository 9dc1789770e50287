import SessionGateway.Proofs.Gateway.Handling
import SessionGateway.Proofs.Gateway.Replying
import Mathlib.Data.List.Nodup

/-! What stays within bounds. Serving one client touches no other client's session or connection, looking
after the links to the nodes touches none at all, and only the reading of nodes handles replies. -/
namespace SessionGateway.Gateway

open Wire Liveness Liveness.Monitor Selection

variable {g : Setup} {s s' s'' : State} {h : Handle} {own : Handle → Prop}

/-- What may come on record while only the clients in `own` are served. -/
def Occurrence.Regards (own : Handle → Prop) : Occurrence → Prop
  | .clientOpened h | .clientReceived h _ | .clientEnded h _ | .handled h _ _ _ | .requested h _ => own h
  | .inspected _ _ _ | .delivered _ _ | .dispatched _ _ => False
  | _ => True

/-- Whatever was done, it was done to the clients in `own`, and no reply was handled. -/
structure Confined (own : Handle → Prop) (s s' : State) : Prop where
  session : ∀ h, ¬own h → s'.session? h = s.session? h
  link : ∀ h, ¬own h → s'.clientLink? h = s.clientLink? h
  history : ∃ news, s'.history = news ++ s.history ∧ ∀ o ∈ news, o.Regards own

theorem Confined.refl (own : Handle → Prop) (s : State) : Confined own s s where
  session := fun _ _ => rfl
  link := fun _ _ => rfl
  history := ⟨[], rfl, by simp⟩

theorem Confined.trans (first : Confined own s s') (second : Confined own s' s'') :
    Confined own s s'' where
  session := fun h foreign => (second.session h foreign).trans (first.session h foreign)
  link := fun h foreign => (second.link h foreign).trans (first.link h foreign)
  history := by
    obtain ⟨news, history, regards⟩ := first.history
    obtain ⟨more, later, also⟩ := second.history
    refine ⟨more ++ news, by rw [later, history, List.append_assoc], ?_⟩
    intro o member
    rcases List.mem_append.mp member with member | member
    · exact also o member
    · exact regards o member

theorem Occurrence.Regards.mono {wider : Handle → Prop} (inside : ∀ h, own h → wider h)
    {o : Occurrence} (regards : o.Regards own) : o.Regards wider := by
  cases o <;> first | exact inside _ regards | exact regards

theorem Confined.mono {wider : Handle → Prop} (inside : ∀ h, own h → wider h)
    (confined : Confined own s s') : Confined wider s s' where
  session := fun h foreign => confined.session h fun mine => foreign (inside h mine)
  link := fun h foreign => confined.link h fun mine => foreign (inside h mine)
  history := by
    obtain ⟨news, history, regards⟩ := confined.history
    exact ⟨news, history, fun o member => (regards o member).mono inside⟩

abbrev Quiet (s s' : State) : Prop := Confined (fun _ => False) s s'

theorem Confined.of_quiet (quiet : Quiet s s') : Confined own s s' :=
  quiet.mono fun _ => False.elim

theorem confined_foldl {α : Type} {f : State → α → State} {xs : List α}
    (hf : ∀ x ∈ xs, ∀ s, Confined own s (f s x)) (s : State) : Confined own s (xs.foldl f s) := by
  induction xs generalizing s with
  | nil => exact .refl own s
  | cons x xs ih =>
    have rest := ih fun y member => hf y (List.mem_cons_of_mem x member)
    exact (hf x List.mem_cons_self s).trans (rest (f s x))

theorem Confined.filterMap_eq {α : Type} {view : Occurrence → Option α} (confined : Confined own s s')
    (blind : ∀ o : Occurrence, o.Regards own → view o = none) :
    s'.history.filterMap view = s.history.filterMap view := by
  obtain ⟨news, history, regards⟩ := confined.history
  have nothing : news.filterMap view = [] :=
    List.filterMap_eq_nil_iff.mpr fun o member => blind o (regards o member)
  rw [history, List.filterMap_append, nothing, List.nil_append]

@[simp] theorem State.session?_record (s : State) (o : Occurrence) (h : Handle) :
    (s.record o).session? h = s.session? h := rfl

@[simp] theorem State.clientLink?_record (s : State) (o : Occurrence) (h : Handle) :
    (s.record o).clientLink? h = s.clientLink? h := rfl

@[simp] theorem State.history_updateSession (s : State) (h : Handle) (f : Session → Session) :
    (s.updateSession h f).history = s.history := rfl

theorem confined_record {o : Occurrence} (regards : o.Regards own) : Confined own s (s.record o) where
  session := fun _ _ => rfl
  link := fun _ _ => rfl
  history := ⟨[o], rfl, by simpa using regards⟩

/-! ### Clients -/

theorem updateSession_confined (s : State) (h : Handle) (f : Session → Session) :
    Confined (· = h) s (s.updateSession h f) where
  session := fun h' foreign => by rw [State.session?_updateSession, if_neg fun same => foreign same.symm]
  link := fun h' _ => State.clientLink?_updateSession s h h' f
  history := ⟨[], rfl, by simp⟩

theorem updateSeat_confined (s : State) (h : Handle) (f : Seat → Seat) :
    Confined (· = h) s (s.updateSeat h f) := by
  have elsewhere (h' : Handle) (foreign : ¬h' = h) : (s.seats.modify h f)[h']? = s.seats[h']? := by
    have other : ¬h = h' := fun same => foreign same.symm
    simp [other]
  refine ⟨?_, ?_, ⟨[], rfl, by simp⟩⟩
  · intro h' foreign
    rw [State.session?, State.updateSeat, elsewhere h' foreign, State.session?]
  · intro h' foreign
    rw [State.clientLink?, State.updateSeat, elsewhere h' foreign, State.clientLink?]

theorem unlist_quiet (s : State) (id : SessionId) : Quiet s (s.unlist id).2 := by
  unfold State.unlist
  split
  · rename_i i _
    have seat (h : Handle) : (s.seats.modify i fun seat => { seat with listed := false })[h]? =
        (s.seats[h]?).map fun seat => if i = h then { seat with listed := false } else seat := by
      rw [List.getElem?_modify]
      cases s.seats[h]? <;> by_cases hi : i = h <;> simp [hi]
    refine ⟨?_, ?_, ⟨[], rfl, by simp⟩⟩
    · intro h _
      simp only [State.session?, State.updateSeat, seat]
      cases s.seats[h]? <;> by_cases hi : i = h <;> simp [hi]
    · intro h _
      simp only [State.clientLink?, State.updateSeat, seat]
      cases s.seats[h]? <;> by_cases hi : i = h <;> simp [hi]
  · exact .refl _ s

theorem disconnect_confined (s : State) (h : Handle) : Confined (· = h) s (s.disconnect h) := by
  unfold State.disconnect
  split
  · exact .refl _ s
  · rename_i session _
    have closed := updateSession_confined s h (·.close)
    have forgotten : Confined (· = h) s { s.updateSession h (·.close) with
        pending := ((s.updateSession h (·.close)).pending.forget session.id).2 } :=
      ⟨closed.session, closed.link, closed.history⟩
    exact forgotten.trans (.of_quiet (unlist_quiet _ session.id))

theorem endClient_confined (s : State) (h : Handle) (why : Ending) :
    Confined (· = h) s (s.endClient h why) := by
  unfold State.endClient
  split
  · exact .refl _ s
  · exact ((disconnect_confined s h).trans (updateSeat_confined _ h _)).trans (confined_record rfl)

theorem writeClient_confined (s : State) (h : Handle) (p : Packet) :
    Confined (· = h) s (s.writeClient g h p) := by
  unfold State.writeClient
  split
  · exact .refl _ s
  · split
    · exact endClient_confined s h _
    · exact (updateSeat_confined s h _).trans (confined_record rfl)

theorem Occurrence.Prepares.regards {o : Occurrence} (prepares : o.Prepares) : o.Regards own := by
  cases o <;> trivial

theorem receive_confined {p : ClientPacket} (business : isReserved p.msgId = false) :
    Confined (· = h) s (s.receive g h p).2 := by
  cases hs : s.session? h with
  | none =>
    have same : (s.receive g h p).2 = s := by simp [State.receive, hs]
    rw [same]
    exact .refl _ s
  | some found =>
    obtain ⟨outcome, after, traffic, news, received⟩ := receive_received g hs business
    have link (h' : Handle) : (s.receive g h p).2.clientLink? h' = s.clientLink? h' := by
      have updated := State.clientLink?_updateSession s h h' fun _ => after
      unfold State.clientLink? at updated ⊢
      rw [received.seats, updated]
    refine ⟨?_, fun h' _ => link h', ⟨.handled h found p outcome :: (traffic ++ news), ?_, ?_⟩⟩
    · intro h' foreign
      rw [received.session?_eq hs, if_neg fun same => foreign same.symm]
    · rw [received.history, List.cons_append, List.append_assoc]
    · intro o member
      simp only [List.mem_cons, List.mem_append] at member
      rcases member with rfl | member | member
      · rfl
      · rcases received.traffic.recorded member with rfl | ⟨_, _, rfl⟩ | ⟨_, _, _, rfl⟩
        · rfl
        · trivial
        · trivial
      · exact (received.news o member).regards

theorem clientFrame_confined (s : State) (h : Handle) (p : Packet) :
    Confined (· = h) s (s.clientFrame g h p) := by
  unfold State.clientFrame
  split
  · exact .refl _ s
  · rename_i link _
    have touched := updateSession_confined s h (·.touch s.clock)
    generalize s.updateSession h (·.touch s.clock) = s₁ at touched ⊢
    rcases hin : link.monitor.onInbound s₁.now s₁.clock.wall p with ⟨inbound, monitor⟩
    have start : Confined (· = h) s (s₁.setClientLink h { link with monitor }) :=
      touched.trans (updateSeat_confined s₁ h _)
    simp only [hin]
    cases inbound with
    | reply answer => exact start.trans (writeClient_confined _ h answer)
    | absorbed => exact start
    | deliver q =>
      obtain ⟨rfl, business⟩ := onInbound_deliver hin
      cases q with
      | client c => exact start.trans (receive_confined business)
      | node => exact start
      | server => exact start

theorem clientOctets_confined (s : State) (h : Handle) (bytes : Octets) :
    Confined (· = h) s (s.clientOctets g h bytes) := by
  unfold State.clientOctets
  split
  · exact .refl _ s
  · rename_i link _
    generalize g.clientCodec.drain (link.input ++ bytes) = drained
    have start := updateSeat_confined s h fun seat =>
      { seat with link := some { link with input := drained.rest } }
    have handled := start.trans (confined_foldl
      (fun p (_ : p ∈ drained.packets) s => clientFrame_confined (g := g) s h p) _)
    dsimp only
    split
    · exact handled.trans (endClient_confined _ h _)
    · exact handled

theorem clientEnd_confined (s : State) (h : Handle) : Confined (· = h) s (s.clientEnd h) := by
  unfold State.clientEnd
  split
  · exact .refl _ s
  · exact endClient_confined s h _

theorem flushClient_confined (s : State) (h : Handle) : Confined (· = h) s (s.flushClient g h) := by
  unfold State.flushClient
  split
  · rename_i session _ _
    have written (waiting : List ClientPacket) := (updateSession_confined s h (·.receive.2)).trans
      (confined_foldl (fun p (_ : p ∈ waiting) s => writeClient_confined (g := g) s h (.client p)) _)
    dsimp only
    split
    · exact (written _).trans (endClient_confined _ h _)
    · exact written _
  · exact .refl _ s

theorem clientIdle_confined (h : Handle) (n : Nat) (s : State) :
    Confined (· = h) s (s.clientIdle g h n) := by
  induction n generalizing s with
  | zero => exact .refl _ s
  | succ n ih =>
    unfold State.clientIdle
    split
    · exact .refl _ s
    · rename_i link _
      split
      · exact .refl _ s
      · rename_i action monitor _
        have start : Confined (· = h) s (s.setClientLink h { link with monitor }) :=
          updateSeat_confined s h _
        cases action with
        | heartbeat p => exact start.trans ((writeClient_confined _ h p).trans (ih _))
        | missed => exact start.trans (ih _)
        | close => exact start.trans (endClient_confined _ h _)

theorem accept_confined (s : State) (peer : Option Text.SocketAddress) :
    Confined (· = s.seats.length) s (s.accept g peer).2 := by
  unfold State.accept
  split
  · exact .refl _ s
  · simp only [State.openSession, State.record]
    have elsewhere (seat : Seat) (h : Handle) (foreign : ¬h = s.seats.length) :
        (s.seats ++ [seat])[h]? = s.seats[h]? := by
      rcases Nat.lt_or_gt_of_ne foreign with inside | beyond
      · exact List.getElem?_append_left inside
      · rw [List.getElem?_eq_none (by simpa using Nat.succ_le_of_lt beyond),
          List.getElem?_eq_none (Nat.le_of_lt beyond)]
    refine ⟨?_, ?_, ⟨[_], rfl, by simp [Occurrence.Regards]⟩⟩
    · intro h foreign
      simp only [State.session?, elsewhere _ h foreign]
    · intro h foreign
      simp only [State.clientLink?, elsewhere _ h foreign]

/-- When all clients are served in turn, each is served once, and nobody else's turn changes what the one
at `h` finds. -/
theorem turns_split {f : State → Handle → State} (hf : ∀ i s, Confined (· = i) s (f s i)) {n : Nat}
    (inside : h < n) (s : State) :
    ∃ before : List Handle, Confined (· ≠ h) s (before.foldl f s) ∧
      Confined (· ≠ h) (f (before.foldl f s) h) ((List.range n).foldl f s) := by
  obtain ⟨before, after, turns⟩ := List.append_of_mem (List.mem_range.mpr inside)
  have once : h ∉ before ∧ h ∉ after := by
    have distinct := turns ▸ List.nodup_range (n := n)
    have apart := List.nodup_middle.mp distinct
    simpa using (List.nodup_cons.mp apart).1
  have others {turn : List Handle} (absent : h ∉ turn) (s : State) :
      Confined (· ≠ h) s (turn.foldl f s) := by
    apply confined_foldl
    intro i member s
    refine (hf i s).mono ?_
    rintro j rfl rfl
    exact absent member
  refine ⟨before, others once.1 s, ?_⟩
  have result : (List.range n).foldl f s = after.foldl f (f (before.foldl f s) h) := by
    rw [turns, List.foldl_append, List.foldl_cons]
  rw [result]
  exact others once.2 _

theorem turns_beyond {f : State → Handle → State} (hf : ∀ i s, Confined (· = i) s (f s i)) {n : Nat}
    (beyond : n ≤ h) (s : State) : Confined (· ≠ h) s ((List.range n).foldl f s) := by
  apply confined_foldl
  intro i member s
  refine (hf i s).mono ?_
  rintro j rfl rfl
  exact Nat.not_lt.mpr beyond (List.mem_range.mp member)

theorem turns_confined {f : State → Handle → State} (hf : ∀ i s, Confined (· = i) s (f s i)) (n : Nat)
    (s : State) : Confined (fun _ => True) s ((List.range n).foldl f s) :=
  confined_foldl (fun i _ s => (hf i s).mono fun _ _ => trivial) s

theorem flush_confined (g : Setup) (s : State) : Confined (fun _ => True) s (s.flush g) :=
  turns_confined (fun i s => flushClient_confined s i) _ s

/-! ### Nodes -/

theorem updateNodeLink_quiet (s : State) (id : Nat) (f : Link → Link) : Quiet s (s.updateNodeLink id f) where
  session := fun _ _ => rfl
  link := fun _ _ => rfl
  history := ⟨[], rfl, by simp⟩

theorem Rewired.quiet {news : List Occurrence} (rewired : Rewired s news s') : Quiet s s' := by
  rw [rewired.state]
  exact ⟨fun _ _ => rfl, fun _ _ => rfl, ⟨news, rfl, fun o member => (rewired.news o member).prepares.regards⟩⟩

theorem endLink_quiet (s : State) (id : Nat) (why : Ending) : Quiet s (s.endLink id why) := by
  obtain ⟨_, rewired, _⟩ := endLink_rewires s id why
  exact rewired.quiet

theorem writeNode_quiet (s : State) (id : Nat) (p : Packet) : Quiet s (s.writeNode g id p).2 := by
  rcases writeNode_cases g s id p with ⟨_, _, result⟩ | ⟨_, result⟩ | ⟨_, _, _, result⟩ <;> rw [result]
  · exact .refl _ s
  · exact .refl _ s
  · exact ⟨fun _ _ => rfl, fun _ _ => rfl, ⟨[_], rfl, by simp [Occurrence.Regards]⟩⟩

theorem nodeEnd_quiet (s : State) (id : Nat) : Quiet s (s.nodeEnd id) := by
  unfold State.nodeEnd
  split
  · exact .refl _ s
  · exact endLink_quiet s id _

theorem nodeIdle_quiet (id n : Nat) (s : State) : Quiet s (s.nodeIdle g id n) := by
  induction n generalizing s with
  | zero => exact .refl _ s
  | succ n ih =>
    unfold State.nodeIdle
    split
    · exact .refl _ s
    · split
      · exact .refl _ s
      · rename_i action monitor _
        have start : Quiet s (s.updateNodeLink id fun link => { link with monitor }) :=
          updateNodeLink_quiet s id _
        cases action with
        | heartbeat p =>
          have beaten := start.trans (writeNode_quiet (g := g) _ id p)
          dsimp only
          split
          · rename_i e s' hw
            rw [hw] at beaten
            exact beaten.trans (endLink_quiet s' id _)
          · rename_i s' hw
            rw [hw] at beaten
            exact beaten.trans (ih s')
        | missed => exact start.trans (ih _)
        | close => exact start.trans (endLink_quiet _ id _)

theorem nodesIdle_quiet (pool : List NodeLink) (s : State) :
    Quiet s (pool.foldl (fun s link => s.nodeIdle g link.id 3) s) :=
  confined_foldl (fun link _ s => nodeIdle_quiet link.id 3 s) s

theorem endLinkTo_quiet (s : State) (address : String) : Quiet s (s.endLinkTo address).2 := by
  obtain ⟨_, rewired⟩ := endLinkTo_rewires s address
  exact rewired.quiet

theorem drain_quiet (s : State) : Quiet s s.drain := by
  have start : Quiet s { s with draining := true } :=
    ⟨fun _ _ => rfl, fun _ _ => rfl, ⟨[], rfl, by simp⟩⟩
  exact start.trans (confined_foldl (fun slot _ s => endLinkTo_quiet s slot.1) _)

/-! ### Events -/

end SessionGateway.Gateway
