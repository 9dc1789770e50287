import SessionGateway.Proofs.Gateway.Isolation
import SessionGateway.Proofs.Gateway.Shutdown

/-! When the links to the nodes are given up. Nothing that happens to a gateway does that but its shutdown,
and that comes to it only when the last client is gone. So whoever is connected finds links that can be
opened. -/
namespace SessionGateway.Gateway

open Wire

variable {g : Setup} {asked : Handle → SessionCall → Prop} {s s' : State} {h : Handle}

/-! ### What leaves the links be -/

theorem foldl_draining {α : Type} {f : State → α → State} (kept : ∀ s x, (f s x).draining = s.draining)
    (s : State) (xs : List α) : (xs.foldl f s).draining = s.draining := by
  induction xs generalizing s with
  | nil => rfl
  | cons x xs ih => exact (ih (f s x)).trans (kept s x)

theorem receive_draining (g : Setup) (s : State) (h : Handle) (c : ClientPacket) :
    (s.receive g h c).2.draining = s.draining := by
  cases hs : s.session? h with
  | none => simp [State.receive, hs]
  | some found =>
    cases business : isReserved c.msgId with
    | true =>
      obtain ⟨outcome, result⟩ := receive_heartbeat g hs business rfl
      rw [result]
      rfl
    | false =>
      obtain ⟨after, traffic, news, handled, _⟩ := handle_decided g hs business
      have kept : (s.handle g h c).2.draining = s.draining := by rw [handled.state]
      simpa [State.receive, hs, State.record] using kept

theorem reply_draining (g : Setup) (s : State) (p : NodePacket) :
    (s.reply g p).2.draining = s.draining :=
  congrArg Ledger.draining (reply_ledger g s p)

theorem writeNode_draining (g : Setup) (s : State) (id : Nat) (p : Packet) :
    (s.writeNode g id p).2.draining = s.draining :=
  congrArg Ledger.draining (writeNode_ledger g s id p)

theorem endClient_draining (s : State) (h : Handle) (why : Ending) :
    (s.endClient h why).draining = s.draining :=
  congrArg Ledger.draining (endClient_ledger s h why)

theorem endLink_draining (s : State) (id : Nat) (why : Ending) :
    (s.endLink id why).draining = s.draining := by
  unfold State.endLink
  split <;> rfl

/-! ### Clients -/

theorem writeClient_draining (g : Setup) (s : State) (h : Handle) (p : Packet) :
    (s.writeClient g h p).draining = s.draining := by
  unfold State.writeClient
  split
  · rfl
  · split
    · exact endClient_draining s h _
    · rfl

theorem clientFrame_draining (g : Setup) (h : Handle) (s : State) (p : Packet) :
    (s.clientFrame g h p).draining = s.draining := by
  unfold State.clientFrame
  split
  · rfl
  · dsimp only
    split
    · exact writeClient_draining g _ h _
    · rfl
    · exact receive_draining g _ h _
    · rfl

theorem clientOctets_draining (g : Setup) (s : State) (h : Handle) (bytes : Octets) :
    (s.clientOctets g h bytes).draining = s.draining := by
  unfold State.clientOctets
  split
  · rfl
  · rename_i link _
    have handled := foldl_draining (clientFrame_draining g h)
      (s.setClientLink h { link with input := (g.clientCodec.drain (link.input ++ bytes)).rest })
      (g.clientCodec.drain (link.input ++ bytes)).packets
    dsimp only
    split
    · exact (endClient_draining _ h _).trans handled
    · exact handled

theorem flushClient_draining (g : Setup) (s : State) (h : Handle) :
    (s.flushClient g h).draining = s.draining := by
  unfold State.flushClient
  split
  · have written := foldl_draining (fun s p => writeClient_draining g s h (.client p))
      (s.updateSession h (·.receive.2))
    dsimp only
    split
    · exact (endClient_draining _ h _).trans (written _)
    · exact written _
  · rfl

theorem clientIdle_draining (g : Setup) (h : Handle) (n : Nat) (s : State) :
    (s.clientIdle g h n).draining = s.draining := by
  induction n generalizing s with
  | zero => rfl
  | succ n ih =>
    unfold State.clientIdle
    split
    · rfl
    · split
      · rfl
      · dsimp only
        split
        · exact (ih _).trans (writeClient_draining g _ h _)
        · exact ih _
        · exact endClient_draining _ h _

/-! ### Nodes -/

theorem written_draining (g : Setup) (s : State) (id : Nat) (p : Packet) {k : State → State}
    (kept : ∀ s, (k s).draining = s.draining) :
    (match s.writeNode g id p with
      | (some fault, s) => s.endLink id fault.ending
      | (none, s) => k s).draining = s.draining := by
  have written := writeNode_draining g s id p
  split
  · rename_i e s' hw
    rw [hw] at written
    exact (endLink_draining s' id _).trans written
  · rename_i s' hw
    rw [hw] at written
    exact (kept s').trans written

theorem nodeFrame_draining (g : Setup) (id : Nat) (s : State) (p : Packet) :
    (s.nodeFrame g id p).draining = s.draining := by
  unfold State.nodeFrame
  split
  · rfl
  · dsimp only
    split
    · exact written_draining g _ id _ fun _ => rfl
    · rfl
    · exact reply_draining g _ _
    · rfl

theorem nodeOctets_draining (g : Setup) (s : State) (id : Nat) (bytes : Octets) :
    (s.nodeOctets g id bytes).draining = s.draining := by
  unfold State.nodeOctets
  split
  · rfl
  · rename_i nodeLink _
    have handled := foldl_draining (nodeFrame_draining g id)
      (s.updateNodeLink id fun link =>
        { link with input := (g.nodeCodec.drain (nodeLink.link.input ++ bytes)).rest })
      (g.nodeCodec.drain (nodeLink.link.input ++ bytes)).packets
    dsimp only
    split
    · exact (endLink_draining _ id _).trans handled
    · exact handled

theorem nodeIdle_draining (g : Setup) (id n : Nat) (s : State) :
    (s.nodeIdle g id n).draining = s.draining := by
  induction n generalizing s with
  | zero => rfl
  | succ n ih =>
    unfold State.nodeIdle
    split
    · rfl
    · split
      · rfl
      · dsimp only
        split
        · exact written_draining g _ id _ ih
        · exact ih _
        · exact endLink_draining _ id _

/-! ### Steps and runs -/

theorem react_draining (g : Setup) (s : State) {e : Event} (other : e ≠ .shutdown) :
    (s.react g e).draining = s.draining := by
  cases e with
  | clientConnects peer =>
    unfold State.react State.accept
    dsimp only
    split <;> rfl
  | clientSends h bytes => exact clientOctets_draining g s h bytes
  | clientCloses h =>
    unfold State.react State.clientEnd
    dsimp only
    split
    · rfl
    · exact endClient_draining s h _
  | nodeSends id bytes => exact nodeOctets_draining g s id bytes
  | nodeCloses id =>
    unfold State.react State.nodeEnd
    dsimp only
    split
    · rfl
    · exact endLink_draining s id _
  | advance milliseconds =>
    have nodes := foldl_draining (fun s (link : NodeLink) => nodeIdle_draining g link.id 3 s)
    have clients := foldl_draining (fun s h => clientIdle_draining g h 3 s)
    exact (nodes _ _).trans (clients _ _)
  | endLinkTo address =>
    obtain ⟨_, rewired⟩ := endLinkTo_rewires s address
    exact (congrArg State.draining rewired.state :)
  | shutdown => exact absurd rfl other
  | _ => rfl

/-- The links are drained only when the gateway was told to stop and nobody is connected. -/
structure Attended (s : State) : Prop where
  registry : RegistryInvariant s
  drained : s.draining = true → s.stopping = true ∧ ∀ h, s.clientLink? h = none

theorem moves_stopping (path : Moves g asked s s') (registry : RegistryInvariant s)
    (stopping : s.stopping = true) : RegistryInvariant s' ∧ s'.stopping = true := by
  refine moves_invariant (I := fun s => RegistryInvariant s ∧ s.stopping = true) ?_ path ⟨registry, stopping⟩
  rintro s s' ⟨registry, stopping⟩ move
  exact ⟨move_preserves_registry s s' registry move, move_stopping registry move stopping⟩

theorem moves_nobody (path : Moves g asked s s') (registry : RegistryInvariant s)
    (stopping : s.stopping = true) (nobody : ∀ h, s.clientLink? h = none) (h : Handle) :
    s'.clientLink? h = none := by
  induction path with
  | refl => exact nobody h
  | tail before move ih =>
    obtain ⟨registry, stopping⟩ := moves_stopping before registry stopping
    rcases move_thins registry move with thins | ⟨going, _⟩
    · exact thins.link h ih
    · cases stopping.symm.trans going

theorem step_attended (attended : Attended s) (e : Event) : Attended (s.step g e) := by
  have path : Moves g (fun _ _ => True) s (s.step g e) := step_moves s e fun _ _ _ => trivial
  have registry := moves_invariant move_preserves_registry path attended.registry
  refine ⟨registry, ?_⟩
  intro drained
  by_cases shutdown : e = .shutdown
  · subst shutdown
    have result : s.step g .shutdown = s.shutdown.settle := step_shutdown g s
    have told : Move g (fun _ _ => True) s { s with stopping := true } := .stops
    have ended : Moves g (fun _ _ => True) { s with stopping := true } s.shutdown :=
      (Relation.ReflTransGen.single .closes).trans ((dismissed_moves _).trans (drain_moves _).moves)
    have stopping := moves_stopping ended (move_preserves_registry _ _ attended.registry told) rfl
    rw [result]
    exact ⟨stopping.2, fun h => shutdown_nobody s h⟩
  · have flushed : (s.step g e).draining = (s.react g e).draining :=
      foldl_draining (flushClient_draining g) (s.react g e) _
    rw [flushed, react_draining g s shutdown] at drained
    obtain ⟨stopping, nobody⟩ := attended.drained drained
    exact ⟨(moves_stopping path attended.registry stopping).2,
      moves_nobody path attended.registry stopping nobody⟩

theorem initial_attended (resolver : Selection.Resolver) (clock : SessionClock)
    (network : Network) : Attended (.initial resolver clock network) :=
  ⟨initial_registry resolver clock network, nofun⟩

theorem run_attended (attended : Attended s) (events : List Event) : Attended (s.run g events) := by
  induction events generalizing s with
  | nil => exact attended
  | cons e events ih => exact ih (step_attended attended e)

theorem Attended.undrained (attended : Attended s) {link : Link} (connected : s.clientLink? h = some link) :
    s.draining = false := by
  cases drained : s.draining with
  | false => rfl
  | true => cases connected.symm.trans ((attended.drained drained).2 h)

end SessionGateway.Gateway
