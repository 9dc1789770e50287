import SessionGateway.Proofs.Gateway.Gate
import SessionGateway.Proofs.Gateway.LinkSearch

/-! The links to the nodes and the record of them. Whoever needs a link finds the open one in the place of
its address, strikes out a place whose link is dead, or opens a new one; no number serves twice, so whoever
ends a link by its number cannot hit a later one. A gateway that has drained its links opens none any more. -/
namespace SessionGateway.Gateway

open Wire

variable {g : Setup} {asked : Handle → SessionCall → Prop} {s s' : State} {h : Handle} {address : String}

open Ledger (Steps)

/-! ### What leaves the ledger as it is -/

theorem reply_ledger (g : Setup) (s : State) (p : NodePacket) : (s.reply g p).2.ledger = s.ledger := by
  rcases reply_cases g s p with ⟨_, result⟩ | ⟨_, _, result⟩ |
    ⟨h, session, calls, after, noted, queued, outcome, answered, result⟩ <;> rw [result]
  · exact ledger_record (by trivial) s
  · exact ledger_record (by trivial) s
  · refine ledger_of_news (.dispatched p outcome :: (queued ++ noted)) ?_ rfl rfl rfl rfl (by simp)
    cases answered.queues <;> cases answered.inspects <;> simp [Occurrence.OffLinks]

theorem Ready.ledger {session after : Session} {news : List Occurrence}
    (ready : Ready s h session after news s') : s'.ledger = s.ledger := by
  have state := ready.state
  refine ledger_of_news news ?_ (by rw [state]) (by rw [state]) (by rw [state]) (by rw [state]) (by rw [state])
  intro o member
  obtain ⟨node, rfl⟩ := ready.news o member
  trivial

/-! ### Links that are closed -/

theorem vacates_ends (l : Ledger) (lingers : Bool) (id : Nat) :
    (l.vacates address).ends lingers (id, address) = (l.ends lingers (id, address)).vacates address :=
  Ledger.ext rfl rfl rfl rfl rfl Pool.leave_remove

theorem endLinkTo_ledger (sound : s.ledger.Sound) (address : String) : ∃ l, Steps s.ledger l ∧
    l.held ⊆ s.ledger.held ∧ address ∉ l.places ∧ (s.endLinkTo address).2.ledger = l.vacates address := by
  let vacant : State := { s with pool := (s.pool.remove address).2 }
  unfold State.endLinkTo
  dsimp only
  split
  · rename_i empty
    refine ⟨s.ledger, .refl, List.Subset.refl _, fun here => ?_, rfl⟩
    obtain ⟨slot, id, found, filled, _⟩ := sound.slot_of_place here
    have there : (s.pool.slot? address).bind (·.link) = some id :=
      Option.bind_eq_some_iff.mpr ⟨slot, found, filled⟩
    cases there.symm.trans empty
  · rename_i id there
    obtain ⟨slot, found, filled⟩ := Option.bind_eq_some_iff.mp there
    have member := Pool.mem_of_slot? found
    cases alive : vacant.nodeLink? id with
    | none =>
      refine ⟨s.ledger, .refl, List.Subset.refl _, fun here => ?_, congrArg State.ledger (endLink_gone alive .shutdown)⟩
      obtain ⟨slot', id', found', filled', held⟩ := sound.slot_of_place here
      obtain rfl := Option.some.inj (found.symm.trans found')
      obtain rfl := Option.some.inj (filled.symm.trans filled')
      exact nodeLink?_eq_none_iff.mp alive (List.mem_map_of_mem held)
    | some link =>
      have open' := nodeLink?_held alive
      have held := sound.held_of_slot member filled (List.mem_map_of_mem open')
      have same : link.address = address := congrArg Prod.snd
        (sound.opened_inj (sound.mem_held.mp open').1 (sound.mem_held.mp held).1 rfl)
      refine ⟨_, .single (.ends (s.network.lingers id) _ held), List.filter_sublist.subset,
        sound.not_mem_places_ends _ held, ?_⟩
      rw [← vacates_ends, ← same]
      exact same ▸ endLink_ledger alive .shutdown

theorem endLinkTo_steps (sound : s.ledger.Sound) (address : String) :
    Steps s.ledger (s.endLinkTo address).2.ledger := by
  obtain ⟨l, path, _, away, result⟩ := endLinkTo_ledger sound address
  rw [result]
  exact path.tail (.vacates address away)

/-! ### Draining -/

theorem endLinksTo_steps (slots : List (String × Slot)) (sound : s.ledger.Sound) :
    Steps s.ledger (slots.foldl (fun s e => (s.endLinkTo e.1).2) s).ledger := by
  induction slots generalizing s with
  | nil => exact .refl
  | cons slot slots ih =>
    have first := endLinkTo_steps sound slot.1
    exact first.trans (ih (first.sound sound))

theorem endLinksTo_places (slots : List (String × Slot)) (sound : s.ledger.Sound) {place : String}
    (left : place ∈ (slots.foldl (fun s e => (s.endLinkTo e.1).2) s).ledger.places) :
    place ∈ s.ledger.places ∧ place ∉ slots.map (·.1) := by
  induction slots generalizing s with
  | nil => exact ⟨left, nofun⟩
  | cons slot slots ih =>
    obtain ⟨here, others⟩ := ih ((endLinkTo_steps sound slot.1).sound sound) left
    obtain ⟨l, _, old, away, result⟩ := endLinkTo_ledger sound slot.1
    have kept : place ∈ l.places := by
      rw [result] at here
      exact here
    refine ⟨List.map_subset _ old kept, ?_⟩
    rw [List.map_cons, List.mem_cons, not_or]
    exact ⟨fun same => away (same ▸ kept), others⟩

theorem drain_steps (sound : s.ledger.Sound) : Steps s.ledger s.drain.ledger := by
  have started : Steps s.ledger ({ s with draining := true } : State).ledger := .single .drains
  exact started.trans (endLinksTo_steps s.pool.slots (started.sound sound))

theorem drain_drained (sound : s.ledger.Sound) : s.drain.ledger.Drained := by
  have started : Steps s.ledger ({ s with draining := true } : State).ledger := .single .drains
  have sound' := started.sound sound
  refine ⟨(endLinksTo_steps s.pool.slots sound').draining rfl, ?_⟩
  refine List.eq_nil_iff_forall_not_mem.mpr fun link member => ?_
  obtain ⟨here, away⟩ := endLinksTo_places s.pool.slots sound' (List.mem_map_of_mem member)
  obtain ⟨_, _, found, _⟩ := sound'.slot_of_place here
  exact away (List.mem_map_of_mem (Pool.mem_of_slot? found))

/-! ### Moves and steps -/

theorem disconnect_ledger (s : State) (h : Handle) : (s.disconnect h).ledger = s.ledger := by
  obtain ⟨_, _, left⟩ := s.disconnect_keeps h
  rw [left]
  rfl

theorem endClient_ledger (s : State) (h : Handle) (why : Ending) :
    (s.endClient h why).ledger = s.ledger := by
  unfold State.endClient
  split
  · rfl
  · exact (ledger_record (by trivial) _).trans (disconnect_ledger s h)

theorem endClients_ledger (why : Ending) (hs : List Handle) (s : State) :
    (hs.foldl (fun s h => s.endClient h why) s).ledger = s.ledger := by
  induction hs generalizing s with
  | nil => rfl
  | cons h hs ih => exact (ih _).trans (endClient_ledger s h why)

theorem receive_steps (g : Setup) (sound : s.ledger.Sound) {session : Session}
    (hs : s.session? h = some session) {p : ClientPacket} (business : isReserved p.msgId = false) :
    Steps s.ledger (s.receive g h p).2.ledger := by
  obtain ⟨after, news, ready', ready, goes⟩ := handle_goes g hs business
  have noted : (s.receive g h p).2.ledger = (s.handle g h p).2.ledger := by
    rw [receive_eq g hs]
    exact ledger_record (by trivial) _
  rw [noted, ← ready.ledger]
  rw [← ready.ledger] at sound
  generalize (s.handle g h p).1 = outcome, (s.handle g h p).2 = s' at goes
  cases goes with
  | stays => exact .refl
  | sent address _ => exact (forward_sends g sound address h p).steps
  | failed address _ _ => exact (forward_sends g sound address h p).steps

theorem move_steps (sound : s.ledger.Sound) (move : Move g asked s s') : Steps s.ledger s'.ledger := by
  cases move with
  | waits | reads | rewires | lists | configures | stops | asks | closes | touches | empties | relinks =>
    exact .refl
  | drains => exact .single .drains
  | settles => exact .single .settles
  | opens peer link _ _ => exact .of_eq (ledger_record (by trivial) _)
  | shows h link p _ => exact .of_eq (ledger_record (by trivial) s)
  | receives h link p connected business =>
    obtain ⟨seat, at_h, _⟩ := Option.bind_eq_some_iff.mp connected
    exact receive_steps g sound (State.session?_eq_some.mpr ⟨seat, at_h, rfl⟩) business
  | ends h link why _ => exact .of_eq (endClient_ledger s h why)
  | relinksNode id f => exact .of_eq (updateNodeLink_ledger s id f)
  | replies p _ => exact .of_eq (reply_ledger g s p)
  | beats id p _ => exact .of_eq (writeNode_ledger g s id p)
  | endsNode id why => exact endLink_steps s id why
  | leaves address => exact endLinkTo_steps sound address

theorem moves_steps (sound : s.ledger.Sound) (path : Moves g asked s s') : Steps s.ledger s'.ledger := by
  induction path with
  | refl => exact .refl
  | tail _ move ih => exact ih.trans (move_steps (ih.sound sound) move)

theorem shutdown_drained (g : Setup) (sound : s.ledger.Sound) : (s.step g .shutdown).ledger.Drained := by
  let stopped : State := (List.range s.seats.length).foldl (fun s h => s.endClient h .shutdown)
    { s with stopping := true }.closeSessions
  have same : stopped.ledger = s.ledger := endClients_ledger .shutdown _ _
  have react : s.react g .shutdown = stopped.drain := by
    simp [State.react, State.shutdown, stopped, State.closeSessions]
  have drained := drain_drained (s := stopped) (same ▸ sound)
  have sound' := (drain_steps (s := stopped) (same ▸ sound)).sound (same ▸ sound)
  rw [← react] at drained sound'
  have flushed : SteadyMoves g (fun _ _ => True) (s.react g .shutdown) (s.step g .shutdown) := step_flushed s _
  exact ((moves_steps sound' flushed.moves).still drained).1

/-- Whatever may happen to a gateway, and someone inside who uses the links: forwards a frame of a
session, or lets go of all links. -/
inductive LinkStep where
  | event (e : Event)
  | forward (address : String) (session : Handle) (p : ClientPacket)
  | drain

/-- A step is over when all links that ended are out of the table. -/
def State.tend (g : Setup) (s : State) : LinkStep → State
  | .event e => s.step g e
  | .forward address h p => (s.forward g address h p).2.settle
  | .drain => s.drain.settle

def State.tended (g : Setup) (s : State) (steps : List LinkStep) : State := steps.foldl (tend g) s

theorem tend_steps (sound : s.ledger.Sound) (step : LinkStep) : Steps s.ledger (s.tend g step).ledger := by
  cases step with
  | event e =>
    have path : Moves g (fun _ _ => True) s (s.step g e) := step_moves s e fun _ _ _ => trivial
    exact moves_steps sound path
  | forward address h p => exact (forward_sends g sound address h p).steps.tail .settles
  | drain => exact (drain_steps sound).tail .settles

theorem tended_steps (sound : s.ledger.Sound) (steps : List LinkStep) :
    Steps s.ledger (s.tended g steps).ledger := by
  induction steps generalizing s with
  | nil => exact .refl
  | cons step steps ih =>
    have first : Steps s.ledger (s.tend g step).ledger := tend_steps sound step
    exact first.trans (ih (first.sound sound))

theorem tend_leaving (s : State) (step : LinkStep) : (s.tend g step).pool.leaving = [] := by
  cases step <;> rfl

theorem tended_leaving (steps : List LinkStep) (settled : s.pool.leaving = []) :
    (s.tended g steps).pool.leaving = [] := by
  induction steps generalizing s with
  | nil => exact settled
  | cons step steps ih => exact ih (tend_leaving s step)

theorem initial_sound (resolver : Selection.Resolver) (clock : SessionClock) (network : Network) :
    (State.initial resolver clock network).ledger.Sound where
  held := rfl
  opened := nofun
  ended := nofun
  numbered := .nil
  placed := .nil
  slots := nofun
  pooled := nofun
  leaving := nofun

theorem drained_unavailable (drained : s.ledger.Drained) (g : Setup) (address : String) (h : Handle)
    (p : ClientPacket) : s.forward g address h p = (.error (.unavailable address), s) := by
  have draining : s.draining = true := drained.draining
  unfold State.forward
  split
  · rfl
  · rw [State.linkFor, if_pos draining]

/-! ### Runs -/

theorem ledger_places (sound : s.ledger.Sound) : s.ledger.places = ((openLinks s.history).map (·.2)).reverse := by
  rw [Ledger.places, sound.held, List.map_reverse]
  rfl

theorem mem_places_iff (sound : s.ledger.Sound) :
    address ∈ s.ledger.places ↔ ∃ id, (id, address) ∈ openLinks s.history := by
  rw [ledger_places sound, List.mem_reverse, List.mem_map]
  simp

/-- The table between two steps: an address has a place just if a link is open to it, and that link is in it. -/
structure State.Tabled (s : State) : Prop where
  links : s.links.map (fun link => (link.id, link.address)) = (openLinks s.history).reverse
  alone : ((openLinks s.history).map (·.2)).Nodup
  numbered : ((openedLinks s.history).map (·.1)).Nodup
  placed : (s.pool.slots.map (·.1)).Nodup
  entry_iff : ∀ address, (s.pool.slot? address).isSome ↔ ∃ id, (id, address) ∈ openLinks s.history
  entry_open : ∀ address slot, s.pool.slot? address = some slot →
    ∃ id, slot.link = some id ∧ (id, address) ∈ openLinks s.history

theorem tabled_of_sound (sound : s.ledger.Sound) (settled : s.pool.leaving = []) : s.Tabled where
  links := sound.held
  alone := List.nodup_reverse.mp (ledger_places sound ▸ sound.alone)
  numbered := sound.numbered
  placed := sound.placed
  entry_iff address := (sound.slot?_isSome_iff settled).trans (mem_places_iff sound)
  entry_open address slot found := by
    obtain ⟨id, filled, held⟩ := sound.held_of_settled settled found
    exact ⟨id, filled, List.mem_reverse.mp (sound.held ▸ held)⟩

/-- A frame for an address without a link. -/
theorem forward_opens_one (sound : s.ledger.Sound) (away : address ∉ s.ledger.places) (h : Handle)
    (p : ClientPacket) :
    let t := s.tend g (.forward address h p)
    (∃ e, (s.forward g address h p).1 = .error e) ∧ openLinks t.history = openLinks s.history ∧
      t.pool.slot? address = none ∨
    ∃ id dead, openedLinks t.history = (id, address) :: (dead ++ openedLinks s.history) ∧
      openLinks t.history = (id, address) :: openLinks s.history ∧
      ∀ link ∈ dead, s.network.reach link.1 address = .stillborn := by
  intro t
  have sound' : t.ledger.Sound := (tend_steps sound (.forward address h p)).sound sound
  obtain ⟨dead, early, ⟨failed, held⟩ | ⟨id, settles⟩⟩ := (forward_sends g sound address h p).settles sound away
  · have held : t.ledger.held = s.ledger.held := held
    refine Or.inl ⟨failed, ?_, ?_⟩
    · exact List.reverse_injective ((sound'.held.symm.trans held).trans sound.held)
    · refine Option.not_isSome_iff_eq_none.mp fun found => away ?_
      have here := (sound'.slot?_isSome_iff (tend_leaving s (.forward address h p))).mp found
      rwa [Ledger.places, held] at here
  · refine Or.inr ⟨id, dead, ?_⟩
    have held : t.ledger.held = s.ledger.held ++ [(id, address)] := by
      cases settles with
      | one held _ => exact held
    have opened : t.ledger.opened = (id, address) :: (dead ++ s.ledger.opened) := by
      cases settles with
      | one _ opened => exact opened
    refine ⟨opened, List.reverse_injective ?_, early⟩
    have before := sound.held
    rw [sound'.held, before] at held
    exact held.trans List.reverse_cons.symm

theorem drained_empty (tabled : s.Tabled) (drained : s.ledger.Drained) :
    openLinks s.history = [] ∧ s.links = [] ∧ s.pool.slots = [] := by
  have none_held : s.links.map (fun link => (link.id, link.address)) = [] := drained.held
  have none_open : openLinks s.history = [] := List.reverse_eq_nil_iff.mp (tabled.links.symm.trans none_held)
  refine ⟨none_open, List.map_eq_nil_iff.mp none_held, ?_⟩
  refine List.eq_nil_iff_forall_not_mem.mpr fun e member => ?_
  obtain ⟨_, _, member⟩ := tabled.entry_open e.1 e.2 (Pool.slot?_of_mem tabled.placed member)
  rw [none_open] at member
  cases member

/-- Between two steps the table holds an entry for an address just if a link is open to it, which is in that
entry, and no number serves twice. A frame for an address with a link opens none. For an address without one
it opens one, besides those that were gone at once, or it fails and leaves no entry. Once the links are drained
no connection is open and none is opened, and every frame is refused before anything else happens. -/
theorem links_held_are_open (g : Setup) (resolver : Selection.Resolver) (clock : SessionClock)
    (network : Network) (steps : List LinkStep) :
    let s := (State.initial resolver clock network).tended g steps
    s.Tabled ∧
    (∀ h address p, (∃ id, (id, address) ∈ openLinks s.history) →
      openedLinks (s.tend g (.forward address h p)).history = openedLinks s.history) ∧
    (∀ h address p, (∀ id, (id, address) ∉ openLinks s.history) →
      let t := s.tend g (.forward address h p)
      (∃ e, (s.forward g address h p).1 = .error e) ∧ openLinks t.history = openLinks s.history ∧
        t.pool.slot? address = none ∨
      ∃ id dead, openedLinks t.history = (id, address) :: (dead ++ openedLinks s.history) ∧
        openLinks t.history = (id, address) :: openLinks s.history ∧
        ∀ link ∈ dead, s.network.reach link.1 address = .stillborn) ∧
    (∀ stop ∈ [LinkStep.drain, .event .shutdown], ∀ later,
      let t := (s.tend g stop).tended g later
      openLinks t.history = [] ∧ t.links = [] ∧ t.pool.slots = [] ∧
        ∀ h address p, t.forward g address h p = (.error (.unavailable address), t)) := by
  intro s
  have sound : s.ledger.Sound := (tended_steps (initial_sound resolver clock network) steps).sound
    (initial_sound resolver clock network)
  have settled : s.pool.leaving = [] := tended_leaving steps rfl
  refine ⟨tabled_of_sound sound settled, ?_, ?_, ?_⟩
  · intro h address p here
    exact (forward_sends g sound address h p).still sound ((mem_places_iff sound).mpr here)
  · intro h address p none_open
    refine forward_opens_one sound (fun here => ?_) h p
    obtain ⟨id, member⟩ := (mem_places_iff sound).mp here
    exact none_open id member
  · intro stop stops later t
    have drained : (s.tend g stop).ledger.Drained := by
      rcases List.mem_cons.mp stops with rfl | stops
      · have drained := drain_drained sound
        exact ⟨drained.draining, drained.held⟩
      · obtain rfl := List.mem_singleton.mp stops
        exact shutdown_drained g sound
    have stopped : (s.tend g stop).ledger.Sound := (tend_steps sound stop).sound sound
    have path : Steps (s.tend g stop).ledger t.ledger := tended_steps stopped later
    have still : t.ledger.Drained := (path.still drained).1
    have tabled := tabled_of_sound (path.sound stopped) (tended_leaving later (tend_leaving s stop))
    obtain ⟨none_open, no_link, no_slot⟩ := drained_empty tabled still
    exact ⟨none_open, no_link, no_slot, fun h address p => drained_unavailable still g address h p⟩

namespace Reopened

/-! A node that closes its link and is asked again. The link is long gone when its end reaches the table,
where a new one stands by then; the first attempt for the new one comes to nothing. -/

def network : Network :=
  { Network.steady (fun _ => .accepting) with
    reach := fun id _ => if id = 2 then .stillborn else .accepting
    lingers := fun _ => true }

def start : State := .initial Guarded.resolver ⟨0, 0⟩ network

def ask : LinkStep := .forward "n:1" 0 Guarded.business

def steps : List LinkStep := [.event (.clientConnects none), ask, .event (.nodeCloses 1), ask, ask]

end Reopened

theorem closed_link_reopened :
    (Reopened.start.tended Guarded.setup Reopened.steps).links.map (fun link => (link.id, link.address)) =
      [(3, "n:1")] ∧
    openedLinks (Reopened.start.tended Guarded.setup Reopened.steps).history =
      [(3, "n:1"), (2, "n:1"), (1, "n:1")] ∧
    openLinks (((Reopened.start.tended Guarded.setup Reopened.steps).tend Guarded.setup .drain).tended
      Guarded.setup [Reopened.ask]).history = [] := by
  obtain ⟨tabled, _, _, stopped⟩ := links_held_are_open Guarded.setup Guarded.resolver ⟨0, 0⟩
    Reopened.network Reopened.steps
  obtain ⟨closed, _⟩ := stopped .drain List.mem_cons_self [Reopened.ask]
  refine ⟨tabled.links.trans (by decide +kernel), by decide +kernel, closed⟩

end SessionGateway.Gateway
