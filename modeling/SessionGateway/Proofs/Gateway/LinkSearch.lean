import SessionGateway.Proofs.Gateway.Handling
import SessionGateway.Proofs.Gateway.LinkTable

/-! The search for a link. Whoever needs a link to an address looks for it twice at most. He finds the open link in
the place of the address, strikes out a place whose link is dead, or opens a new link in a new place. Nothing
else happens at the links, and nothing at those to other addresses. -/
namespace SessionGateway.Gateway

open Wire

variable {g : Setup} {s s' : State} {h : Handle} {address : String}

/-! ### What is on record -/

/-- The connections that were opened, by number and address. Latest first. -/
def openedLinks (history : List Occurrence) : List (Nat × String) :=
  history.filterMap fun
    | .linkOpened id address => some (id, address)
    | _ => none

def endedLinks (history : List Occurrence) : List Nat :=
  history.filterMap fun
    | .linkEnded id _ _ => some id
    | _ => none

/-- The connections that were opened and have not ended. -/
def openLinks (history : List Occurrence) : List (Nat × String) :=
  (openedLinks history).filter (·.1 ∉ endedLinks history)

/-- What may come on record without a connection being opened or ended. -/
def Occurrence.OffLinks : Occurrence → Prop
  | .linkOpened _ _ | .linkEnded _ _ _ => False
  | _ => True

def State.ledger (s : State) : Ledger where
  held := s.links.map fun link => (link.id, link.address)
  next := s.nextLink
  draining := s.draining
  opened := openedLinks s.history
  ended := endedLinks s.history
  pool := s.pool

/-! ### The way to a link -/

namespace Ledger

variable {l l' : Ledger} {stillborn : Nat → Prop}

/-- One look for a link to an address, where no place is struck out but that of a dead link. -/
inductive Looks (stillborn : Nat → Prop) (address : String) (l : Ledger) :
    Except ForwardError (Option Nat) → Ledger → Prop where
  | held (id : Nat) : (id, address) ∈ l.held → Looks stillborn address l (.ok (some id)) l
  | dead (slot : Slot) (id : Nat) : (address, slot) ∈ l.pool.slots → slot.link = some id →
      id ∉ l.held.map (·.1) → Looks stillborn address l (.ok none) (l.strikes address slot.number)
  | failed (e : ForwardError) : l.pool.slot? address = none → Looks stillborn address l (.error e) l.skips
  | opened : l.pool.slot? address = none →
      Looks stillborn address l (.ok (some l.next)) (l.opens address)
  | flashed (lingers : Bool) : l.pool.slot? address = none → stillborn l.next →
      Looks stillborn address l (.ok none) (l.flashes lingers address)

inductive Reaches (stillborn : Nat → Prop) (address : String) :
    Ledger → Except ForwardError Nat → Ledger → Prop where
  | barred {l : Ledger} (e : ForwardError) : Reaches stillborn address l (.error e) l
  | fails {l l' : Ledger} {e : ForwardError} : l.draining = false →
      Looks stillborn address l (.error e) l' → Reaches stillborn address l (.error e) l'
  | finds {l l' : Ledger} {id : Nat} : l.draining = false →
      Looks stillborn address l (.ok (some id)) l' → Reaches stillborn address l (.ok id) l'
  | again {l l' l'' : Ledger} {result : Except ForwardError Nat} : l.draining = false →
      Looks stillborn address l (.ok none) l' → Reaches stillborn address l' result l'' →
      Reaches stillborn address l result l''

/-- A frame for an address. The link it is for may break under it. -/
inductive Sends (stillborn : Nat → Prop) (address : String) (l : Ledger) :
    Except ForwardError Unit → Ledger → Prop where
  | unreached {e : ForwardError} {l' : Ledger} : Reaches stillborn address l (.error e) l' →
      Sends stillborn address l (.error e) l'
  | decided {id : Nat} {l' : Ledger} (result : Except ForwardError Unit) :
      Reaches stillborn address l (.ok id) l' → Sends stillborn address l result l'
  | broken {id : Nat} {l' : Ledger} (e : ForwardError) (lingers : Bool) :
      Reaches stillborn address l (.ok id) l' →
      Sends stillborn address l (.error e) (l'.ends lingers (id, address))

theorem Looks.steps {result : Except ForwardError (Option Nat)} (looks : Looks stillborn address l result l')
    (running : l.draining = false) : Steps l l' := by
  cases looks with
  | held => exact .refl
  | dead slot id member filled dead => exact .single (.strikes address slot id member filled dead)
  | failed e => exact .single (.skips running)
  | opened clear => exact .single (.opens address running clear)
  | flashed lingers clear => exact .single (.flashes lingers address running clear)

theorem Looks.found {id : Nat} (looks : Looks stillborn address l (.ok (some id)) l') :
    (id, address) ∈ l'.held := by
  cases looks with
  | held _ held => exact held
  | opened => exact List.mem_append_right _ List.mem_cons_self

theorem Reaches.steps {result : Except ForwardError Nat} (reaches : Reaches stillborn address l result l') :
    Steps l l' := by
  induction reaches with
  | barred => exact .refl
  | fails running looks => exact looks.steps running
  | finds running looks => exact looks.steps running
  | again running looks _ ih => exact (looks.steps running).trans ih

theorem Reaches.found {result : Except ForwardError Nat} (reaches : Reaches stillborn address l result l')
    {id : Nat} (reached : result = .ok id) : (id, address) ∈ l'.held := by
  induction reaches with
  | barred | fails => cases reached
  | finds running looks =>
    obtain rfl := Except.ok.inj reached
    exact looks.found
  | again _ _ _ ih => exact ih reached

theorem Sends.steps {result : Except ForwardError Unit} (sends : Sends stillborn address l result l') :
    Steps l l' := by
  cases sends with
  | unreached reaches => exact reaches.steps
  | decided _ reaches => exact reaches.steps
  | broken e lingers reaches => exact reaches.steps.tail (.ends lingers _ (reaches.found rfl))

/-! With an open link no other is opened. -/

theorem Looks.still {result : Except ForwardError (Option Nat)} (looks : Looks stillborn address l result l')
    (sound : l.Sound) (here : address ∈ l.places) : l' = l ∧ ∃ id, result = .ok (some id) := by
  obtain ⟨slot, id, found, filled, held⟩ := sound.slot_of_place here
  cases looks with
  | held id => exact ⟨rfl, id, rfl⟩
  | dead slot' id' member filled' dead =>
    have same := (Pool.slot?_of_mem sound.placed member).symm.trans found
    obtain rfl := Option.some.inj same
    obtain rfl := Option.some.inj (filled'.symm.trans filled)
    exact absurd (List.mem_map_of_mem held) dead
  | failed _ clear => cases clear.symm.trans found
  | opened clear => cases clear.symm.trans found
  | flashed _ clear => cases clear.symm.trans found

theorem Reaches.still {result : Except ForwardError Nat} (reaches : Reaches stillborn address l result l')
    (sound : l.Sound) (here : address ∈ l.places) : l' = l := by
  cases reaches with
  | barred => rfl
  | fails _ looks => exact (looks.still sound here).1
  | finds _ looks => exact (looks.still sound here).1
  | again _ looks =>
    obtain ⟨_, _, never⟩ := looks.still sound here
    cases never

theorem Sends.still {result : Except ForwardError Unit} (sends : Sends stillborn address l result l')
    (sound : l.Sound) (here : address ∈ l.places) : l'.opened = l.opened := by
  cases sends with
  | unreached reaches => rw [reaches.still sound here]
  | decided _ reaches => rw [reaches.still sound here]
  | @broken _ middle _ _ reaches =>
    have same : middle.opened = l.opened := by rw [reaches.still sound here]
    exact same

/-! Without one it is opened, or the address is left without. -/

/-- The links in `dead` were opened to no use, and then one to the address or none. -/
inductive Settles (address : String) (l : Ledger) (dead : List (Nat × String)) : Option Nat → Ledger → Prop where
  | none {l' : Ledger} : l'.held = l.held → l'.opened = dead ++ l.opened → Settles address l dead none l'
  | one {id : Nat} {l' : Ledger} : l'.held = l.held ++ [(id, address)] →
      l'.opened = (id, address) :: (dead ++ l.opened) → Settles address l dead (some id) l'

theorem Looks.settles {result : Except ForwardError (Option Nat)}
    (looks : Looks stillborn address l result l') (away : address ∉ l.places) :
    ∃ dead, (∀ link ∈ dead, stillborn link.1) ∧ Settles address l dead (result.toOption.join) l' := by
  cases looks with
  | held id held => exact absurd (List.mem_map_of_mem held) away
  | dead => exact ⟨[], nofun, .none rfl rfl⟩
  | failed => exact ⟨[], nofun, .none rfl rfl⟩
  | opened => exact ⟨[], nofun, .one rfl rfl⟩
  | flashed lingers _ dead => exact ⟨[(l.next, address)], by simpa using dead, .none rfl rfl⟩

theorem Reaches.settles {result : Except ForwardError Nat} (reaches : Reaches stillborn address l result l')
    (away : address ∉ l.places) :
    ∃ dead, (∀ link ∈ dead, stillborn link.1) ∧ Settles address l dead result.toOption l' := by
  induction reaches with
  | barred => exact ⟨[], nofun, .none rfl rfl⟩
  | fails _ looks => exact looks.settles away
  | finds _ looks => exact looks.settles away
  | again _ looks _ ih =>
    obtain ⟨dead, early, before⟩ := looks.settles away
    cases before with
    | none held opened =>
      obtain ⟨dead', late, after⟩ := ih (by rwa [Ledger.places, held])
      generalize Except.toOption _ = found at after ⊢
      refine ⟨dead' ++ dead, ?_, ?_⟩
      · intro link member
        rcases List.mem_append.mp member with new | old
        · exact late link new
        · exact early link old
      · cases after with
        | none held' opened' => exact .none (held'.trans held) (by rw [opened', opened, List.append_assoc])
        | one held' opened' => exact .one (by rw [held', held]) (by rw [opened', opened, List.append_assoc])

/-- A frame for an address without a link opens one and leaves it open, or fails and leaves open what was. -/
theorem Sends.settles {result : Except ForwardError Unit} (sends : Sends stillborn address l result l')
    (sound : l.Sound) (away : address ∉ l.places) : ∃ dead, (∀ link ∈ dead, stillborn link.1) ∧
      ((∃ e, result = .error e) ∧ l'.held = l.held ∨ ∃ id, Settles address l dead (some id) l') := by
  cases sends with
  | unreached reaches =>
    obtain ⟨dead, early, settles⟩ := reaches.settles away
    cases settles with
    | none held _ => exact ⟨dead, early, Or.inl ⟨⟨_, rfl⟩, held⟩⟩
  | decided result reaches =>
    obtain ⟨dead, early, settles⟩ := reaches.settles away
    exact ⟨dead, early, Or.inr ⟨_, settles⟩⟩
  | @broken id middle e lingers reaches =>
    obtain ⟨dead, early, settles⟩ := reaches.settles away
    refine ⟨dead, early, Or.inl ⟨⟨e, rfl⟩, ?_⟩⟩
    have numbers := (reaches.steps.sound sound).held_nodup
    have held : middle.held = l.held ++ [(id, address)] := by
      cases settles with
      | one held _ => exact held
    rw [held, List.map_append] at numbers
    have others : ∀ link ∈ l.held, link.1 ≠ id := by
      intro link old same
      exact List.disjoint_of_nodup_append numbers (List.mem_map_of_mem old) (same ▸ List.mem_cons_self)
    have rest : l.held.filter (·.1 ≠ id) = l.held :=
      List.filter_eq_self.mpr fun link old => decide_eq_true (others link old)
    simp only [Ledger.ends, held, List.filter_append, rest]
    simp

end Ledger

/-! ### What leaves the ledger as it is -/

open Ledger (Steps Looks Reaches Sends)

theorem ledger_record {o : Occurrence} (off : o.OffLinks) (s : State) :
    (s.record o).ledger = s.ledger := by
  cases o <;> first | rfl | exact absurd off id

theorem filterMap_news {α : Type} {view : Occurrence → Option α}
    (blind : ∀ o : Occurrence, o.OffLinks → view o = none) {news : List Occurrence}
    (off : ∀ o ∈ news, o.OffLinks) (history : List Occurrence) :
    (news ++ history).filterMap view = history.filterMap view := by
  have nothing : news.filterMap view = [] :=
    List.filterMap_eq_nil_iff.mpr fun o member => blind o (off o member)
  rw [List.filterMap_append, nothing, List.nil_append]

theorem ledger_of_news (news : List Occurrence) (off : ∀ o ∈ news, o.OffLinks) (links : s'.links = s.links)
    (pool : s'.pool = s.pool) (next : s'.nextLink = s.nextLink) (draining : s'.draining = s.draining)
    (history : s'.history = news ++ s.history) : s'.ledger = s.ledger := by
  have opened : openedLinks (news ++ s.history) = openedLinks s.history := by
    refine filterMap_news ?_ off s.history
    intro o off
    cases o <;> first | rfl | exact off.elim
  have ended : endedLinks (news ++ s.history) = endedLinks s.history := by
    refine filterMap_news ?_ off s.history
    intro o off
    cases o <;> first | rfl | exact off.elim
  simp only [State.ledger, links, pool, next, draining, history, opened, ended]

theorem updateNodeLink_ledger (s : State) (id : Nat) (f : Link → Link) :
    (s.updateNodeLink id f).ledger = s.ledger := by
  have held : (s.updateNodeLink id f).ledger.held = s.ledger.held := by
    simp only [State.ledger, State.updateNodeLink, List.map_map]
    apply List.map_congr_left
    intro link _
    by_cases here : link.id = id <;> simp [here]
  exact Ledger.ext held rfl rfl rfl rfl rfl

theorem writeNode_ledger (g : Setup) (s : State) (id : Nat) (p : Packet) :
    (s.writeNode g id p).2.ledger = s.ledger := by
  unfold State.writeNode
  split
  · rfl
  · split
    · rfl
    · exact (ledger_record (by trivial) _).trans (updateNodeLink_ledger s id _)

/-! ### Ends of links -/

theorem nodeLink?_eq_none_iff {id : Nat} : s.nodeLink? id = none ↔ id ∉ s.ledger.held.map (·.1) := by
  simp [State.nodeLink?, State.ledger]

theorem nodeLink?_held {id : Nat} {link : NodeLink} (found : s.nodeLink? id = some link) :
    (id, link.address) ∈ s.ledger.held := by
  have named : link.id = id := by simpa using List.find?_some found
  exact List.mem_map.mpr ⟨link, List.mem_of_find?_eq_some found, by rw [named]⟩

theorem endLink_ledger {id : Nat} {link : NodeLink} (found : s.nodeLink? id = some link) (why : Ending) :
    (s.endLink id why).ledger = s.ledger.ends (s.network.lingers id) (id, link.address) := by
  have rest : (s.links.filter (·.id ≠ id)).map (fun link => (link.id, link.address)) =
      s.ledger.held.filter (·.1 ≠ id) := by
    rw [State.ledger, List.filter_map]
    rfl
  unfold State.endLink
  rw [found]
  exact Ledger.ext rest rfl rfl rfl rfl rfl

theorem endLink_gone {id : Nat} (gone : s.nodeLink? id = none) (why : Ending) : s.endLink id why = s := by
  unfold State.endLink
  rw [gone]

theorem endLink_steps (s : State) (id : Nat) (why : Ending) :
    Steps s.ledger (s.endLink id why).ledger := by
  cases found : s.nodeLink? id with
  | none => rw [endLink_gone found]
  | some link =>
    rw [endLink_ledger found]
    exact .single (.ends _ _ (nodeLink?_held found))

/-! ### Links for addresses -/

/-- What an attempt may leave: nothing, a link, or the record of one that was gone at once. -/
theorem openLink_cases (g : Setup) {s : State} (fresh : s.nextLink ∉ s.ledger.held.map (·.1))
    (address : String) :
    (∃ e, State.obstacle? g address (s.network.reach s.nextLink address) = some e ∧
      s.openLink g address = (.error e, { s with nextLink := s.nextLink + 1 })) ∨
    (s.network.reach s.nextLink address ≠ .stillborn ∧
      ∃ link : NodeLink, link.id = s.nextLink ∧ link.address = address ∧ s.openLink g address =
        (.ok s.nextLink, { s with
          nextLink := s.nextLink + 1, links := s.links ++ [link]
          history := .linkOpened s.nextLink address :: s.history })) ∨
    (s.network.reach s.nextLink address = .stillborn ∧ s.openLink g address =
      (.ok s.nextLink, { s with
        nextLink := s.nextLink + 1
        pool := s.pool.leave (s.network.lingers s.nextLink) address s.nextLink
        history := .linkEnded s.nextLink address .peerClosed :: .linkOpened s.nextLink address :: s.history })) := by
  unfold State.openLink
  dsimp only
  split
  · rename_i e met
    exact Or.inl ⟨e, met, rfl⟩
  · let link : NodeLink := ⟨s.nextLink, address, .start .gatewayInternal g.heartbeats s.now⟩
    split
    · rename_i gone
      refine Or.inr (Or.inr ⟨gone, Prod.ext rfl ?_⟩)
      have others : ∀ old ∈ s.links, old.id ≠ s.nextLink := fun old member same =>
        fresh (List.mem_map.mpr ⟨(old.id, old.address), List.mem_map.mpr ⟨old, member, rfl⟩, same⟩)
      have found : s.links.find? (·.id = s.nextLink) = none :=
        List.find?_eq_none.mpr fun old member => by simpa using others old member
      have rest : s.links.filter (·.id ≠ s.nextLink) = s.links :=
        List.filter_eq_self.mpr fun old member => decide_eq_true (others old member)
      simp only [State.endLink, State.record, State.nodeLink?, List.find?_append, found, List.filter_append, rest]
      simp
    · rename_i there
      exact Or.inr (Or.inl ⟨there, link, rfl, rfl, rfl⟩)

/-- The attempts that come to a connection which is gone at once. -/
def State.stillborn (s : State) (address : String) (id : Nat) : Prop :=
  s.network.reach id address = .stillborn

theorem check_open {slot id : Nat} {link : NodeLink} (found : s.nodeLink? id = some link) :
    s.check address slot id = (.ok (some id), s) := by
  simp [State.check, found]

theorem check_dead {slot id : Nat} (gone : s.nodeLink? id = none) :
    s.check address slot id = (.ok none, s.strike address slot) := by
  simp [State.check, gone]

/-- One look for a link to an address, by what it meets. -/
inductive Seeks (g : Setup) (s : State) (address : String) :
    Except ForwardError (Option Nat) → State → Prop where
  | held (id : Nat) : (id, address) ∈ s.ledger.held → Seeks g s address (.ok (some id)) s
  | dead (slot : Slot) (id : Nat) : (address, slot) ∈ s.pool.slots → slot.link = some id →
      id ∉ s.ledger.held.map (·.1) → Seeks g s address (.ok none) (s.strike address slot.number)
  | failed (e : ForwardError) : s.pool.slot? address = none →
      State.obstacle? g address (s.network.reach s.nextLink address) = some e →
      Seeks g s address (.error e) { s with nextLink := s.nextLink + 1, pool := s.pool.spend }
  | opened (link : NodeLink) : s.pool.slot? address = none → link.id = s.nextLink → link.address = address →
      s.network.reach s.nextLink address ≠ .stillborn →
      Seeks g s address (.ok (some s.nextLink)) { s with
        nextLink := s.nextLink + 1, links := s.links ++ [link], pool := s.pool.place address (some s.nextLink)
        history := .linkOpened s.nextLink address :: s.history }
  | flashed : s.pool.slot? address = none → s.network.reach s.nextLink address = .stillborn →
      Seeks g s address (.ok none) { s with
        nextLink := s.nextLink + 1
        pool := (s.pool.stray (s.network.lingers s.nextLink) address s.nextLink).spend
        history := .linkEnded s.nextLink address .peerClosed :: .linkOpened s.nextLink address :: s.history }

theorem seek_found (g : Setup) (sound : s.ledger.Sound) {slot : Slot} (found : s.pool.slot? address = some slot) :
    Seeks g s address (s.seek g address).1 (s.seek g address).2 := by
  have member := Pool.mem_of_slot? found
  obtain ⟨_, id, filled⟩ := sound.slots _ member
  obtain ⟨number, link⟩ := slot
  obtain rfl : link = some id := filled.link
  have result : s.seek g address = s.check address number id := by
    simp only [State.seek, Pool.enter_found found]
  rw [result]
  cases alive : s.nodeLink? id with
  | none =>
    rw [check_dead alive]
    exact .dead ⟨number, some id⟩ id member rfl (nodeLink?_eq_none_iff.mp alive)
  | some link =>
    rw [check_open alive]
    exact .held id (sound.held_of_slot member rfl (List.mem_map_of_mem (nodeLink?_held alive)))

theorem seek_clear (g : Setup) (sound : s.ledger.Sound) (clear : s.pool.slot? address = none) :
    Seeks g s address (s.seek g address).1 (s.seek g address).2 := by
  have numbers : ∀ e ∈ s.pool.slots, e.2.number < s.pool.nextSlot := sound.slot_numbers
  have fresh := sound.next_fresh
  have missing : s.nodeLink? s.nextLink = none := nodeLink?_eq_none_iff.mpr fresh
  rcases openLink_cases g (s := { s with pool := s.pool.place address none }) fresh address with
    ⟨e, met, failed⟩ | ⟨there, link, number, place, opened⟩ | ⟨gone, flashed⟩
  · have struck : (s.pool.place address none).strike address s.pool.nextSlot = s.pool.spend :=
      Pool.strike_place numbers
    simp only [State.seek, Pool.enter_clear clear, failed, State.strike, struck]
    exact .failed e clear met
  · have here : State.nodeLink? { s with
        nextLink := s.nextLink + 1, links := s.links ++ [link], pool := s.pool.place address (some s.nextLink)
        history := .linkOpened s.nextLink address :: s.history } s.nextLink = some link := by
      unfold State.nodeLink? at missing ⊢
      simp [List.find?_append, missing, number]
    simp only [State.seek, Pool.enter_clear clear, opened, Pool.fill_place numbers]
    rw [check_open here]
    exact .opened link clear number place there
  · let stray := s.pool.stray (s.network.lingers s.nextLink) address s.nextLink
    have left : (s.pool.place address none).leave (s.network.lingers s.nextLink) address s.nextLink =
        stray.place address none := Pool.leave_place sound.slots_old
    have numbers' : ∀ e ∈ stray.slots, e.2.number < stray.nextSlot := by simpa [stray] using numbers
    have next : s.pool.nextSlot = stray.nextSlot := by simp [stray]
    have gone' : State.nodeLink? { s with
        nextLink := s.nextLink + 1, pool := stray.place address (some s.nextLink)
        history := .linkEnded s.nextLink address .peerClosed :: .linkOpened s.nextLink address :: s.history }
          s.nextLink = none := missing
    have struck : (stray.place address (some s.nextLink)).strike address stray.nextSlot = stray.spend :=
      Pool.strike_place numbers'
    simp only [State.seek, Pool.enter_clear clear, flashed, left, next]
    rw [Pool.fill_place (p := stray) numbers', check_dead gone', State.strike]
    simp only [struck]
    exact .flashed clear gone

theorem seek_seeks (g : Setup) (sound : s.ledger.Sound) (address : String) :
    Seeks g s address (s.seek g address).1 (s.seek g address).2 := by
  cases found : s.pool.slot? address with
  | none => exact seek_clear g sound found
  | some slot => exact seek_found g sound found

theorem Seeks.looks {result : Except ForwardError (Option Nat)} (seeks : Seeks g s address result s') :
    Looks (s.stillborn address) address s.ledger result s'.ledger := by
  cases seeks with
  | held id held => exact .held id held
  | dead slot id member filled dead => exact .dead slot id member filled dead
  | failed e clear => exact .failed e clear
  | opened link clear number place =>
    have held : (s.links ++ [link]).map (fun link => (link.id, link.address)) =
        s.ledger.held ++ [(s.nextLink, address)] := by simp [State.ledger, number, place]
    have opened : State.ledger { s with
        nextLink := s.nextLink + 1, links := s.links ++ [link], pool := s.pool.place address (some s.nextLink)
        history := .linkOpened s.nextLink address :: s.history } = s.ledger.opens address :=
      Ledger.ext held rfl rfl rfl rfl rfl
    rw [opened]
    exact .opened clear
  | flashed clear gone => exact .flashed _ clear gone

/-! ### Forwarding -/

theorem linkFor_reaches (g : Setup) (address : String) (looks : Nat) {s : State} (sound : s.ledger.Sound) :
    Reaches (s.stillborn address) address s.ledger (s.linkFor g address looks).1
      (s.linkFor g address looks).2.ledger := by
  induction looks generalizing s with
  | zero => exact .barred _
  | succ looks ih =>
    unfold State.linkFor
    split
    · exact .barred _
    rename_i running
    have running : s.ledger.draining = false := Bool.eq_false_iff.mpr running
    have looked := (seek_seeks g sound address).looks
    obtain ⟨_, sought⟩ := seek_rewires g s address
    split <;> rename_i result <;> rw [result] at looked sought
    · exact .fails running looked
    · exact .finds running looked
    · rename_i s'
      have network : s'.network = s.network := (congrArg State.network sought.state :)
      have same : s'.stillborn address = s.stillborn address := by
        unfold State.stillborn
        rw [network]
      exact .again running looked (same ▸ ih ((looked.steps running).sound sound))

theorem submit_failed {id : Nat} {p : Packet} {e : ForwardError}
    (failed : s.submit g address id p = (some e, s')) : s' = s ∨ ∃ why, s' = s.endLink id why := by
  unfold State.submit at failed
  split at failed
  · cases failed
    exact Or.inl rfl
  · rcases writeNode_cases g s id p with ⟨fault, _, hw⟩ | ⟨_, hw⟩ | ⟨_, _, _, hw⟩ <;> rw [hw] at failed
    · cases fault with
      | refused e =>
        cases failed
        exact Or.inl rfl
      | failed | hungUp =>
        cases failed
        exact Or.inr ⟨_, rfl⟩
    · cases failed
    · cases failed

/-- A frame for a link that is open leaves the ledger as it is, unless the link breaks under it. -/
theorem submit_ledger (g : Setup) (s : State) (address : String) {id : Nat} (p : Packet) {place : String}
    (held : (id, place) ∈ s.ledger.held) (sound : s.ledger.Sound) :
    (s.submit g address id p).2.ledger = s.ledger ∨
    ∃ e, (s.submit g address id p).1 = some e ∧
      (s.submit g address id p).2.ledger = s.ledger.ends (s.network.lingers id) (id, place) := by
  have written := writeNode_ledger g s id p
  unfold State.submit
  cases found : s.nodeLink? id with
  | none => exact Or.inl rfl
  | some link =>
    have same : link.address = place := congrArg Prod.snd (sound.opened_inj
      (sound.mem_held.mp (nodeLink?_held found)).1 (sound.mem_held.mp held).1 rfl)
    dsimp only
    rcases writeNode_cases g s id p with ⟨fault, _, hw⟩ | ⟨gone, _⟩ | ⟨_, _, _, hw⟩
    · rw [hw]
      cases fault with
      | refused e => exact Or.inl rfl
      | failed | hungUp => exact Or.inr ⟨_, rfl, same ▸ endLink_ledger found _⟩
    · cases gone.symm.trans found
    · rw [hw] at written ⊢
      exact Or.inl written

theorem forward_sends (g : Setup) {s : State} (sound : s.ledger.Sound) (address : String) (h : Handle)
    (p : ClientPacket) : Sends (s.stillborn address) address s.ledger (s.forward g address h p).1
      (s.forward g address h p).2.ledger := by
  unfold State.forward
  split
  · exact .unreached (.barred _)
  have reaches := linkFor_reaches g address 2 sound
  split
  · rename_i e s₁ hl
    rw [hl] at reaches
    exact .unreached reaches
  · rename_i session _ _ id s₁ hl
    rw [hl] at reaches
    let asking : State := { s₁ with pending := s₁.pending.insert ⟨session.id, p.seq.toInt32⟩ }.record
      (.requested h ⟨session.id, p.seq.toInt32⟩)
    have same : asking.ledger = s₁.ledger := ledger_record (by trivial) _
    have sound₁ : asking.ledger.Sound := same ▸ reaches.steps.sound sound
    have held : (id, address) ∈ asking.ledger.held := same ▸ reaches.found rfl
    rcases submit_ledger g asking address (.node (p.wrap session.id)) held sound₁ with kept | ⟨e, failed, ended⟩
    · rw [same] at kept
      dsimp only
      split
      all_goals
        rename_i hw
        rw [hw] at kept
        rw [← kept] at reaches
        exact .decided _ reaches
    · rw [same] at ended
      dsimp only
      split
      · rename_i e' s₂ hw
        rw [hw] at ended
        have broken := Sends.broken e' (asking.network.lingers id) reaches
        rw [← ended] at broken
        exact broken
      · rename_i s₂ hw
        rw [hw] at failed
        cases failed

/-! ### Elsewhere -/

def Occurrence.place? : Occurrence → Option String
  | .linkOpened _ address | .linkEnded _ address _ => some address
  | _ => none

/-- Links to this address came and went, at most so many attempts were made for them, and at the links to other
addresses nothing happened. -/
structure Around (address : String) (attempts : Nat) (s : State) (news : List Occurrence) (s' : State) :
    Prop where
  history : s'.history = news ++ s.history
  places : ∀ o ∈ news, ∀ place, o.place? = some place → place = address
  links : s'.links.filter (·.address ≠ address) = s.links.filter (·.address ≠ address)
  slots : s'.pool.slots.filter (·.1 ≠ address) = s.pool.slots.filter (·.1 ≠ address)
  leaving : s'.pool.leaving.filter (·.1 ≠ address) = s.pool.leaving.filter (·.1 ≠ address)
  earliest : s.nextLink ≤ s'.nextLink
  latest : s'.nextLink ≤ s.nextLink + attempts

theorem Around.refl (address : String) (attempts : Nat) (s : State) : Around address attempts s [] s :=
  ⟨rfl, by simp, rfl, rfl, rfl, Nat.le_refl _, Nat.le_add_right _ _⟩

theorem Around.trans {s'' : State} {attempts attempts' : Nat} {news news' : List Occurrence}
    (first : Around address attempts s news s') (second : Around address attempts' s' news' s'') :
    Around address (attempts + attempts') s (news' ++ news) s'' where
  history := by rw [second.history, first.history, List.append_assoc]
  places := by
    intro o member
    rcases List.mem_append.mp member with late | early
    · exact second.places o late
    · exact first.places o early
  links := second.links.trans first.links
  slots := second.slots.trans first.slots
  leaving := second.leaving.trans first.leaving
  earliest := Nat.le_trans first.earliest second.earliest
  latest := by
    have := first.latest
    have := second.latest
    omega

theorem around_of_unplaced {news : List Occurrence} (address : String) (history : s'.history = news ++ s.history)
    (unplaced : ∀ o ∈ news, o.place? = none) (links : s'.links = s.links) (pool : s'.pool = s.pool)
    (next : s'.nextLink = s.nextLink) : Around address 0 s news s' where
  history := history
  places o member place found := by cases (unplaced o member).symm.trans found
  links := by rw [links]
  slots := by rw [pool]
  leaving := by rw [pool]
  earliest := Nat.le_of_eq next.symm
  latest := Nat.le_of_eq next

theorem filter_of_imp {α : Type} {p q : α → Bool} {l : List α} (within : ∀ x ∈ l, q x = true → p x = true) :
    (l.filter p).filter q = l.filter q := by
  rw [List.filter_filter]
  refine List.filter_congr fun x member => ?_
  cases hq : q x with
  | true => exact within x member hq
  | false => rfl

theorem strike_around (s : State) (address : String) (number attempts : Nat) :
    Around address attempts s [] (s.strike address number) := by
  refine ⟨rfl, by simp, rfl, filter_of_imp fun e _ other => ?_, rfl, Nat.le_refl _, Nat.le_add_right _ _⟩
  simp only [decide_eq_true_eq] at other ⊢
  exact fun same => other same.1

theorem endLink_around (sound : s.ledger.Sound) {id : Nat} (held : (id, address) ∈ s.ledger.held)
    (why : Ending) : ∃ news, Around address 0 s news (s.endLink id why) := by
  cases found : s.nodeLink? id with
  | none => exact absurd (List.mem_map_of_mem held) (nodeLink?_eq_none_iff.mp found)
  | some link =>
    have one (place : String) (other : (id, place) ∈ s.ledger.held) : place = address := congrArg Prod.snd
      (sound.opened_inj (sound.mem_held.mp other).1 (sound.mem_held.mp held).1 rfl)
    have place : link.address = address := one _ (nodeLink?_held found)
    have left : s.endLink id why = { s with
        links := s.links.filter (·.id ≠ id), pool := s.pool.leave (s.network.lingers id) address id
        history := .linkEnded id address why :: s.history } := by
      simp [State.endLink, found, State.record, place]
    refine ⟨[.linkEnded id address why], ?_⟩
    rw [left]
    refine ⟨rfl, by simp [Occurrence.place?], filter_of_imp fun other member away => ?_, ?_, ?_,
      Nat.le_refl _, Nat.le_refl _⟩
    · simp only [decide_eq_true_eq] at away ⊢
      rintro rfl
      exact away (one _ (List.mem_map.mpr ⟨other, member, rfl⟩))
    · unfold Pool.leave
      split
      · rfl
      · refine filter_of_imp fun e _ other => ?_
        simp only [decide_eq_true_eq] at other ⊢
        exact fun same => other same.1
    · unfold Pool.leave
      split
      · simp
      · rfl

theorem Seeks.around {result : Except ForwardError (Option Nat)} (seeks : Seeks g s address result s') :
    ∃ news, Around address 1 s news s' := by
  cases seeks with
  | held => exact ⟨_, .refl address 1 s⟩
  | dead slot => exact ⟨_, strike_around s address slot.number 1⟩
  | failed => exact ⟨[], rfl, by simp, rfl, rfl, rfl, Nat.le_succ _, Nat.le_refl _⟩
  | opened link _ _ place =>
    refine ⟨[.linkOpened s.nextLink address], rfl, by simp [Occurrence.place?], ?_, ?_, rfl, Nat.le_succ _,
      Nat.le_refl _⟩
    · simp [place]
    · simp [Pool.place]
  | flashed =>
    refine ⟨[.linkEnded s.nextLink address .peerClosed, .linkOpened s.nextLink address], rfl,
      by simp [Occurrence.place?], rfl, ?_, ?_, Nat.le_succ _, Nat.le_refl _⟩
    · simp [Pool.spend]
    · cases s.network.lingers s.nextLink <;> simp [Pool.spend, Pool.stray]

theorem linkFor_around (g : Setup) (address : String) (looks : Nat) {s : State} (sound : s.ledger.Sound) :
    ∃ news, Around address looks s news (s.linkFor g address looks).2 := by
  induction looks generalizing s with
  | zero => exact ⟨_, .refl address 0 s⟩
  | succ looks ih =>
    unfold State.linkFor
    split
    · exact ⟨_, .refl address _ s⟩
    rename_i running
    have running : s.ledger.draining = false := Bool.eq_false_iff.mpr running
    have seeks := seek_seeks g sound address
    obtain ⟨news, first⟩ := seeks.around
    have after := (seeks.looks.steps running).sound sound
    split <;> rename_i result <;> rw [result] at first after
    · exact ⟨news, { first with latest := Nat.le_trans first.latest (by omega) }⟩
    · exact ⟨news, { first with latest := Nat.le_trans first.latest (by omega) }⟩
    · obtain ⟨_, later⟩ := ih after
      exact ⟨_, Nat.add_comm 1 looks ▸ first.trans later⟩

/-- A frame that is not forwarded to an address leaves the links to other addresses alone. -/
theorem forward_around (g : Setup) {s : State} (sound : s.ledger.Sound) (address : String) (h : Handle)
    (p : ClientPacket) {e : ForwardError} (failed : (s.forward g address h p).1 = .error e) :
    ∃ news, Around address 2 s news (s.forward g address h p).2 := by
  obtain ⟨opened, reached⟩ := linkFor_around g address 2 sound
  have reaches := linkFor_reaches g address 2 sound
  unfold State.forward at failed ⊢
  cases hs : s.session? h with
  | none => exact ⟨_, .refl address 2 s⟩
  | some session =>
    rw [hs] at failed
    dsimp only at failed ⊢
    rcases hl : s.linkFor g address 2 with ⟨_ | id, s₁⟩ <;> rw [hl] at reached reaches failed
    · exact ⟨opened, reached⟩
    · generalize hk : (⟨session.id, p.seq.toInt32⟩ : RequestKey) = key at failed
      let asking : State := { s₁ with pending := s₁.pending.insert key }.record (.requested h key)
      have asked : Around address 0 s₁ [.requested h key] asking :=
        ⟨rfl, by simp [Occurrence.place?], rfl, rfl, rfl, Nat.le_refl _, Nat.le_refl _⟩
      have same : asking.ledger = s₁.ledger := ledger_record (by trivial) _
      have sound₁ : asking.ledger.Sound := same ▸ reaches.steps.sound sound
      have held : (id, address) ∈ asking.ledger.held := same ▸ reaches.found rfl
      dsimp only at failed ⊢
      rcases hw : asking.submit g address id (.node (p.wrap session.id)) with ⟨_ | met, s₂⟩ <;>
        simp only [asking] at hw <;> rw [hw] at failed
      · cases failed
      · obtain ⟨ended, struck⟩ : ∃ ended, Around address 0 asking ended s₂ := by
          rcases submit_failed hw with rfl | ⟨why, rfl⟩
          · exact ⟨_, .refl address 0 asking⟩
          · exact endLink_around sound₁ held why
        have around := (reached.trans asked).trans struck
        exact ⟨_, around.history, around.places, around.links, around.slots, around.leaving, around.earliest,
          around.latest⟩

end SessionGateway.Gateway
