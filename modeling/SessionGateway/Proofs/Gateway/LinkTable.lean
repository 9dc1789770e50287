import Mathlib.Data.List.Nodup
import Mathlib.Logic.Relation
import SessionGateway.Gateway.Pool

/-! The table of links against what is on record of them. Every link that is open stands in the place of its
address, and a place whose link ended is on its way out: it will be struck out by whoever finds it, or by
the link itself. A link that ended late does not hit the place that came after its own. -/
namespace SessionGateway.Gateway

namespace Pool

variable {p : Pool} {address : String} {number id : Nat} {lingers : Bool} {e : String × Slot} {slot : Slot}

theorem mem_of_slot? (found : p.slot? address = some slot) : (address, slot) ∈ p.slots := by
  obtain ⟨before, after, split, _⟩ := (List.lookup_eq_some_iff (l := p.slots)).mp found
  rw [split]
  exact List.mem_append_right before List.mem_cons_self

theorem slot?_eq_none_iff : p.slot? address = none ↔ address ∉ p.slots.map (·.1) := by
  rw [slot?, List.lookup_eq_none_iff]
  constructor
  · intro other here
    obtain ⟨e, member, rfl⟩ := List.mem_map.mp here
    simpa using other e member
  · intro away e member
    refine bne_iff_ne.mpr ?_
    rintro rfl
    exact away (List.mem_map_of_mem member)

theorem slot?_of_mem (placed : (p.slots.map (·.1)).Nodup) (member : (address, slot) ∈ p.slots) :
    p.slot? address = some slot := by
  cases found : p.slot? address with
  | none => exact absurd (List.mem_map_of_mem member) (slot?_eq_none_iff.mp found)
  | some slot' =>
    have same := List.inj_on_of_nodup_map placed (mem_of_slot? found) member rfl
    rw [(Prod.mk.inj same).2]

@[simp] theorem mem_strike :
    e ∈ (p.strike address number).slots ↔ e ∈ p.slots ∧ ¬(e.1 = address ∧ e.2.number = number) := by
  rw [strike, List.mem_filter, decide_eq_true_eq]

@[simp] theorem mem_quit :
    e ∈ (p.quit address id).slots ↔ e ∈ p.slots ∧ ¬(e.1 = address ∧ e.2.link = some id) := by
  rw [quit, List.mem_filter, decide_eq_true_eq]

@[simp] theorem mem_remove : e ∈ (p.remove address).2.slots ↔ e ∈ p.slots ∧ e.1 ≠ address := by
  simp [remove]

theorem strike_sublist : ((p.strike address number).slots.map (·.1)).Sublist (p.slots.map (·.1)) :=
  List.filter_sublist.map _

theorem quit_sublist : ((p.quit address id).slots.map (·.1)).Sublist (p.slots.map (·.1)) :=
  List.filter_sublist.map _

theorem remove_sublist : ((p.remove address).2.slots.map (·.1)).Sublist (p.slots.map (·.1)) :=
  List.filter_sublist.map _

theorem leave_remove : (p.remove address).2.leave lingers address id =
    ((p.leave lingers address id).remove address).2 := by
  cases lingers with
  | true => rfl
  | false =>
    have order := List.filter_comm (p := fun e : String × Slot => ¬(e.1 = address ∧ e.2.link = some id))
      (q := fun e => e.1 ≠ address) p.slots
    exact congrArg (fun slots => { p with slots }) order

theorem mem_quitAll (gone : List (String × Nat)) : e ∈ (gone.foldl (fun p e => p.quit e.1 e.2) p).slots ↔
    e ∈ p.slots ∧ ∀ l ∈ gone, ¬(e.1 = l.1 ∧ e.2.link = some l.2) := by
  induction gone generalizing p with
  | nil => simp
  | cons first gone ih =>
    rw [List.foldl_cons, ih, mem_quit, List.forall_mem_cons, and_assoc]

@[simp] theorem mem_settle :
    e ∈ p.settle.slots ↔ e ∈ p.slots ∧ ∀ l ∈ p.leaving, ¬(e.1 = l.1 ∧ e.2.link = some l.2) :=
  mem_quitAll p.leaving

theorem quitAll_sublist (gone : List (String × Nat)) :
    ((gone.foldl (fun p e => p.quit e.1 e.2) p).slots.map (·.1)).Sublist
      (p.slots.map (·.1)) := by
  induction gone generalizing p with
  | nil => exact List.Sublist.refl _
  | cons first gone ih => exact ih.trans quit_sublist

theorem quitAll_nextSlot (gone : List (String × Nat)) :
    (gone.foldl (fun p e => p.quit e.1 e.2) p).nextSlot = p.nextSlot := by
  induction gone generalizing p with
  | nil => rfl
  | cons first gone ih => exact ih

def place (p : Pool) (address : String) (link : Option Nat) : Pool :=
  { p with slots := p.slots ++ [(address, ⟨p.nextSlot, link⟩)], nextSlot := p.nextSlot + 1 }

def spend (p : Pool) : Pool := { p with nextSlot := p.nextSlot + 1 }

def stray (p : Pool) (lingers : Bool) (address : String) (id : Nat) : Pool :=
  if lingers then { p with leaving := p.leaving ++ [(address, id)] } else p

@[simp] theorem stray_slots : (p.stray lingers address id).slots = p.slots := by
  cases lingers <;> rfl

@[simp] theorem stray_nextSlot : (p.stray lingers address id).nextSlot = p.nextSlot := by
  cases lingers <;> rfl

theorem mem_stray_leaving {e : String × Nat} (member : e ∈ (p.stray lingers address id).leaving) :
    e ∈ p.leaving ∨ e = (address, id) := by
  cases lingers with
  | true => exact (List.mem_append.mp member).imp_right List.mem_singleton.mp
  | false => exact Or.inl member

theorem leave_leaving : (p.leave lingers address id).leaving = (p.stray lingers address id).leaving := by
  cases lingers <;> rfl

theorem enter_found (found : p.slot? address = some slot) : p.enter address = (slot, p) := by
  rw [enter, found]

theorem enter_clear (clear : p.slot? address = none) :
    p.enter address = (⟨p.nextSlot, none⟩, p.place address none) := by
  rw [enter, clear]
  rfl

section
variable (numbered : ∀ e ∈ p.slots, e.2.number < p.nextSlot)
include numbered

theorem fill_place : (p.place address none).fill p.nextSlot id = p.place address (some id) := by
  have others : p.slots.map (fun e =>
      (e.1, if e.2.number = p.nextSlot then { e.2 with link := some id } else e.2)) = p.slots := by
    refine (List.map_congr_left fun e member => ?_).trans (List.map_id p.slots)
    simp [Nat.ne_of_lt (numbered e member)]
  simp only [fill, place, List.map_append, others]
  simp

theorem strike_place {link : Option Nat} : (p.place address link).strike address p.nextSlot = p.spend := by
  have others : p.slots.filter (fun e => ¬(e.1 = address ∧ e.2.number = p.nextSlot)) =
      p.slots := by
    refine List.filter_eq_self.mpr fun e member => ?_
    simp [Nat.ne_of_lt (numbered e member)]
  simp only [strike, place, List.filter_append, others]
  simp [spend]

end

theorem leave_place (fresh : ∀ e ∈ p.slots, e.2.link ≠ some id) :
    (p.place address none).leave lingers address id = (p.stray lingers address id).place address none := by
  have others : p.slots.filter (fun e => ¬(e.1 = address ∧ e.2.link = some id)) =
      p.slots := by
    refine List.filter_eq_self.mpr fun e member => ?_
    simp [fresh e member]
  cases lingers with
  | true => rfl
  | false =>
    simp only [leave, quit, place, List.filter_append, others]
    simp [stray]

end Pool

/-- The links that are open, with the table, all that decides on them and all that is on record of them. -/
@[ext] structure Ledger where
  /-- The links that are open, by number and address. -/
  held : List (Nat × String)
  next : Nat
  draining : Bool
  opened : List (Nat × String)
  ended : List Nat
  pool : Pool
  deriving DecidableEq, Repr

namespace Ledger

variable {l l' : Ledger} {address : String} {lingers : Bool} {link : Nat × String}

def places (l : Ledger) : List String := l.held.map (·.2)

/-- An attempt that comes to nothing. Its place is taken back. -/
def skips (l : Ledger) : Ledger := { l with next := l.next + 1, pool := l.pool.spend }

def opens (l : Ledger) (address : String) : Ledger :=
  { l with
    held := l.held ++ [(l.next, address)], next := l.next + 1, opened := (l.next, address) :: l.opened
    pool := l.pool.place address (some l.next) }

/-- A connection that is gone as soon as it is there. Its place is struck out when it is found dead. -/
def flashes (l : Ledger) (lingers : Bool) (address : String) : Ledger :=
  { l with
    next := l.next + 1, opened := (l.next, address) :: l.opened, ended := l.next :: l.ended
    pool := (l.pool.stray lingers address l.next).spend }

def ends (l : Ledger) (lingers : Bool) (link : Nat × String) : Ledger :=
  { l with
    held := l.held.filter (·.1 ≠ link.1), ended := link.1 :: l.ended
    pool := l.pool.leave lingers link.2 link.1 }

/-- A place is struck out because its link is found dead. -/
def strikes (l : Ledger) (address : String) (number : Nat) : Ledger :=
  { l with pool := l.pool.strike address number }

def vacates (l : Ledger) (address : String) : Ledger := { l with pool := (l.pool.remove address).2 }

def settles (l : Ledger) : Ledger := { l with pool := l.pool.settle }

def drains (l : Ledger) : Ledger := { l with draining := true }

inductive Step (l : Ledger) : Ledger → Prop where
  | skips : l.draining = false → Step l l.skips
  | opens (address : String) : l.draining = false → l.pool.slot? address = none → Step l (l.opens address)
  | flashes (lingers : Bool) (address : String) : l.draining = false → l.pool.slot? address = none →
      Step l (l.flashes lingers address)
  | strikes (address : String) (slot : Slot) (id : Nat) : (address, slot) ∈ l.pool.slots →
      slot.link = some id → id ∉ l.held.map (·.1) → Step l (l.strikes address slot.number)
  | ends (lingers : Bool) (link : Nat × String) : link ∈ l.held → Step l (l.ends lingers link)
  | vacates (address : String) : address ∉ l.places → Step l (l.vacates address)
  | settles : Step l l.settles
  | drains : Step l l.drains

abbrev Steps : Ledger → Ledger → Prop := Relation.ReflTransGen Step

theorem Steps.of_eq (same : l' = l) : Steps l l' := same ▸ .refl

/-! ### What holds of every ledger -/

/-- The place of an address, and what is on record of the link in it. -/
structure Filled (l : Ledger) (address : String) (slot : Slot) (id : Nat) : Prop where
  link : slot.link = some id
  opened : (id, address) ∈ l.opened
  /-- The place of a link that ended is on its way out. -/
  leaving : id ∈ l.ended → (address, id) ∈ l.pool.leaving

structure Sound (l : Ledger) : Prop where
  held : l.held = (l.opened.filter (·.1 ∉ l.ended)).reverse
  opened : ∀ link ∈ l.opened, link.1 < l.next
  ended : ∀ id ∈ l.ended, id < l.next
  numbered : (l.opened.map (·.1)).Nodup
  placed : (l.pool.slots.map (·.1)).Nodup
  slots : ∀ e ∈ l.pool.slots, e.2.number < l.pool.nextSlot ∧ ∃ id, l.Filled e.1 e.2 id
  pooled : ∀ link ∈ l.held, ∃ slot, (link.2, slot) ∈ l.pool.slots ∧ slot.link = some link.1
  leaving : ∀ e ∈ l.pool.leaving, e.2 ∈ l.ended

theorem Sound.mem_held (sound : l.Sound) : link ∈ l.held ↔ link ∈ l.opened ∧ link.1 ∉ l.ended := by
  rw [sound.held, List.mem_reverse, List.mem_filter]
  simp

theorem Sound.opened_inj (sound : l.Sound) {a b : Nat × String} (ha : a ∈ l.opened) (hb : b ∈ l.opened)
    (same : a.1 = b.1) : a = b :=
  List.inj_on_of_nodup_map sound.numbered ha hb same

theorem Sound.held_inj (sound : l.Sound) {a b : Nat × String} (ha : a ∈ l.held) (hb : b ∈ l.held)
    (same : a.2 = b.2) : a = b := by
  obtain ⟨slot, member, filled⟩ := sound.pooled a ha
  obtain ⟨slot', member', filled'⟩ := sound.pooled b hb
  rw [same] at member
  have one := List.inj_on_of_nodup_map sound.placed member member' rfl
  obtain rfl : slot = slot' := (Prod.mk.inj one).2
  exact Prod.ext (Option.some.inj (filled.symm.trans filled')) same

theorem Sound.not_mem_places_ends (sound : l.Sound) (lingers : Bool) {id : Nat} (held : (id, address) ∈ l.held) :
    address ∉ (l.ends lingers (id, address)).places := by
  intro here
  obtain ⟨link, member, same⟩ := List.mem_map.mp here
  obtain ⟨old, apart⟩ := List.mem_filter.mp member
  exact of_decide_eq_true apart (congrArg Prod.fst (sound.held_inj old held same))

theorem Sound.held_nodup (sound : l.Sound) : (l.held.map (·.1)).Nodup := by
  rw [sound.held, List.map_reverse, List.nodup_reverse]
  exact sound.numbered.sublist (List.filter_sublist.map _)

theorem Sound.alone (sound : l.Sound) : l.places.Nodup :=
  (List.Nodup.of_map _ sound.held_nodup).map_on fun _ ha _ hb same => sound.held_inj ha hb same

theorem Sound.slot_numbers (sound : l.Sound) : ∀ e ∈ l.pool.slots, e.2.number < l.pool.nextSlot :=
  fun e member => (sound.slots e member).1

theorem Sound.next_fresh (sound : l.Sound) : l.next ∉ l.held.map (·.1) := by
  intro here
  obtain ⟨link, held, same⟩ := List.mem_map.mp here
  exact Nat.ne_of_lt (sound.opened link (sound.mem_held.mp held).1) same

theorem Sound.slots_old (sound : l.Sound) : ∀ e ∈ l.pool.slots, e.2.link ≠ some l.next := by
  intro e member new
  obtain ⟨_, id, filled⟩ := sound.slots e member
  obtain rfl := Option.some.inj (filled.link.symm.trans new)
  exact Nat.lt_irrefl _ (sound.opened _ filled.opened)

theorem Sound.held_of_slot (sound : l.Sound) {slot : Slot} {id : Nat} (member : (address, slot) ∈ l.pool.slots)
    (filled : slot.link = some id) (alive : id ∈ l.held.map (·.1)) : (id, address) ∈ l.held := by
  obtain ⟨_, id', here⟩ := sound.slots _ member
  obtain rfl := Option.some.inj (here.link.symm.trans filled)
  obtain ⟨link, held, rfl⟩ := List.mem_map.mp alive
  have same := sound.opened_inj (sound.mem_held.mp held).1 here.opened rfl
  exact same ▸ held

theorem Sound.slot_of_place (sound : l.Sound) (here : address ∈ l.places) :
    ∃ slot id, l.pool.slot? address = some slot ∧ slot.link = some id ∧ (id, address) ∈ l.held := by
  obtain ⟨link, held, rfl⟩ := List.mem_map.mp here
  obtain ⟨slot, member, filled⟩ := sound.pooled link held
  exact ⟨slot, link.1, Pool.slot?_of_mem sound.placed member, filled, held⟩

theorem Sound.held_of_settled (sound : l.Sound) (settled : l.pool.leaving = []) {slot : Slot}
    (found : l.pool.slot? address = some slot) : ∃ id, slot.link = some id ∧ (id, address) ∈ l.held := by
  obtain ⟨_, id, filled⟩ := sound.slots _ (Pool.mem_of_slot? found)
  refine ⟨id, filled.link, sound.mem_held.mpr ⟨filled.opened, fun ended => ?_⟩⟩
  have late := filled.leaving ended
  rw [settled] at late
  cases late

theorem Sound.slot?_isSome_iff (sound : l.Sound) (settled : l.pool.leaving = []) :
    (l.pool.slot? address).isSome ↔ address ∈ l.places := by
  constructor
  · intro found
    obtain ⟨slot, found⟩ := Option.isSome_iff_exists.mp found
    obtain ⟨id, _, held⟩ := sound.held_of_settled settled found
    exact List.mem_map_of_mem held
  · intro here
    obtain ⟨slot, _, found, _⟩ := sound.slot_of_place here
    exact Option.isSome_iff_exists.mpr ⟨slot, found⟩

theorem Sound.fresh_numbered (sound : l.Sound) (address : String) :
    (((l.next, address) :: l.opened).map (·.1)).Nodup := by
  refine List.nodup_cons.mpr ⟨?_, sound.numbered⟩
  intro used
  obtain ⟨link, opened, same⟩ := List.mem_map.mp used
  exact Nat.ne_of_lt (sound.opened link opened) same

theorem Sound.fresh_opened (sound : l.Sound) (address : String) :
    ∀ link ∈ (l.next, address) :: l.opened, link.1 < l.next + 1 := by
  intro link member
  rcases List.mem_cons.mp member with rfl | old
  · exact Nat.lt_succ_self _
  · exact Nat.lt_succ_of_lt (sound.opened link old)

theorem Sound.opens (sound : l.Sound) (away : l.pool.slot? address = none) : (l.opens address).Sound where
  held := by
    have unended : l.next ∉ l.ended := fun used => Nat.lt_irrefl _ (sound.ended _ used)
    simp [Ledger.opens, unended, sound.held]
  opened := sound.fresh_opened address
  ended := fun id used => Nat.lt_succ_of_lt (sound.ended id used)
  numbered := sound.fresh_numbered address
  placed := by
    simp only [Ledger.opens, Pool.place, List.map_append]
    refine List.nodup_append.mpr ⟨sound.placed, List.nodup_singleton _, ?_⟩
    rintro a ha b hb rfl
    obtain rfl := List.mem_singleton.mp hb
    exact Pool.slot?_eq_none_iff.mp away ha
  slots := by
    intro e member
    rcases List.mem_append.mp member with old | new
    · obtain ⟨number, id, filled⟩ := sound.slots e old
      exact ⟨Nat.lt_succ_of_lt number, id, filled.link, List.mem_cons_of_mem _ filled.opened, filled.leaving⟩
    · obtain rfl := List.mem_singleton.mp new
      exact ⟨Nat.lt_succ_self _, l.next, rfl, List.mem_cons_self,
        fun used => absurd (sound.ended _ used) (Nat.lt_irrefl _)⟩
  pooled := by
    intro link held
    rcases List.mem_append.mp held with old | new
    · obtain ⟨slot, member, filled⟩ := sound.pooled link old
      exact ⟨slot, List.mem_append_left _ member, filled⟩
    · obtain rfl := List.mem_singleton.mp new
      exact ⟨_, List.mem_append_right _ List.mem_cons_self, rfl⟩
  leaving := sound.leaving

theorem Sound.ended_of_stray (sound : l.Sound) {lingers : Bool} {id : Nat} {e : String × Nat}
    (member : e ∈ (l.pool.stray lingers address id).leaving) : e.2 ∈ id :: l.ended := by
  rcases Pool.mem_stray_leaving member with old | rfl
  · exact List.mem_cons_of_mem _ (sound.leaving e old)
  · exact List.mem_cons_self

/-- Whatever ended before has another number, so the end of a new connection hides no other. -/
theorem Sound.flashes (sound : l.Sound) (lingers : Bool) (address : String) :
    (l.flashes lingers address).Sound where
  held := by
    have others : l.opened.filter (·.1 ∉ l.next :: l.ended) = l.opened.filter (·.1 ∉ l.ended) := by
      apply List.filter_congr
      intro link opened
      simp [Nat.ne_of_lt (sound.opened link opened)]
    change l.held = (((l.next, address) :: l.opened).filter (·.1 ∉ l.next :: l.ended)).reverse
    rw [List.filter_cons_of_neg (by simp), others, sound.held]
  opened := sound.fresh_opened address
  ended := by
    intro id used
    rcases List.mem_cons.mp used with rfl | old
    · exact Nat.lt_succ_self _
    · exact Nat.lt_succ_of_lt (sound.ended id old)
  numbered := sound.fresh_numbered address
  placed := by
    simp only [Ledger.flashes, Pool.spend, Pool.stray_slots]
    exact sound.placed
  slots := by
    intro e member
    simp only [Ledger.flashes, Pool.spend, Pool.stray_slots, Pool.stray_nextSlot] at member ⊢
    obtain ⟨number, id, filled⟩ := sound.slots e member
    refine ⟨Nat.lt_succ_of_lt number, id, filled.link, List.mem_cons_of_mem _ filled.opened, fun used => ?_⟩
    have old : (e.1, id) ∈ l.pool.leaving := by
      rcases List.mem_cons.mp used with rfl | old
      · exact absurd (sound.opened _ filled.opened) (Nat.lt_irrefl _)
      · exact filled.leaving old
    cases lingers with
    | true => exact List.mem_append_left _ old
    | false => exact old
  pooled := by
    simp only [Ledger.flashes, Pool.spend, Pool.stray_slots]
    exact sound.pooled
  leaving := fun _ member => sound.ended_of_stray member

theorem Sound.ends (sound : l.Sound) (lingers : Bool) (held : link ∈ l.held) : (l.ends lingers link).Sound where
  held := by
    simp only [Ledger.ends]
    rw [sound.held, ← List.filter_reverse, List.filter_filter, List.filter_reverse]
    congr 1
    apply List.filter_congr
    intro other _
    by_cases same : other.1 = link.1 <;> simp [same]
  opened := sound.opened
  ended := by
    intro id used
    rcases List.mem_cons.mp used with rfl | old
    · exact sound.opened link (sound.mem_held.mp held).1
    · exact sound.ended id old
  numbered := sound.numbered
  placed := by
    cases lingers with
    | true => exact sound.placed
    | false => exact sound.placed.sublist Pool.quit_sublist
  slots := by
    have own {e : String × Slot} {id : Nat} (filled : l.Filled e.1 e.2 id) (same : id = link.1) :
        e.1 = link.2 :=
      congrArg Prod.snd (sound.opened_inj filled.opened (sound.mem_held.mp held).1 same)
    intro e member
    cases lingers with
    | true =>
      obtain ⟨number, id, filled⟩ := sound.slots e member
      refine ⟨number, id, filled.link, filled.opened, fun used => ?_⟩
      rcases List.mem_cons.mp used with same | old
      · rw [own filled same, same]
        exact List.mem_append_right _ List.mem_cons_self
      · exact List.mem_append_left _ (filled.leaving old)
    | false =>
      obtain ⟨there, kept⟩ := Pool.mem_quit.mp member
      obtain ⟨number, id, filled⟩ := sound.slots e there
      refine ⟨number, id, filled.link, filled.opened, fun used => ?_⟩
      rcases List.mem_cons.mp used with same | old
      · exact absurd ⟨own filled same, same ▸ filled.link⟩ kept
      · exact filled.leaving old
  pooled := by
    intro other member
    obtain ⟨there, apart⟩ := List.mem_filter.mp member
    obtain ⟨slot, placed, filled⟩ := sound.pooled other there
    cases lingers with
    | true => exact ⟨slot, placed, filled⟩
    | false =>
      refine ⟨slot, Pool.mem_quit.mpr ⟨placed, ?_⟩, filled⟩
      rintro ⟨_, same⟩
      exact of_decide_eq_true apart (Option.some.inj (filled.symm.trans same))
  leaving := fun _ member => sound.ended_of_stray (Pool.leave_leaving ▸ member)

theorem Sound.strikes (sound : l.Sound) {slot : Slot} {id : Nat} (member : (address, slot) ∈ l.pool.slots)
    (filled : slot.link = some id) (dead : id ∉ l.held.map (·.1)) :
    (l.strikes address slot.number).Sound where
  held := sound.held
  opened := sound.opened
  ended := sound.ended
  numbered := sound.numbered
  placed := sound.placed.sublist Pool.strike_sublist
  slots := by
    intro e struck
    obtain ⟨number, id, filled⟩ := sound.slots e (Pool.mem_strike.mp struck).1
    exact ⟨number, id, filled.link, filled.opened, filled.leaving⟩
  pooled := by
    intro link held
    obtain ⟨slot', placed, filled'⟩ := sound.pooled link held
    refine ⟨slot', Pool.mem_strike.mpr ⟨placed, ?_⟩, filled'⟩
    -- The place of an open link is not the one that is struck out, whose link is dead.
    rintro ⟨here, _⟩
    have one := List.inj_on_of_nodup_map sound.placed placed member here
    rw [(Prod.mk.inj one).2] at filled'
    obtain rfl := Option.some.inj (filled.symm.trans filled')
    exact dead (List.mem_map_of_mem held)
  leaving := sound.leaving

theorem Sound.vacates (sound : l.Sound) (away : address ∉ l.places) : (l.vacates address).Sound where
  held := sound.held
  opened := sound.opened
  ended := sound.ended
  numbered := sound.numbered
  placed := sound.placed.sublist Pool.remove_sublist
  slots := by
    intro e member
    obtain ⟨number, id, filled⟩ := sound.slots e (Pool.mem_remove.mp member).1
    exact ⟨number, id, filled.link, filled.opened, filled.leaving⟩
  pooled := by
    intro link held
    obtain ⟨slot, placed, filled⟩ := sound.pooled link held
    refine ⟨slot, Pool.mem_remove.mpr ⟨placed, ?_⟩, filled⟩
    rintro rfl
    exact away (List.mem_map_of_mem held)
  leaving := sound.leaving

/-- What stays in the table when all links that ended leave it is the place of an open link. -/
theorem Sound.settled_held (sound : l.Sound) {e : String × Slot} (member : e ∈ l.pool.settle.slots) :
    e.2.number < l.pool.nextSlot ∧ ∃ id, e.2.link = some id ∧ (id, e.1) ∈ l.held := by
  obtain ⟨there, stays⟩ := Pool.mem_settle.mp member
  obtain ⟨number, id, filled⟩ := sound.slots e there
  refine ⟨number, id, filled.link, sound.mem_held.mpr ⟨filled.opened, fun used => ?_⟩⟩
  exact stays _ (filled.leaving used) ⟨rfl, filled.link⟩

theorem Sound.settles (sound : l.Sound) : l.settles.Sound where
  held := sound.held
  opened := sound.opened
  ended := sound.ended
  numbered := sound.numbered
  placed := sound.placed.sublist (Pool.quitAll_sublist _)
  slots := by
    intro e member
    obtain ⟨number, id, filled, held⟩ := sound.settled_held member
    obtain ⟨opened, unended⟩ := sound.mem_held.mp held
    refine ⟨?_, id, filled, opened, fun used => absurd used unended⟩
    simpa [Ledger.settles, Pool.settle, Pool.quitAll_nextSlot] using number
  pooled := by
    intro link held
    obtain ⟨slot, placed, filled⟩ := sound.pooled link held
    refine ⟨slot, Pool.mem_settle.mpr ⟨placed, ?_⟩, filled⟩
    rintro gone leaves ⟨_, same⟩
    have ended := sound.leaving gone leaves
    rw [← Option.some.inj (filled.symm.trans same)] at ended
    exact (sound.mem_held.mp held).2 ended
  leaving := nofun

theorem Step.sound (step : Step l l') (sound : l.Sound) : l'.Sound := by
  cases step with
  | skips =>
    refine ⟨sound.held, fun link opened => Nat.lt_succ_of_lt (sound.opened link opened),
      fun id used => Nat.lt_succ_of_lt (sound.ended id used), sound.numbered, sound.placed, ?_,
      sound.pooled, sound.leaving⟩
    intro e member
    obtain ⟨number, id, filled⟩ := sound.slots e member
    exact ⟨Nat.lt_succ_of_lt number, id, filled.link, filled.opened, filled.leaving⟩
  | opens address _ away => exact sound.opens away
  | flashes lingers address => exact sound.flashes lingers address
  | strikes address slot id member filled dead => exact sound.strikes member filled dead
  | ends lingers link held => exact sound.ends lingers held
  | vacates address away => exact sound.vacates away
  | settles => exact sound.settles
  | drains =>
    refine ⟨sound.held, sound.opened, sound.ended, sound.numbered, sound.placed, ?_, sound.pooled,
      sound.leaving⟩
    intro e member
    obtain ⟨number, id, filled⟩ := sound.slots e member
    exact ⟨number, id, filled.link, filled.opened, filled.leaving⟩

theorem Steps.sound (path : Steps l l') (sound : l.Sound) : l'.Sound := by
  induction path with
  | refl => exact sound
  | tail _ step ih => exact step.sound ih

theorem Steps.draining (path : Steps l l') (draining : l.draining = true) : l'.draining = true := by
  induction path with
  | refl => exact draining
  | tail _ step ih =>
    cases step with
    | drains => rfl
    | _ => exact ih

theorem Steps.slots_subset (path : Steps l l') (draining : l.draining = true) : l'.pool.slots ⊆ l.pool.slots := by
  induction path with
  | refl => exact List.Subset.refl _
  | tail before step ih =>
    have closed := Steps.draining before draining
    refine List.Subset.trans ?_ ih
    cases step with
    | skips running => cases closed.symm.trans running
    | opens _ running => cases closed.symm.trans running
    | flashes _ _ running => cases closed.symm.trans running
    | strikes | vacates => exact List.filter_sublist.subset
    | ends lingers link held =>
      cases lingers with
      | true => exact List.Subset.refl _
      | false => exact List.filter_sublist.subset
    | settles => exact fun e member => (Pool.mem_settle.mp member).1
    | drains => exact List.Subset.refl _

structure Drained (l : Ledger) : Prop where
  draining : l.draining = true
  held : l.held = []

theorem Steps.still (path : Steps l l') (drained : l.Drained) :
    l'.Drained ∧ l'.opened = l.opened ∧ l'.ended = l.ended := by
  induction path with
  | refl => exact ⟨drained, rfl, rfl⟩
  | tail _ step ih =>
    obtain ⟨still, opened, ended⟩ := ih
    cases step with
    | skips running => cases still.draining.symm.trans running
    | opens _ running => cases still.draining.symm.trans running
    | flashes _ _ running => cases still.draining.symm.trans running
    | ends lingers link held => simp [still.held] at held
    | strikes | vacates | settles | drains => exact ⟨⟨by first | rfl | exact still.draining, still.held⟩, opened, ended⟩

end Ledger

end SessionGateway.Gateway
