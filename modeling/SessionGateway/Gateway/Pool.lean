/-! The table of links by address. An address has one place, known by its number, which is filled once with the
link that was opened for it. A place goes away in three ways: whoever finds its link dead strikes it out by
its number, a link that ended strikes out the place it is in, and whoever closes a link takes its place
away. A link may end some time before it strikes out its place, and another place may stand there then. -/
namespace SessionGateway.Gateway

structure Slot where
  number : Nat
  link : Option Nat
  deriving DecidableEq, Repr

structure Pool where
  /-- At most one to an address. -/
  slots : List (String × Slot)
  nextSlot : Nat
  /-- Links that ended and have yet to strike out their places. -/
  leaving : List (String × Nat)
  deriving DecidableEq, Repr

namespace Pool

def empty : Pool := ⟨[], 0, []⟩

def slot? (p : Pool) (address : String) : Option Slot := p.slots.lookup address

/-- The place of an address, a new one if it has none. -/
def enter (p : Pool) (address : String) : Slot × Pool :=
  match p.slot? address with
  | some slot => (slot, p)
  | none =>
    let slot : Slot := ⟨p.nextSlot, none⟩
    (slot, { p with slots := p.slots ++ [(address, slot)], nextSlot := p.nextSlot + 1 })

def fill (p : Pool) (number link : Nat) : Pool :=
  { p with slots := p.slots.map fun e =>
      (e.1, if e.2.number = number then { e.2 with link := some link } else e.2) }

/-- Strikes out this place of an address, and no other. -/
def strike (p : Pool) (address : String) (number : Nat) : Pool :=
  { p with slots := p.slots.filter fun e => ¬(e.1 = address ∧ e.2.number = number) }

/-- Strikes out the place of an address if this link is in it. -/
def quit (p : Pool) (address : String) (link : Nat) : Pool :=
  { p with slots := p.slots.filter fun e => ¬(e.1 = address ∧ e.2.link = some link) }

/-- A link ended, and strikes out its place at once or later. -/
def leave (p : Pool) (lingers : Bool) (address : String) (link : Nat) : Pool :=
  if lingers then { p with leaving := p.leaving ++ [(address, link)] } else p.quit address link

/-- All links that ended have struck out their places. -/
def settle (p : Pool) : Pool :=
  { p.leaving.foldl (fun p e => p.quit e.1 e.2) p with leaving := [] }

def remove (p : Pool) (address : String) : Option Slot × Pool :=
  (p.slot? address, { p with slots := p.slots.filter (·.1 ≠ address) })

end Pool

end SessionGateway.Gateway
