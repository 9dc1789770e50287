import SessionGateway.Selection.Strategy
import SessionGateway.Text.ByName

/-! Where nodes are found. Live instances of a service come first; the configured nodes stand in when the
directory lists none. Registering an instance again replaces it where it stands; an instance that comes
back after it was removed goes to the end. -/
namespace SessionGateway.Selection

/-! ### The directory -/

structure Instance where
  id : String
  host : String
  port : UInt16
  deriving DecidableEq, Repr

def Instance.address (i : Instance) : String := s!"{i.host}:{i.port}"

/-- Replaces the entry with the id of `i`, or appends `i`. -/
def placeInstance (i : Instance) : List Instance → List Instance
  | [] => [i]
  | j :: later => if j.id = i.id then i :: later else j :: placeInstance i later

structure Directory where
  services : List (String × List Instance)
  deriving DecidableEq, Repr

namespace Directory

def empty : Directory := ⟨[]⟩

def instances (d : Directory) (service : String) : List Instance :=
  ((d.services.find? (·.1 = service)).map (·.2)).getD []

/-- Applies `f` to the list of one service, which is the empty list until the service is known. -/
def update (f : List Instance → List Instance) (service : String) :
    List (String × List Instance) → List (String × List Instance)
  | [] => [(service, f [])]
  | (name, list) :: later =>
    if name = service then (name, f list) :: later else (name, list) :: update f service later

def register (d : Directory) (service : String) (i : Instance) : Directory :=
  ⟨update (placeInstance i) service d.services⟩

/-- Removes an instance and tells whether it was listed. -/
def deregister (d : Directory) (service id : String) : Bool × Directory :=
  if (d.instances service).any (·.id = id) then
    (true, ⟨update (·.filter (·.id ≠ id)) service d.services⟩)
  else (false, d)

end Directory

/-! ### The resolver -/

abbrev NodeTable := Text.ByName String

def NodeTable.address? (t : NodeTable) (id : String) : Option String := t.value? id

structure Resolver where
  service : String
  directory : Option Directory
  nodes : NodeTable
  rotation : Rotation
  deriving DecidableEq, Repr

namespace Resolver

def live (r : Resolver) : List Instance :=
  match r.directory with
  | some d => d.instances r.service
  | none => []

def address? (r : Resolver) (id : String) : Option String :=
  match r.live.find? (·.id = id) with
  | some i => some i.address
  | none => r.nodes.address? id

/-- A node for someone who is bound to none yet: its id and address. -/
def choose (source : Nat → Nat) (r : Resolver) (strategy : Strategy) (player : Option Int64) :
    Option (String × String) × Resolver :=
  match r.live with
  | [] =>
    let (chosen, rotation) :=
      r.rotation.choose source strategy .configured r.nodes.entries player
    (chosen, { r with rotation })
  | live =>
    let (chosen, rotation) := r.rotation.choose source strategy .live live player
    (chosen.map fun i => (i.id, i.address), { r with rotation })

end Resolver

end SessionGateway.Selection
