import SessionGateway.Text.Reader

/-! How one of several nodes is chosen. Strategies choose positions, so one strategy serves both live
instances and statically configured nodes. No candidates give no choice and a single candidate is
taken without consulting the strategy. -/
namespace SessionGateway.Selection

inductive Strategy where
  | roundRobin
  | random
  | consistentHash
  | designated
  deriving DecidableEq, Repr

namespace Strategy

def all : List Strategy := [roundRobin, random, consistentHash, designated]

def name : Strategy → String
  | roundRobin => "round_robin"
  | random => "random"
  | consistentHash => "consistent_hash"
  | designated => "designated"

def ofName? (s : String) : Option Strategy := all.find? (·.name = s)

/-- The strategy that a person may have meant: blanks around it, ASCII capitals and hyphens for
underscores are let pass. -/
def ofText? (s : String) : Option Strategy :=
  let plain := (Text.trim s).map fun c => if c = '-' then '_' else c.toLower
  ofName? plain

def unknownMessage (s : String) : String :=
  s!"unknown route strategy '{s}', expected one of: round_robin, random, consistent_hash, designated"

/-- The two halves of the id folded together and taken as a signed word, without its sign. -/
def playerHash (player : Int64) : Nat :=
  let folded := (player.toUInt64 ^^^ (player.toUInt64 >>> 32)).toUInt32.toInt32
  folded.toInt.natAbs

/-- The position of a player among `count` candidates; there is none among zero. -/
def indexFor? (player : Int64) (count : Nat) : Option Nat :=
  if count = 0 then none else some (playerHash player % count)

end Strategy

/-- What choosing remembers: one rotation that all strategies share, and how many random draws were
taken from the source. -/
structure Rotation where
  counter : UInt64
  draws : Nat
  deriving DecidableEq, Repr

/-- Whether candidates are live instances or statically configured nodes. -/
inductive Candidates where
  | live
  | configured
  deriving DecidableEq, Repr

namespace Rotation

def initial : Rotation := ⟨0, 0⟩

/-- The next turn; the counter is one 64-bit word. -/
def turn (r : Rotation) : Nat × Rotation := (r.counter.toNat, { r with counter := r.counter + 1 })

/-- An unbounded position for two or more candidates. Without a player, consistent hashing takes
turns among live instances and the first of the configured nodes. -/
def pick (source : Nat → Nat) (r : Rotation) (strategy : Strategy) (candidates : Candidates)
    (player : Option Int64) : Nat × Rotation :=
  match strategy with
  | .roundRobin => r.turn
  | .random => (source r.draws, { r with draws := r.draws + 1 })
  | .designated => (0, r)
  | .consistentHash =>
    match player, candidates with
    | some p, _ => (Strategy.playerHash p, r)
    | none, .live => r.turn
    | none, .configured => (0, r)

/-- A position among `count` candidates. `source` is where random draws come from. -/
def select (source : Nat → Nat) (r : Rotation) (strategy : Strategy) (candidates : Candidates)
    (count : Nat) (player : Option Int64) : Option Nat × Rotation :=
  match count with
  | 0 => (none, r)
  | 1 => (some 0, r)
  | n =>
    let (position, r) := r.pick source strategy candidates player
    (some (position % n), r)

def choose (source : Nat → Nat) (r : Rotation) (strategy : Strategy) (candidates : Candidates)
    (among : List α) (player : Option Int64) : Option α × Rotation :=
  let (position, r) := r.select source strategy candidates among.length player
  (position.bind (among[·]?), r)

end Rotation

end SessionGateway.Selection
