import SessionGateway.Wire.Packet

/-! Requests that wait for their reply. A request is known by the session that sent it and the sequence
number it bears on the way to the node. There is no timeout: a request that is never answered waits
until its session goes away. -/
namespace SessionGateway.Gateway

open Wire

structure RequestKey where
  session : SessionId
  seq : Int32
  deriving DecidableEq, Repr

def RequestKey.text (k : RequestKey) : String := s!"{k.session}:{k.seq}"

structure Pending where
  keys : List RequestKey
  nodup : keys.Nodup
  deriving DecidableEq, Repr

namespace Pending

def empty : Pending := ⟨[], .nil⟩

def contains (p : Pending) (k : RequestKey) : Bool := p.keys.contains k

/-- A request under a key that is already waiting takes its place. -/
def insert (p : Pending) (k : RequestKey) : Pending :=
  if h : k ∈ p.keys then p
  else ⟨k :: p.keys, List.nodup_cons.2 ⟨h, p.nodup⟩⟩

/-- Ends a wait; the session that waited, if one did. -/
def take (p : Pending) (k : RequestKey) : Option SessionId × Pending :=
  (if p.contains k then some k.session else none,
    ⟨p.keys.filter (· ≠ k), p.nodup.sublist List.filter_sublist⟩)

def countFor (p : Pending) (session : SessionId) : Nat := p.keys.countP (·.session = session)

def forget (p : Pending) (session : SessionId) : Nat × Pending :=
  (p.countFor session,
    ⟨p.keys.filter (·.session ≠ session), p.nodup.sublist List.filter_sublist⟩)

def size (p : Pending) : Nat := p.keys.length

def isEmpty (p : Pending) : Bool := p.keys.isEmpty

@[simp] theorem mem_insert (p : Pending) (k k' : RequestKey) :
    k' ∈ (p.insert k).keys ↔ k' = k ∨ k' ∈ p.keys := by
  unfold insert
  split
  · constructor
    · exact Or.inr
    · rintro (rfl | h) <;> assumption
  · simp

@[simp] theorem mem_take (p : Pending) (k k' : RequestKey) :
    k' ∈ (p.take k).2.keys ↔ k' ∈ p.keys ∧ k' ≠ k := by
  simp [take]

@[simp] theorem mem_forget (p : Pending) (session : SessionId) (k : RequestKey) :
    k ∈ (p.forget session).2.keys ↔ k ∈ p.keys ∧ k.session ≠ session := by
  simp [forget]

theorem mem_insert_take (p : Pending) (k k' : RequestKey) :
    k' ∈ ((p.insert k).take k).2.keys ↔ k' ∈ p.keys ∧ k' ≠ k := by
  rw [mem_take, mem_insert]
  constructor
  · rintro ⟨rfl | hk, other⟩
    · exact absurd rfl other
    · exact ⟨hk, other⟩
  · rintro ⟨hk, other⟩
    exact ⟨Or.inr hk, other⟩

theorem take_of_mem {p : Pending} {k : RequestKey} (hk : k ∈ p.keys) :
    (p.take k).1 = some k.session := by
  simp [take, contains, hk]

theorem take_of_not_mem {p : Pending} {k : RequestKey} (hk : k ∉ p.keys) : p.take k = (none, p) := by
  have keys : p.keys.filter (· ≠ k) = p.keys := by
    apply List.filter_eq_self.mpr
    intro k' hm
    exact decide_eq_true fun he => hk (he ▸ hm)
  have same : (p.take k).2 = p := by
    cases p
    simpa [take] using keys
  exact Prod.ext (by simp [take, contains, hk]) same

end Pending

end SessionGateway.Gateway
