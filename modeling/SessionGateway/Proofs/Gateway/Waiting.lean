import SessionGateway.Gateway.Pending
import SessionGateway.Proofs.Since
import Mathlib.Algebra.BigOperators.Group.Finset.Basic
import Mathlib.Data.Set.Card

/-! The table of waiting requests as a set of keys. A key is in it from its entry until it is taken or its session
is forgotten; entering it again changes nothing. A map that names for each key the session that waits answers
every call in the same way. -/
namespace SessionGateway.Gateway

open Wire

inductive TableCall where
  | insert (k : RequestKey)
  | take (k : RequestKey)
  | forget (session : SessionId)
  deriving DecidableEq, Repr

/-- The key was entered, and since then it was neither taken nor was its session forgotten. -/
def Waits (record : List TableCall) (k : RequestKey) : Prop :=
  Since (· = .insert k) (fun c => c = .take k ∨ c = .forget k.session) record

namespace Pending

def perform (p : Pending) : TableCall → Pending
  | .insert k => p.insert k
  | .take k => (p.take k).2
  | .forget session => (p.forget session).2

def after (p : Pending) (record : List TableCall) : Pending := record.foldl perform p

theorem after_concat (p : Pending) (record : List TableCall) (c : TableCall) :
    p.after (record ++ [c]) = (p.after record).perform c := by
  simp [after]

theorem contains_iff {p : Pending} {k : RequestKey} : p.contains k = true ↔ k ∈ p.keys :=
  List.contains_iff_mem

theorem mem_after {record : List TableCall} {k : RequestKey} :
    k ∈ (empty.after record).keys ↔ Waits record k := by
  induction record using List.reverseRecOn with
  | nil => simp [after, empty, Waits, not_since_nil]
  | append_singleton record c ih =>
    rw [after_concat, Waits, since_concat, ← Waits, ← ih]
    cases c with
    | insert k' => simp [perform, eq_comm]
    | take k' => simp [perform, and_comm, eq_comm]
    | forget session => simp [perform, and_comm, eq_comm]

/-! ### Counting -/

/-- The numbers under which a session has requests waiting. -/
def numbers (p : Pending) (session : SessionId) : Set Int32 := {seq | ⟨session, seq⟩ ∈ p.keys}

theorem ncard_numbers (p : Pending) (session : SessionId) : (p.numbers session).ncard = p.countFor session := by
  let own := p.keys.filter (·.session = session)
  have mem_own {k : RequestKey} : k ∈ own ↔ k ∈ p.keys ∧ k.session = session := by
    simp [own]
  have distinct : (own.map (·.seq)).Nodup := by
    refine List.Nodup.map_on ?_ (p.nodup.filter _)
    rintro ⟨_, _⟩ first ⟨_, _⟩ second same
    obtain ⟨_, rfl⟩ := mem_own.mp first
    obtain ⟨_, other⟩ := mem_own.mp second
    exact congrArg₂ RequestKey.mk other.symm same
  have listed : p.numbers session = ↑(own.map (·.seq)).toFinset := by
    ext seq
    rw [List.coe_toFinset]
    constructor
    · intro waits
      exact List.mem_map.mpr ⟨⟨session, seq⟩, mem_own.mpr ⟨waits, rfl⟩, rfl⟩
    · intro listed
      obtain ⟨k, here, rfl⟩ := List.mem_map.mp listed
      obtain ⟨waits, rfl⟩ := mem_own.mp here
      exact waits
  rw [listed, Set.ncard_coe_finset, List.toFinset_card_of_nodup distinct, List.length_map, countFor,
    List.countP_eq_length_filter]

def sessions (p : Pending) : Finset SessionId := (p.keys.map (·.session)).toFinset

theorem mem_sessions {p : Pending} {session : SessionId} :
    session ∈ p.sessions ↔ ∃ seq, (⟨session, seq⟩ : RequestKey) ∈ p.keys := by
  simp only [sessions, List.mem_toFinset, List.mem_map]
  constructor
  · rintro ⟨⟨_, seq⟩, listed, rfl⟩
    exact ⟨seq, listed⟩
  · rintro ⟨seq, listed⟩
    exact ⟨⟨session, seq⟩, listed, rfl⟩

theorem size_eq_sum (p : Pending) : p.size = ∑ session ∈ p.sessions, p.countFor session := by
  have each := List.sum_toFinset_count_eq_length (p.keys.map (·.session))
  rw [List.length_map] at each
  rw [size, ← each]
  refine Finset.sum_congr rfl fun session _ => ?_
  rw [List.count, List.countP_map]
  rfl

end Pending

/-! ### A map -/

deriving instance Hashable for RequestKey

structure WaitingMap where
  entries : Std.HashMap RequestKey SessionId

namespace WaitingMap

variable (m : WaitingMap)

def empty : WaitingMap := ⟨∅⟩

def contains (k : RequestKey) : Bool := m.entries.contains k

def insert (k : RequestKey) : WaitingMap := ⟨m.entries.insert k k.session⟩

def take (k : RequestKey) : Option SessionId × WaitingMap := (m.entries[k]?, ⟨m.entries.erase k⟩)

def countFor (session : SessionId) : Nat := m.entries.keys.countP (·.session = session)

def forget (session : SessionId) : Nat × WaitingMap :=
  (m.entries.fold (fun removed k _ => if k.session = session then removed + 1 else removed) 0,
    ⟨m.entries.filter fun k _ => k.session ≠ session⟩)

def size : Nat := m.entries.size

def perform : TableCall → WaitingMap
  | .insert k => m.insert k
  | .take k => (m.take k).2
  | .forget session => (m.forget session).2

def after (record : List TableCall) : WaitingMap := record.foldl perform m

def Holds (p : Pending) : Prop := ∀ k, m.entries[k]? = if k ∈ p.keys then some k.session else none

structure Mirrors (p : Pending) : Prop where
  contains : ∀ k, m.contains k = p.contains k
  take : ∀ k, (m.take k).1 = (p.take k).1
  countFor : ∀ session, m.countFor session = p.countFor session
  forget : ∀ session, (m.forget session).1 = (p.forget session).1
  size : m.size = p.size

variable {m} {p : Pending}

theorem empty_holds : empty.Holds .empty := by
  intro k
  simp [empty, Pending.empty]

theorem Holds.perform (holds : m.Holds p) (c : TableCall) : (m.perform c).Holds (p.perform c) := by
  intro k
  cases c with
  | insert k' =>
    by_cases same : k' = k
    · simp [WaitingMap.perform, WaitingMap.insert, Pending.perform, same]
    · simp [WaitingMap.perform, WaitingMap.insert, Pending.perform, Std.HashMap.getElem?_insert, holds k, same,
        Ne.symm same]
  | take k' =>
    by_cases same : k' = k
    · simp [WaitingMap.perform, WaitingMap.take, Pending.perform, same]
    · simp [WaitingMap.perform, WaitingMap.take, Pending.perform, Std.HashMap.getElem?_erase, holds k, same,
        Ne.symm same]
  | forget session =>
    by_cases own : k.session = session
    · simp [WaitingMap.perform, WaitingMap.forget, Pending.perform, holds k, own]
    · simp only [WaitingMap.perform, WaitingMap.forget, Pending.perform, Pending.mem_forget,
        Std.HashMap.getElem?_filter', holds k, own, ne_eq, not_false_eq_true, decide_true, and_true]
      split <;> rfl

theorem after_holds (record : List TableCall) : (empty.after record).Holds (Pending.empty.after record) := by
  induction record using List.reverseRecOn with
  | nil => exact empty_holds
  | append_singleton record c ih =>
    rw [Pending.after_concat, after, List.foldl_append]
    exact ih.perform c

theorem Holds.keys (holds : m.Holds p) : m.entries.keys.Perm p.keys := by
  refine (List.perm_ext_iff_of_nodup Std.HashMap.nodup_keys p.nodup).mpr fun k => ?_
  rw [Std.HashMap.mem_keys, Std.HashMap.mem_iff_isSome_getElem?, holds k]
  split <;> simp_all

theorem foldl_count {α : Type} (q : α → Prop) [DecidablePred q] (list : List α) (n : Nat) :
    list.foldl (fun n a => if q a then n + 1 else n) n = n + list.countP (q ·) := by
  induction list generalizing n with
  | nil => rfl
  | cons a later ih =>
    rw [List.foldl_cons, ih]
    by_cases here : q a
    · simp [here, Nat.add_assoc, Nat.add_comm 1]
    · simp [here]

theorem Holds.mirrors (holds : m.Holds p) : m.Mirrors p where
  contains k := by
    rw [WaitingMap.contains, Std.HashMap.contains_eq_isSome_getElem?, holds k, Pending.contains]
    split <;> simp_all
  take k := by
    rw [WaitingMap.take, holds k, Pending.take, Pending.contains]
    simp
  countFor session := holds.keys.countP_eq _
  forget session := by
    rw [WaitingMap.forget, Std.HashMap.fold_eq_foldl_keys, foldl_count, Nat.zero_add]
    exact holds.keys.countP_eq _
  size := by
    rw [WaitingMap.size, Pending.size, ← Std.HashMap.length_keys, holds.keys.length_eq]

end WaitingMap

/-! ### Any calls -/

/-- After any calls, the table contains the keys that these leave waiting and no others. Taking a key tells its
session just if the key is contained, and takes nothing else. Forgetting a session tells how many numbers it has
waiting, and drops them and nothing else. The table is as large as the sessions have keys in it together. All
this is so, too, if it is kept as a map from keys to sessions. -/
theorem waits_as_recorded (record : List TableCall) :
    let p := Pending.empty.after record
    (∀ k, p.contains k = true ↔ Waits record k) ∧
    (∀ k, (∀ session, (p.take k).1 = some session ↔ p.contains k = true ∧ session = k.session) ∧
      ∀ k', (p.take k).2.contains k' = true ↔ p.contains k' = true ∧ k' ≠ k) ∧
    (∀ session, (p.forget session).1 = p.countFor session ∧
      p.countFor session = Set.ncard {seq | p.contains ⟨session, seq⟩ = true} ∧
      ∀ k, (p.forget session).2.contains k = true ↔ p.contains k = true ∧ k.session ≠ session) ∧
    (p.size = ∑ session ∈ p.sessions, p.countFor session ∧
      ∀ session, session ∈ p.sessions ↔ ∃ seq, p.contains ⟨session, seq⟩ = true) ∧
    (WaitingMap.empty.after record).Mirrors p := by
  intro p
  simp only [Pending.contains_iff]
  refine ⟨fun k => Pending.mem_after, ?_, ?_, ⟨p.size_eq_sum, fun session => Pending.mem_sessions⟩,
    (WaitingMap.after_holds record).mirrors⟩
  · intro k
    refine ⟨?_, p.mem_take k⟩
    intro session
    simp [Pending.take, Pending.contains, eq_comm]
  · intro session
    exact ⟨rfl, (p.ncard_numbers session).symm, p.mem_forget session⟩

/-- A request is made again, and the session is forgotten whose id the other's begins with. -/
example :
    let p := Pending.empty.after [.insert ⟨1, 7⟩, .insert ⟨11, 7⟩, .insert ⟨1, -7⟩, .insert ⟨1, 7⟩, .take ⟨11, 8⟩]
    (p.forget 1).1 = 2 ∧ (p.forget 1).2.keys = [⟨11, 7⟩] := by
  decide

end SessionGateway.Gateway
