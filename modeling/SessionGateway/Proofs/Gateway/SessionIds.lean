import SessionGateway.Gateway.State
import Mathlib.Data.List.Nodup
import Mathlib.Data.List.Perm.Subperm

/-! The ids of sessions. They go round, ids in use are skipped, and among one more candidate than there
are ids in use one is free. -/
namespace SessionGateway.Gateway

open Wire

/-- The ids in the order they are given out, over and over. -/
def ordinal (n : Nat) : SessionId := Int32.ofNat (n % idCount + 1)

theorem ordinal_toInt (n : Nat) : (ordinal n).toInt = n % idCount + 1 := by
  have small : n % idCount < idCount := Nat.mod_lt _ (by decide)
  unfold ordinal
  rw [Int32.toInt_ofNat_of_lt]
  · simp
  · unfold idCount at *
    omega

theorem nextId_ordinal (n : Nat) : nextId (ordinal n) = ordinal (n + 1) := by
  apply Int32.toInt_inj.mp
  have small : n % idCount < idCount := Nat.mod_lt _ (by decide)
  have here := ordinal_toInt n
  rw [ordinal_toInt (n + 1)]
  unfold nextId
  unfold idCount at *
  split
  · rename_i last
    rw [last] at here
    have max : Int32.maxValue.toInt = 2147483647 := by decide
    have one : (1 : Int32).toInt = 1 := by decide
    omega
  · rename_i more
    have below : (ordinal n).toInt ≠ 2147483647 := by
      intro last
      apply more
      apply Int32.toInt_inj.mp
      rw [last]
      decide
    rw [Int32.toInt_add, here]
    have one : (1 : Int32).toInt = 1 := by decide
    rw [one, Int.bmod_eq_of_le (by omega) (by omega)]
    omega

theorem ordinal_inj {m n : Nat} (hm : m < n + idCount) (hn : n < m + idCount)
    (same : ordinal m = ordinal n) : m = n := by
  have values := ordinal_toInt m
  rw [same, ordinal_toInt n] at values
  unfold idCount at *
  omega

theorem freeId_cases (used : SessionId → Bool) (m n : Nat) : ∃ j ≤ n,
    freeId used (ordinal m) n = (ordinal (m + j), ordinal (m + j + 1)) ∧
    (∀ i < j, used (ordinal (m + i)) = true) ∧ (used (ordinal (m + j)) = false ∨ j = n) := by
  induction n generalizing m with
  | zero => exact ⟨0, Nat.le_refl 0, by simp [freeId, nextId_ordinal], by simp, Or.inr rfl⟩
  | succ n ih =>
    unfold freeId
    by_cases taken : used (ordinal m) = true
    · obtain ⟨j, bound, result, before, free⟩ := ih (m + 1)
      have shift (i : Nat) : m + 1 + i = m + (i + 1) := by omega
      rw [if_pos taken, nextId_ordinal, result]
      refine ⟨j + 1, by omega, by rw [shift], ?_, ?_⟩
      · intro i hi
        cases i with
        | zero => exact taken
        | succ i =>
          rw [← shift]
          exact before i (by omega)
      · rw [← shift]
        rcases free with free | rfl
        · exact Or.inl free
        · exact Or.inr rfl
    · rw [if_neg taken, nextId_ordinal]
      exact ⟨0, by omega, rfl, by simp, Or.inl (by simpa using taken)⟩

theorem freeId_free {used : SessionId → Bool} {ids : List SessionId}
    (listed : ∀ id, used id = true → id ∈ ids) (room : ids.length < idCount) (m : Nat) : ∃ j,
    freeId used (ordinal m) ids.length = (ordinal (m + j), ordinal (m + j + 1)) ∧
    (∀ i < j, used (ordinal (m + i)) = true) ∧ used (ordinal (m + j)) = false := by
  obtain ⟨j, bound, result, before, free⟩ := freeId_cases used m ids.length
  refine ⟨j, result, before, ?_⟩
  by_contra taken
  have last : j = ids.length := free.resolve_left taken
  let candidates := (List.range (ids.length + 1)).map fun i => ordinal (m + i)
  have distinct : candidates.Nodup := by
    apply List.Nodup.map_on _ List.nodup_range
    intro a ha b hb same
    rw [List.mem_range] at ha hb
    have sum := ordinal_inj (m := m + a) (n := m + b) (by omega) (by omega) same
    omega
  have inside : candidates ⊆ ids := by
    intro id hid
    obtain ⟨i, hi, rfl⟩ := List.mem_map.mp hid
    rw [List.mem_range] at hi
    apply listed
    by_cases hij : i < j
    · exact before i hij
    · obtain rfl : i = j := by omega
      simpa using taken
  have count := distinct.length_le_of_subset inside
  simp only [candidates, List.length_map, List.length_range] at count
  omega

end SessionGateway.Gateway
