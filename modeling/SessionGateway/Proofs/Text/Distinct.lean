import SessionGateway.Text.ByName
import Mathlib.Data.List.Nodup

/-! Things listed under keys. Where no key is used twice, what is found under one is what is listed under it. -/
namespace SessionGateway.Text

section Listed

variable {α β κ : Type} [DecidableEq κ] {key : α → κ} {list : List α} {part : α → β} {k : κ}

theorem map_find?_eq_none_iff : (list.find? (key · = k)).map part = none ↔ k ∉ list.map key := by
  simp

variable (distinct : (list.map key).Nodup)

include distinct

theorem find?_of_distinct {a : α} (listed : a ∈ list) : list.find? (key · = key a) = some a := by
  induction list with
  | nil => cases listed
  | cons first later ih =>
    obtain ⟨fresh, rest⟩ := List.nodup_cons.mp distinct
    rcases List.mem_cons.mp listed with rfl | listed
    · simp
    · have differs : key first ≠ key a := by
        intro same
        exact fresh (same ▸ List.mem_map_of_mem listed)
      rw [List.find?_cons_of_neg (by simpa using differs)]
      exact ih rest listed

theorem find?_eq_some_iff_of_distinct {a : α} :
    list.find? (key · = k) = some a ↔ a ∈ list ∧ key a = k := by
  constructor
  · intro found
    exact ⟨List.mem_of_find?_eq_some found, by simpa using List.find?_some found⟩
  · rintro ⟨listed, rfl⟩
    exact find?_of_distinct distinct listed

theorem map_find?_eq_some_iff_of_distinct {b : β} :
    (list.find? (key · = k)).map part = some b ↔ ∃ a ∈ list, key a = k ∧ part a = b := by
  simp only [Option.map_eq_some_iff, find?_eq_some_iff_of_distinct distinct, and_assoc]

end Listed

namespace ByName

variable {α : Type} (m : ByName α) {name : String} {a : α}

theorem names_distinct : (m.entries.map (·.1)).Nodup :=
  (List.pairwise_map.mpr m.sorted).imp String.ne_of_lt

theorem value?_eq_some_iff : m.value? name = some a ↔ (name, a) ∈ m.entries := by
  rw [value?, map_find?_eq_some_iff_of_distinct m.names_distinct]
  constructor
  · rintro ⟨_, listed, rfl, rfl⟩
    exact listed
  · intro listed
    exact ⟨(name, a), listed, rfl, rfl⟩

end ByName

end SessionGateway.Text
