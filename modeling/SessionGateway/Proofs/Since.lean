import Mathlib.Data.List.Basic
import Mathlib.Data.List.Induction

/-! What began in a history and did not end since. Both are told by single events, so what lasts after one more
event is told by that event and by what lasted before it. -/
namespace SessionGateway

variable {α : Type} {starts ends : α → Prop} {history : List α} {a : α} {n : Nat}

/-- Something that starts it happened, and nothing that ends it happened later. -/
def Since (starts ends : α → Prop) (history : List α) : Prop :=
  ∃ before a later, history = before ++ a :: later ∧ starts a ∧ ∀ b ∈ later, ¬ends b

/-- It lasts since the event with this number, before which it did not last. -/
def SinceAt (starts ends : α → Prop) (history : List α) (n : Nat) : Prop :=
  ∃ before a later, history = before ++ a :: later ∧ before.length = n ∧ starts a ∧
    ¬Since starts ends before ∧ ∀ b ∈ later, ¬ends b

theorem concat_eq_append_cons {before later : List α} {b : α}
    (split : history ++ [a] = before ++ b :: later) :
    (before = history ∧ b = a ∧ later = []) ∨
      ∃ rest, later = rest ++ [a] ∧ history = before ++ b :: rest := by
  rcases List.eq_nil_or_concat' later with rfl | ⟨rest, last, rfl⟩
  · obtain ⟨rfl, same⟩ := List.append_inj' split rfl
    exact Or.inl ⟨rfl, (List.singleton_inj.mp same).symm, rfl⟩
  · rw [← List.cons_append, ← List.append_assoc] at split
    obtain ⟨rfl, same⟩ := List.append_inj' split rfl
    exact Or.inr ⟨rest, by rw [List.singleton_inj.mp same], rfl⟩

theorem forall_mem_concat {P : α → Prop} : (∀ b ∈ history ++ [a], P b) ↔ (∀ b ∈ history, P b) ∧ P a := by
  simp [or_imp, forall_and]

theorem not_since_nil : ¬Since starts ends [] := by
  rintro ⟨before, a, later, split, _⟩
  cases before <;> cases split

theorem since_concat :
    Since starts ends (history ++ [a]) ↔ starts a ∨ ¬ends a ∧ Since starts ends history := by
  constructor
  · rintro ⟨before, b, later, split, begun, kept⟩
    rcases concat_eq_append_cons split with ⟨_, rfl, _⟩ | ⟨rest, rfl, earlier⟩
    · exact Or.inl begun
    · obtain ⟨kept, lasts⟩ := forall_mem_concat.mp kept
      exact Or.inr ⟨lasts, before, b, rest, earlier, begun, kept⟩
  · rintro (begun | ⟨lasts, before, b, rest, rfl, begun, kept⟩)
    · exact ⟨history, a, [], rfl, begun, by simp⟩
    · exact ⟨before, b, rest ++ [a], by simp, begun, forall_mem_concat.mpr ⟨kept, lasts⟩⟩

theorem sinceAt_concat : SinceAt starts ends (history ++ [a]) n ↔
    (n = history.length ∧ starts a ∧ ¬Since starts ends history) ∨
      ¬ends a ∧ SinceAt starts ends history n := by
  constructor
  · rintro ⟨before, b, later, split, rfl, begun, fresh, kept⟩
    rcases concat_eq_append_cons split with ⟨rfl, rfl, _⟩ | ⟨rest, rfl, earlier⟩
    · exact Or.inl ⟨rfl, begun, fresh⟩
    · obtain ⟨kept, lasts⟩ := forall_mem_concat.mp kept
      exact Or.inr ⟨lasts, before, b, rest, earlier, rfl, begun, fresh, kept⟩
  · rintro (⟨rfl, begun, fresh⟩ | ⟨lasts, before, b, rest, rfl, rfl, begun, fresh, kept⟩)
    · exact ⟨history, a, [], rfl, rfl, begun, fresh, by simp⟩
    · exact ⟨before, b, rest ++ [a], by simp, rfl, begun, fresh, forall_mem_concat.mpr ⟨kept, lasts⟩⟩

theorem SinceAt.lt_length (since : SinceAt starts ends history n) : n < history.length := by
  obtain ⟨before, a, later, rfl, rfl, _⟩ := since
  simp

theorem SinceAt.since (since : SinceAt starts ends history n) : Since starts ends history := by
  obtain ⟨before, a, later, split, _, begun, _, kept⟩ := since
  exact ⟨before, a, later, split, begun, kept⟩

theorem Since.exists_at (apart : ∀ a, starts a → ¬ends a) (since : Since starts ends history) :
    ∃ n, SinceAt starts ends history n := by
  induction history using List.reverseRecOn with
  | nil => exact absurd since not_since_nil
  | append_singleton history a ih =>
    by_cases before : Since starts ends history
    · have lasts : ¬ends a := by
        rcases since_concat.mp since with begun | ⟨lasts, _⟩
        · exact apart a begun
        · exact lasts
      obtain ⟨n, at_n⟩ := ih before
      exact ⟨n, sinceAt_concat.mpr (Or.inr ⟨lasts, at_n⟩)⟩
    · have begun : starts a := (since_concat.mp since).resolve_right fun ⟨_, earlier⟩ => before earlier
      exact ⟨history.length, sinceAt_concat.mpr (Or.inl ⟨rfl, begun, before⟩)⟩

end SessionGateway
