import SessionGateway.Proofs.Admission.Accuracy

/-! What calls cost that get nothing. Each of them brings the tokens up to date, and a refill in parts is
rounded more often than one at once: so a call that gets nothing can cost a later one its token. It takes a
number of tokens very near to one for that. Everywhere else such calls can be left out. -/
namespace SessionGateway.Admission

variable {rate : Rate} {start : Instant} {times : List Instant}

/-! ### Runs without rounding -/

theorem Rate.Unrounded.sub {first second : Int} (unrounded : rate.Unrounded first)
    (unrounded' : rate.Unrounded second) : rate.Unrounded (first - second) := by
  rcases unrounded with nothing | whole
  · exact Or.inl nothing
  · rcases unrounded' with nothing | whole'
    · exact Or.inl nothing
    · exact Or.inr (dvd_sub whole whole')

namespace Reckoning

variable {r : Reckoning}

theorem decided_of_certain (certain : r.roundings = 0) : r.Decided rate := by
  unfold Decided
  rw [certain, Nat.cast_zero, zero_mul, add_zero, add_zero]
  exact lt_or_ge _ _

theorem roundings_take (rate : Rate) (r : Reckoning) (now : Instant) :
    (r.take rate now).2.roundings = (r.refill rate now).roundings ∧
      (r.take rate now).2.last = (r.refill rate now).last := by
  unfold take
  dsimp only
  split <;> exact ⟨rfl, rfl⟩

theorem clear_of_unrounded (certain : r.roundings = 0) (last : rate.Unrounded (r.last - start))
    (grid : ∀ t ∈ times, rate.Unrounded (t - start)) : r.Clear rate times := by
  induction times generalizing r with
  | nil => trivial
  | cons now later ih =>
    have here : rate.Unrounded (now - start) := grid now List.mem_cons_self
    have kept : (r.refill rate now).roundings = 0 ∧ rate.Unrounded ((r.refill rate now).last - start) := by
      rcases le_or_gt now r.last with past | onward
      · rw [refill_past past]
        exact ⟨certain, last⟩
      · have period : rate.Unrounded (now - r.last) := by
          have parts := here.sub last
          rwa [sub_sub_sub_cancel_right] at parts
        rw [refill_onward onward]
        refine ⟨?_, here⟩
        simp only [Rate.rounded, certain, period, and_self, if_true, Rate.settled, ite_self]
    obtain ⟨sameRoundings, sameLast⟩ := roundings_take rate r now
    refine ⟨decided_of_certain kept.1, ih (sameRoundings.trans kept.1) ?_ ?_⟩
    · rw [sameLast]
      exact kept.2
    · exact fun t ht => grid t (List.mem_cons_of_mem now ht)

end Reckoning

namespace TokenBucket

open Reckoning (Pared)

/-- Calls that get nothing can be left out of a run at times that do not decrease, and all others get what they
got, if the times are whole 512ths of a second from the start, if nothing is ever refilled, or if no call of
the run finds a number of tokens that is, in exact numbers, so near to one that rounding could tell. -/
theorem rejections_free {kept : List (Instant × Bool)} (ordered : times.Pairwise (· ≤ ·))
    (clear : (∀ t ∈ times, rate.Unrounded (t - start)) ∨ (Reckoning.full rate start).Clear rate times)
    (pared : Pared ((full rate start).record times) kept) :
    (full rate start).record (kept.map (·.1)) = kept := by
  have tracks := full_tracks rate start
  have clear : (Reckoning.full rate start).Clear rate times := by
    rcases clear with grid | clear
    · have whole : rate.Unrounded (start - start) := by
        rw [sub_self]
        exact Or.inr (dvd_zero _)
      exact Reckoning.clear_of_unrounded rfl whole grid
    · exact clear
  rw [tracks.record clear] at pared
  obtain ⟨clearKept, recordKept⟩ :=
    Reckoning.record_pared ordered (fun t _ => Reckoning.Surer.refl _) clear pared
  rw [tracks.record clearKept, recordKept]

namespace Polled

/-! A bucket for one token that has it back after twenty milliseconds. -/

def single : Rate := ⟨1, 50⟩

def patient : List Instant := [0, 2000000, 21000000]

def prompt : List Instant := [0, 2000000, 20000000]

end Polled

/-- A millisecond after the token is back it is there, asked for in between or not. -/
theorem late_call_granted :
    Polled.patient.Pairwise (· ≤ ·) ∧ (Reckoning.full Polled.single 0).Clear Polled.single Polled.patient ∧
    Pared ((full Polled.single 0).record Polled.patient) [(0, true), (21000000, true)] ∧
    (full Polled.single 0).record [0, 21000000] = [(0, true), (21000000, true)] := by
  have ordered : Polled.patient.Pairwise (· ≤ ·) := by decide
  have clear : (Reckoning.full Polled.single 0).Clear Polled.single Polled.patient := by decide +kernel
  have record : (full Polled.single 0).record Polled.patient =
      [(0, true), (2000000, false), (21000000, true)] := by decide +kernel
  have pared : Pared ((full Polled.single 0).record Polled.patient) [(0, true), (21000000, true)] := by
    rw [record]
    exact .keep _ (.drop _ (.keep _ .nil))
  exact ⟨ordered, clear, pared, rejections_free ordered (Or.inr clear) pared⟩

/-- Just when the token is back, who did not ask in between gets it, and who did ask does not. -/
theorem rejection_costs_token :
    (full Polled.single 0).record Polled.prompt = [(0, true), (2000000, false), (20000000, false)] ∧
    (full Polled.single 0).record [0, 20000000] = [(0, true), (20000000, true)] ∧
    ¬∀ (rate : Rate) (start : Instant) (times : List Instant) (kept : List (Instant × Bool)),
      times.Pairwise (· ≤ ·) → Pared ((full rate start).record times) kept →
        (full rate start).record (kept.map (·.1)) = kept := by
  have asked : (full Polled.single 0).record Polled.prompt =
      [(0, true), (2000000, false), (20000000, false)] := by decide +kernel
  have unasked : (full Polled.single 0).record [0, 20000000] = [(0, true), (20000000, true)] := by
    decide +kernel
  refine ⟨asked, unasked, ?_⟩
  intro free
  have pared : Pared ((full Polled.single 0).record Polled.prompt) [(0, true), (20000000, false)] := by
    rw [asked]
    exact .keep _ (.drop _ (.keep _ .nil))
  have same := free Polled.single 0 Polled.prompt _ (by decide) pared
  have differ := unasked.symm.trans same
  simp at differ

end TokenBucket

end SessionGateway.Admission
