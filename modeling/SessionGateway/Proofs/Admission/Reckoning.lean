import SessionGateway.Admission.TokenBucket
import Mathlib.Data.Rat.Floor
import Mathlib.Tactic.Linarith
import Mathlib.Tactic.Ring
import Mathlib.Tactic.Positivity

/-! A bucket reckoned in exact numbers, with a count of the refills that a bucket of rounded numbers may since
have rounded. What is added in two parts is what is added at once, so a call that gets nothing costs nothing
here; and to leave such a call out makes the number of tokens no less certain. -/
namespace SessionGateway.Admission

namespace Rate

variable {rate : Rate} {first second : Int}

def gain (rate : Rate) (elapsed : Int) : Rat := elapsed / 1000000000 * rate.refill.toNat

def slack (rate : Rate) : Rat := rate.capacity.toNat / 2 ^ 49

/-- Periods that are not rounded: those that bring nothing and those of whole 512ths of a second. -/
def Unrounded (rate : Rate) (elapsed : Int) : Prop := rate.refill = 0 ∨ 1953125 ∣ elapsed

instance (rate : Rate) (elapsed : Int) : Decidable (rate.Unrounded elapsed) :=
  inferInstanceAs (Decidable (_ ∨ _))

theorem gain_add (rate : Rate) (first second : Int) :
    rate.gain (first + second) = rate.gain first + rate.gain second := by
  unfold gain
  push_cast
  ring

theorem gain_nonneg {elapsed : Int} (nonneg : 0 ≤ elapsed) : 0 ≤ rate.gain elapsed := by
  have elapsed : (0 : Rat) ≤ elapsed := by exact_mod_cast nonneg
  unfold gain
  positivity

theorem slack_nonneg (rate : Rate) : 0 ≤ rate.slack := by
  unfold slack
  positivity

theorem off_nonneg (rate : Rate) (roundings : Nat) : 0 ≤ roundings * rate.slack :=
  mul_nonneg (Nat.cast_nonneg _) rate.slack_nonneg

theorem off_mono (rate : Rate) {fewer more : Nat} (le : fewer ≤ more) : fewer * rate.slack ≤ more * rate.slack := by
  have cast : (fewer : Rat) ≤ more := by exact_mod_cast le
  exact mul_le_mul_of_nonneg_right cast rate.slack_nonneg

theorem Unrounded.add_iff (unrounded : rate.Unrounded first) :
    rate.Unrounded (first + second) ↔ rate.Unrounded second := by
  rcases unrounded with nothing | whole
  · exact iff_of_true (Or.inl nothing) (Or.inl nothing)
  · exact or_congr_right (dvd_add_right whole)

/-- How many refills may have been rounded after one more. -/
def rounded (rate : Rate) (roundings : Nat) (elapsed : Int) : Nat :=
  if roundings = 0 ∧ rate.Unrounded elapsed then 0 else roundings + 1

/-- How many still matter. A bucket that is full beyond doubt holds just what it can hold. -/
def settled (rate : Rate) (sum : Rat) (roundings : Nat) : Nat :=
  if rate.capacity.toNat + roundings * rate.slack ≤ sum then 0 else roundings

theorem rounded_le (rate : Rate) (roundings : Nat) (elapsed : Int) :
    rate.rounded roundings elapsed ≤ roundings + 1 := by
  unfold rounded
  split
  · exact Nat.zero_le _
  · exact le_rfl

theorem rounded_mono {fewer more : Nat} (le : fewer ≤ more) (elapsed : Int) :
    rate.rounded fewer elapsed ≤ rate.rounded more elapsed := by
  unfold rounded
  split
  · exact Nat.zero_le _
  · rename_i counted
    have counted' : ¬(more = 0 ∧ rate.Unrounded elapsed) := by
      rintro ⟨rfl, unrounded⟩
      exact counted ⟨Nat.le_zero.mp le, unrounded⟩
    rw [if_neg counted']
    omega

theorem settled_mono {fewer more : Nat} (le : fewer ≤ more) {sum less : Rat} (less_le : less ≤ sum) :
    rate.settled sum fewer ≤ rate.settled less more := by
  unfold settled
  split
  · exact Nat.zero_le _
  · rename_i open_
    have off := rate.off_mono le
    rw [if_neg (by linarith)]
    exact le

/-- To refill in two parts leaves no fewer roundings that matter than to refill at once. -/
theorem settled_parts {sum gain : Rat} (gain_nonneg : 0 ≤ gain) (roundings : Nat) (first second : Int) :
    rate.settled (sum + gain) (rate.rounded roundings (first + second)) ≤
      rate.settled (min sum rate.capacity.toNat + gain)
        (rate.rounded (rate.settled sum (rate.rounded roundings first)) second) := by
  have less : min sum rate.capacity.toNat + gain ≤ sum + gain := by
    gcongr
    exact min_le_left _ _
  by_cases certain : roundings = 0 ∧ rate.Unrounded first
  · -- The first part was exact, and then the whole is so just if the second part is.
    have sameCount : rate.rounded roundings (first + second) = rate.rounded 0 second := by
      simp only [rounded, certain.1, certain.2.add_iff, true_and]
    have none : rate.settled sum (rate.rounded roundings first) = 0 := by
      simp only [rounded, if_pos certain, settled, ite_self]
    rw [sameCount, none]
    exact settled_mono le_rfl less
  have counted : rate.rounded roundings first = roundings + 1 := if_neg certain
  have atOnce := rate.rounded_le roundings (first + second)
  rw [counted]
  by_cases settles : rate.capacity.toNat + ((roundings + 1 : Nat) : Rat) * rate.slack ≤ sum
  · -- What fills the bucket beyond doubt at first does so at once.
    have off := rate.off_mono atOnce
    have none : rate.settled (sum + gain) (rate.rounded roundings (first + second)) = 0 :=
      if_pos (by linarith)
    rw [none]
    exact Nat.zero_le _
  · have open_ : rate.settled sum (roundings + 1) = roundings + 1 := if_neg settles
    have twice : rate.rounded (roundings + 1) second = roundings + 2 :=
      if_neg fun none => Nat.succ_ne_zero _ none.1
    rw [open_, twice]
    exact settled_mono (by omega) less

end Rate

/-- The exact number of tokens, if the same calls had got one as did. -/
structure Reckoning where
  tokens : Rat
  /-- Refills that may have been rounded since the number was last certain. -/
  roundings : Nat
  last : Instant
  deriving DecidableEq, Repr

namespace Reckoning

variable {rate : Rate} {r a b : Reckoning} {now later : Instant}

def full (rate : Rate) (start : Instant) : Reckoning := ⟨rate.capacity.toNat, 0, start⟩

def refill (rate : Rate) (r : Reckoning) (now : Instant) : Reckoning :=
  if now ≤ r.last then r
  else
    let sum := r.tokens + rate.gain (now - r.last)
    { tokens := min sum rate.capacity.toNat
      roundings := rate.settled sum (rate.rounded r.roundings (now - r.last))
      last := now }

def take (rate : Rate) (r : Reckoning) (now : Instant) : Bool × Reckoning :=
  let r := r.refill rate now
  if 1 ≤ r.tokens then (true, { r with tokens := r.tokens - 1 }) else (false, r)

/-- The calls of a run, each with whether it got a token. -/
def record (rate : Rate) (r : Reckoning) : List Instant → List (Instant × Bool)
  | [] => []
  | now :: later =>
    let (granted, r) := r.take rate now
    (now, granted) :: r.record rate later

theorem record_cons (r : Reckoning) (now : Instant) (later : List Instant) : r.record rate (now :: later) =
    (now, (r.take rate now).1) :: (r.take rate now).2.record rate later := rfl

/-! ### One refill -/

theorem refill_past (past : now ≤ r.last) : r.refill rate now = r := if_pos past

theorem refill_onward (onward : r.last < now) : r.refill rate now =
    { tokens := min (r.tokens + rate.gain (now - r.last)) rate.capacity.toNat
      roundings := rate.settled (r.tokens + rate.gain (now - r.last))
        (rate.rounded r.roundings (now - r.last))
      last := now } := if_neg (not_le.mpr onward)

theorem last_refill (r : Reckoning) (now : Instant) : (r.refill rate now).last = max r.last now := by
  rcases le_or_gt now r.last with past | onward
  · rw [refill_past past, max_eq_left past]
  · rw [refill_onward onward, max_eq_right onward.le]

/-! ### Certainty -/

structure Surer (a b : Reckoning) : Prop where
  tokens : a.tokens = b.tokens
  roundings : a.roundings ≤ b.roundings
  last : a.last = b.last

theorem Surer.refl (r : Reckoning) : Surer r r := ⟨rfl, le_rfl, rfl⟩

theorem Surer.trans {c : Reckoning} (surer : Surer a b) (next : Surer b c) : Surer a c :=
  ⟨surer.tokens.trans next.tokens, surer.roundings.trans next.roundings, surer.last.trans next.last⟩

theorem Surer.refill (surer : Surer a b) (now : Instant) : Surer (a.refill rate now) (b.refill rate now) := by
  rcases le_or_gt now b.last with past | onward
  · rw [refill_past past, refill_past (surer.last ▸ past)]
    exact surer
  · rw [refill_onward onward, refill_onward (surer.last ▸ onward), surer.tokens, surer.last]
    exact ⟨rfl, Rate.settled_mono (Rate.rounded_mono surer.roundings _) le_rfl, rfl⟩

theorem refill_surer (r : Reckoning) (order : now ≤ later) :
    Surer (r.refill rate later) ((r.refill rate now).refill rate later) := by
  rcases le_or_gt now r.last with past | onward
  · rw [refill_past past]
    exact Surer.refl _
  rcases order.eq_or_lt with rfl | further
  · have there : now ≤ (r.refill rate now).last := (le_max_right _ _).trans_eq (last_refill r now).symm
    rw [refill_past there]
    exact Surer.refl _
  have between : (r.refill rate now).last = now := (last_refill r now).trans (max_eq_right onward.le)
  rw [refill_onward (onward.trans further), refill_onward (between.trans_lt further), between,
    refill_onward onward]
  have parts : later - r.last = (now - r.last) + (later - now) := (sub_add_sub_cancel' _ _ _).symm
  have firstGain : 0 ≤ rate.gain (now - r.last) := Rate.gain_nonneg (sub_nonneg.mpr onward.le)
  have secondGain : 0 ≤ rate.gain (later - now) := Rate.gain_nonneg (sub_nonneg.mpr further.le)
  rw [parts, Rate.gain_add, ← add_assoc]
  refine ⟨?tokens, Rate.settled_parts secondGain _ _ _, rfl⟩
  case tokens =>
    rcases le_total (r.tokens + rate.gain (now - r.last)) rate.capacity.toNat with room | none
    · rw [min_eq_left room]
    · rw [min_eq_right none, min_eq_right (by linarith), min_eq_right (by linarith)]

/-! ### Calls that get nothing -/

/-- Whether there is a whole token, told beyond doubt. -/
def Decided (rate : Rate) (r : Reckoning) : Prop :=
  r.tokens + r.roundings * rate.slack < 1 ∨ 1 + r.roundings * rate.slack ≤ r.tokens

instance (rate : Rate) (r : Reckoning) : Decidable (r.Decided rate) := inferInstanceAs (Decidable (_ ∨ _))

/-- At no call of a run is the number of tokens so near to one that rounding could tell. -/
def Clear (rate : Rate) (r : Reckoning) : List Instant → Prop
  | [] => True
  | now :: later => (r.refill rate now).Decided rate ∧ (r.take rate now).2.Clear rate later

instance decidableClear (rate : Rate) : (r : Reckoning) → (times : List Instant) → Decidable (r.Clear rate times)
  | _, [] => isTrue trivial
  | r, now :: later =>
    have := decidableClear rate (r.take rate now).2 later
    inferInstanceAs (Decidable (_ ∧ _))

/-- A record without some of the calls that got nothing. -/
inductive Pared : List (Instant × Bool) → List (Instant × Bool) → Prop where
  | nil : Pared [] []
  | keep (call : Instant × Bool) {calls kept : List (Instant × Bool)} : Pared calls kept →
    Pared (call :: calls) (call :: kept)
  | drop (now : Instant) {calls kept : List (Instant × Bool)} : Pared calls kept →
    Pared ((now, false) :: calls) kept

theorem Surer.take (surer : Surer (a.refill rate now) (b.refill rate now)) :
    (a.take rate now).1 = (b.take rate now).1 ∧ Surer (a.take rate now).2 (b.take rate now).2 := by
  unfold Reckoning.take
  dsimp only
  rw [surer.tokens]
  split
  · exact ⟨rfl, rfl, surer.roundings, surer.last⟩
  · exact ⟨rfl, surer⟩

theorem Surer.decided (surer : Surer a b) (decided : b.Decided rate) : a.Decided rate := by
  have off := rate.off_mono surer.roundings
  unfold Decided at decided ⊢
  rw [surer.tokens]
  rcases decided with less | more
  · exact Or.inl (by linarith)
  · exact Or.inr (by linarith)

theorem pared_cons {call : Instant × Bool} {calls kept : List (Instant × Bool)}
    (pared : Pared (call :: calls) kept) :
    (∃ rest, kept = call :: rest ∧ Pared calls rest) ∨ call.2 = false ∧ Pared calls kept := by
  cases pared with
  | keep _ pared => exact Or.inl ⟨_, rfl, pared⟩
  | drop _ pared => exact Or.inr ⟨rfl, pared⟩

theorem take_of_refused (refused : (r.take rate now).1 = false) : (r.take rate now).2 = r.refill rate now := by
  unfold take at refused ⊢
  dsimp only at refused ⊢
  split at refused
  · cases refused
  · rename_i less
    rw [if_neg less]

/-- In exact numbers calls that get nothing can be left out, and what remains is no less clear. The one
reckoning may lag behind the other, if it has caught up at whichever call comes next. -/
theorem record_pared {times : List Instant} {kept : List (Instant × Bool)} (ordered : times.Pairwise (· ≤ ·))
    (caughtUp : ∀ t ∈ times, Surer (a.refill rate t) (b.refill rate t))
    (clear : b.Clear rate times) (pared : Pared (b.record rate times) kept) :
    a.Clear rate (kept.map (·.1)) ∧ a.record rate (kept.map (·.1)) = kept := by
  induction times generalizing a b kept with
  | nil =>
    cases pared
    exact ⟨trivial, rfl⟩
  | cons now later ih =>
    obtain ⟨next, ordered⟩ := List.pairwise_cons.mp ordered
    obtain ⟨decided, clear⟩ := clear
    have here : Surer (a.refill rate now) (b.refill rate now) := caughtUp now List.mem_cons_self
    rw [record_cons] at pared
    rcases pared_cons pared with ⟨rest, rfl, paredRest⟩ | ⟨refused, paredRest⟩
    · obtain ⟨same, after⟩ := here.take
      obtain ⟨clearRest, recordRest⟩ := ih ordered (fun t _ => after.refill t) clear paredRest
      refine ⟨⟨here.decided decided, clearRest⟩, ?_⟩
      rw [List.map_cons, record_cons, recordRest, same]
    · refine ih ordered ?_ clear paredRest
      intro t ht
      rw [take_of_refused refused]
      exact (caughtUp t (List.mem_cons_of_mem now ht)).trans (refill_surer b (next t ht))

end Reckoning

end SessionGateway.Admission
