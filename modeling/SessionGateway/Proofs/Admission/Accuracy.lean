import SessionGateway.Proofs.Admission.Clock
import SessionGateway.Proofs.Admission.Reckoning
import Mathlib.Algebra.Order.Group.MinMax

/-! How near a bucket is to its reckoning in exact numbers. A refill is off by no more than a few units in the
last place of what the bucket can hold, one by whole 512ths of a second is not off at all, and a bucket that
is full beyond doubt makes up for all that was off before. So both decide alike wherever rounding cannot tell. -/
namespace SessionGateway.Admission

/-! ### How far off a refill is -/

theorem binary64_bounds {q : Rat} (nonneg : 0 ≤ q) :
    q - q / 2 ^ 53 ≤ binary64 q ∧ binary64 q ≤ q + q / 2 ^ 53 := by
  have near := abs_le.mp (abs_binary64_sub_le nonneg)
  exact ⟨by linarith [near.1], by linarith [near.2]⟩

theorem whole_add_rest (n : Nat) {d : Nat} (pos : 0 < d) :
    ((n / d : Nat) : Rat) + (n % d : Nat) / d = n / d := by
  have scale : (d : Rat) ≠ 0 := by exact_mod_cast pos.ne'
  have split : (d : Rat) * (n / d : Nat) + (n % d : Nat) = n := by exact_mod_cast Nat.div_add_mod n d
  rw [← split, add_div, mul_div_cancel_left₀ _ scale]

theorem seconds_near (n : Nat) : |seconds n - n / 1000000000| ≤ 3 * (n / 1000000000) / 2 ^ 53 := by
  have parts : ((n / 1000000000 : Nat) : Rat) + (n % 1000000000 : Nat) / 1000000000 = n / 1000000000 :=
    whole_add_rest n (by norm_num)
  have whole_nonneg : (0 : Rat) ≤ (n / 1000000000 : Nat) := Nat.cast_nonneg _
  have rest_nonneg : (0 : Rat) ≤ (n % 1000000000 : Nat) / 1000000000 := by positivity
  unfold seconds
  rw [← parts]
  generalize ((n / 1000000000 : Nat) : Rat) = whole at whole_nonneg ⊢
  generalize ((n % 1000000000 : Nat) : Rat) / 1000000000 = rest at rest_nonneg ⊢
  obtain ⟨wholeLow, wholeHigh⟩ := binary64_bounds whole_nonneg
  obtain ⟨restLow, restHigh⟩ := binary64_bounds rest_nonneg
  have sum_nonneg : 0 ≤ binary64 whole + binary64 rest := by linarith
  obtain ⟨low, high⟩ := binary64_bounds sum_nonneg
  rw [abs_le]
  constructor <;> linarith

/-- What is put into a bucket of `tokens` after `n` nanoseconds, before the surplus is thrown away. -/
def filled (rate : Rate) (tokens : Rat) (n : Nat) : Rat :=
  binary64 (tokens + binary64 (seconds n * rate.refill.toNat))

theorem filled_near (rate : Rate) {tokens : Rat} (nonneg : 0 ≤ tokens) (n : Nat) :
    |filled rate tokens n - (tokens + rate.gain n)| ≤ (tokens + 6 * rate.gain n) / 2 ^ 53 := by
  have elapsed : (0 : Rat) ≤ n / 1000000000 := by positivity
  have perSecond : (0 : Rat) ≤ rate.refill.toNat := Nat.cast_nonneg _
  obtain ⟨secondsLow, secondsHigh⟩ := abs_le.mp (seconds_near n)
  have gain : rate.gain n = n / 1000000000 * rate.refill.toNat := by simp [Rate.gain]
  -- The period, times the rate, is off by as much as the period is, times the rate.
  have productLow : rate.gain n - 3 * rate.gain n / 2 ^ 53 ≤ seconds n * rate.refill.toNat := by
    have scaled := mul_le_mul_of_nonneg_right secondsLow perSecond
    rw [gain]
    linarith
  have productHigh : seconds n * rate.refill.toNat ≤ rate.gain n + 3 * rate.gain n / 2 ^ 53 := by
    have scaled := mul_le_mul_of_nonneg_right secondsHigh perSecond
    rw [gain]
    linarith
  have gain_nonneg : 0 ≤ rate.gain n := Rate.gain_nonneg (Int.natCast_nonneg n)
  unfold filled
  generalize seconds n * rate.refill.toNat = product at productLow productHigh ⊢
  generalize rate.gain n = gain at productLow productHigh gain_nonneg ⊢
  obtain ⟨gainedLow, gainedHigh⟩ := binary64_bounds (q := product) (by linarith)
  obtain ⟨low, high⟩ := binary64_bounds (q := tokens + binary64 product) (by linarith)
  rw [abs_le]
  constructor <;> linarith

variable {rate : Rate} {tokens : Rat}

theorem capacity_le_filled (nonneg : 0 ≤ tokens) {n : Nat} (much : 2 * rate.capacity.toNat ≤ rate.gain n) :
    rate.capacity.toNat ≤ filled rate tokens n := by
  have some : (0 : Rat) ≤ rate.capacity.toNat := Nat.cast_nonneg _
  have near := (abs_le.mp (filled_near rate nonneg n)).1
  linarith

theorem filled_slack (nonneg : 0 ≤ tokens) (held : tokens ≤ rate.capacity.toNat) {n : Nat}
    (little : rate.gain n ≤ 2 * rate.capacity.toNat) :
    |filled rate tokens n - (tokens + rate.gain n)| ≤ rate.slack := by
  refine (filled_near rate nonneg n).trans ?_
  unfold Rate.slack
  linarith

/-! ### Refills that are not rounded -/

theorem representable_512ths {k : Nat} (small : k ≤ 2 ^ 53) : Representable (k / 512) :=
  ⟨k, -9, small, by norm_num [zpow_neg, div_eq_mul_inv]⟩

theorem seconds_512ths {m : Nat} (small : m ≤ 2 ^ 53) : seconds (m * 1953125) = m / 512 := by
  have whole : m * 1953125 / 1000000000 = m / 512 := by omega
  have rest : m * 1953125 % 1000000000 = m % 512 * 1953125 := by omega
  have split : ((m / 512 : Nat) : Rat) + (m % 512 : Nat) / 512 = m / 512 := whole_add_rest m (by norm_num)
  have part : ((m % 512 * 1953125 : Nat) : Rat) / 1000000000 = (m % 512 : Nat) / 512 := by
    push_cast
    ring
  unfold seconds
  rw [whole, rest, part, binary64_of_representable (representable_nat (by omega)),
    binary64_of_representable (representable_512ths (by omega)), split,
    binary64_of_representable (representable_512ths small)]

theorem gain_512ths (rate : Rate) (m : Nat) :
    rate.gain (m * 1953125 : Nat) = (m * rate.refill.toNat : Nat) / 512 := by
  unfold Rate.gain
  push_cast
  ring

theorem filled_nothing {k : Nat} (small : k ≤ 2 ^ 53) (nothing : rate.refill.toNat = 0) (n : Nat) :
    filled rate (k / 512) n = k / 512 := by
  simp only [filled, nothing, Nat.cast_zero, mul_zero, binary64_zero, add_zero]
  exact binary64_of_representable (representable_512ths small)

theorem add_512ths (k m : Nat) : (k : Rat) / 512 + m / 512 = (k + m : Nat) / 512 := by
  push_cast
  ring

theorem filled_512ths {k m : Nat} (small : k ≤ 2 ^ 41) (product : m * rate.refill.toNat ≤ 2 ^ 42) :
    filled rate (k / 512) (m * 1953125) = (k + m * rate.refill.toNat : Nat) / 512 := by
  by_cases nothing : rate.refill.toNat = 0
  · rw [filled_nothing (by omega) nothing, nothing, mul_zero, add_zero]
  have period : m ≤ m * rate.refill.toNat := Nat.le_mul_of_pos_right m (Nat.pos_of_ne_zero nothing)
  have gained : (m : Rat) / 512 * rate.refill.toNat = (m * rate.refill.toNat : Nat) / 512 := by
    push_cast
    ring
  rw [filled, seconds_512ths (by omega), gained,
    binary64_of_representable (representable_512ths (by omega)), add_512ths,
    binary64_of_representable (representable_512ths (by omega))]

theorem filled_unrounded {k n : Nat} (grid : tokens = k / 512) (held : tokens ≤ rate.capacity.toNat)
    (unrounded : rate.Unrounded n) (little : rate.gain n ≤ 2 * rate.capacity.toNat) :
    ∃ k' : Nat, tokens + rate.gain n = k' / 512 ∧ filled rate tokens n = tokens + rate.gain n := by
  have capacity : (rate.capacity.toNat : Rat) ≤ 2 ^ 32 := by exact_mod_cast rate.capacity.toNat_lt.le
  have small : k ≤ 2 ^ 41 := by
    have scaled : (k : Rat) ≤ 2 ^ 41 := by linarith
    exact_mod_cast scaled
  subst grid
  rcases unrounded with none | whole
  · have gain : rate.gain n = 0 := by simp [Rate.gain, none]
    have nothing : rate.refill.toNat = 0 := by simp [none]
    rw [gain, add_zero]
    exact ⟨k, rfl, filled_nothing (by omega) nothing n⟩
  · obtain ⟨m, rfl⟩ : 1953125 ∣ n := by exact_mod_cast whole
    rw [mul_comm 1953125 m, gain_512ths] at little ⊢
    have product : m * rate.refill.toNat ≤ 2 ^ 42 := by
      have scaled : ((m * rate.refill.toNat : Nat) : Rat) ≤ 2 ^ 42 := by linarith
      exact_mod_cast scaled
    rw [add_512ths]
    exact ⟨_, rfl, filled_512ths small product⟩

/-! ### A bucket and its reckoning -/

namespace TokenBucket

variable {b : TokenBucket} {r : Reckoning} {now : Instant}

theorem tokens_refill (onward : b.lastRefill < now) : (b.refill now).tokens =
    min (filled b.rate b.tokens (now - b.lastRefill).toNat) b.rate.capacity.toNat := by
  have elapsed : 0 < seconds (now - b.lastRefill).toNat :=
    seconds_pos (Int.lt_toNat.mpr (Int.sub_pos_of_lt onward))
  simp [refill, elapsed, filled, min_def]

/-- The bucket is as near to its reckoning as the roundings allow. -/
structure Tracks (rate : Rate) (r : Reckoning) (b : TokenBucket) : Prop where
  sound : b.Sound
  sameRate : b.rate = rate
  last : b.lastRefill = r.last
  nonneg : 0 ≤ r.tokens
  held : r.tokens ≤ rate.capacity.toNat
  near : |b.tokens - r.tokens| ≤ r.roundings * rate.slack
  grid : r.roundings = 0 → ∃ k : Nat, r.tokens = k / 512

theorem full_tracks (rate : Rate) (start : Instant) : (full rate start).Tracks rate (.full rate start) where
  sound := full_sound rate start
  sameRate := rfl
  last := rfl
  nonneg := Nat.cast_nonneg _
  held := le_rfl
  near := by simp [full, Reckoning.full]
  grid := by
    intro _
    refine ⟨512 * rate.capacity.toNat, ?_⟩
    simp [Reckoning.full]

theorem Tracks.filled_near (tracks : b.Tracks rate r) {n : Nat}
    (little : rate.gain n ≤ 2 * rate.capacity.toNat) :
    |filled rate b.tokens n - (r.tokens + rate.gain n)| ≤ rate.rounded r.roundings n * rate.slack := by
  have held : b.tokens ≤ rate.capacity.toNat := tracks.sameRate ▸ tracks.sound.held
  by_cases certain : r.roundings = 0 ∧ rate.Unrounded n
  · obtain ⟨k, grid⟩ := tracks.grid certain.1
    have same : b.tokens = r.tokens := by
      have near := tracks.near
      rw [certain.1, Nat.cast_zero, zero_mul] at near
      exact sub_eq_zero.mp (abs_nonpos_iff.mp near)
    obtain ⟨_, _, exact_⟩ := filled_unrounded grid tracks.held certain.2 little
    rw [same, exact_, sub_self, abs_zero]
    exact rate.off_nonneg _
  · have counted : rate.rounded r.roundings n = r.roundings + 1 := if_neg certain
    have refilled := abs_le.mp (filled_slack tracks.sound.nonneg held little)
    have before := abs_le.mp tracks.near
    rw [counted, abs_le]
    push_cast
    constructor <;> linarith

theorem Tracks.clipped_near (tracks : b.Tracks rate r) (n : Nat) :
    |min (filled rate b.tokens n) rate.capacity.toNat -
        min (r.tokens + rate.gain n) rate.capacity.toNat| ≤
      rate.settled (r.tokens + rate.gain n) (rate.rounded r.roundings n) * rate.slack := by
  have nonneg := tracks.nonneg
  by_cases little : rate.gain n ≤ 2 * rate.capacity.toNat
  · have off := tracks.filled_near little
    unfold Rate.settled
    split
    · rename_i full
      have enough : rate.capacity.toNat ≤ filled rate b.tokens n := by linarith [(abs_le.mp off).1]
      have enough' : rate.capacity.toNat ≤ r.tokens + rate.gain n := by
        linarith [abs_nonneg (filled rate b.tokens n - (r.tokens + rate.gain n))]
      rw [min_eq_right enough, min_eq_right enough', sub_self, abs_zero, Nat.cast_zero, zero_mul]
    · have clipped := abs_min_sub_min_le_max (filled rate b.tokens n) rate.capacity.toNat
        (r.tokens + rate.gain n) rate.capacity.toNat
      rw [sub_self, abs_zero, max_eq_left (abs_nonneg _)] at clipped
      exact clipped.trans off
  · have much := (not_le.mp little).le
    have capacity : (0 : Rat) ≤ rate.capacity.toNat := Nat.cast_nonneg _
    have enough : rate.capacity.toNat ≤ r.tokens + rate.gain n := by linarith
    rw [min_eq_right (capacity_le_filled tracks.sound.nonneg much), min_eq_right enough, sub_self, abs_zero]
    exact rate.off_nonneg _

theorem Tracks.clipped_grid (tracks : b.Tracks rate r) {n : Nat}
    (certain : rate.settled (r.tokens + rate.gain n) (rate.rounded r.roundings n) = 0) :
    ∃ k : Nat, min (r.tokens + rate.gain n) rate.capacity.toNat = k / 512 := by
  rcases le_or_gt (rate.capacity.toNat : Rat) (r.tokens + rate.gain n) with full | room
  · refine ⟨512 * rate.capacity.toNat, ?_⟩
    rw [min_eq_right full]
    push_cast
    ring
  · have nonneg := tracks.nonneg
    have unsettled : ¬rate.capacity.toNat + rate.rounded r.roundings n * rate.slack ≤
        r.tokens + rate.gain n := by
      have off := rate.off_nonneg (rate.rounded r.roundings n)
      linarith
    have unrounded : r.roundings = 0 ∧ rate.Unrounded n := by
      by_contra counted
      rw [Rate.settled, if_neg unsettled, Rate.rounded, if_neg counted] at certain
      exact Nat.succ_ne_zero _ certain
    obtain ⟨k, grid⟩ := tracks.grid unrounded.1
    obtain ⟨k', sum, _⟩ := filled_unrounded grid tracks.held unrounded.2 (by linarith)
    exact ⟨k', by rw [min_eq_left room.le, sum]⟩

theorem Tracks.refill (tracks : b.Tracks rate r) (now : Instant) :
    (b.refill now).Tracks rate (r.refill rate now) := by
  rcases le_or_gt now r.last with past | onward
  · rw [refill_idle (past.trans_eq tracks.last.symm), Reckoning.refill_past past]
    exact tracks
  obtain ⟨n, elapsed⟩ := Int.eq_ofNat_of_zero_le (Int.sub_nonneg_of_le onward.le)
  have tokens : (b.refill now).tokens = min (filled rate b.tokens n) rate.capacity.toNat := by
    rw [tokens_refill (tracks.last.trans_lt onward), tracks.last, tracks.sameRate, elapsed, Int.toNat_natCast]
  have gain : 0 ≤ rate.gain n := Rate.gain_nonneg (Int.natCast_nonneg n)
  rw [Reckoning.refill_onward onward, elapsed]
  exact {
    sound := tracks.sound.refill now
    sameRate := (refill_rate b now).trans tracks.sameRate
    last := by rw [lastRefill_refill, tracks.last, max_eq_right onward.le]
    nonneg := le_min (add_nonneg tracks.nonneg gain) (Nat.cast_nonneg _)
    held := min_le_right _ _
    near := by
      rw [tokens]
      exact tracks.clipped_near n
    grid := tracks.clipped_grid }

/-! ### Decisions -/

/-- Where rounding cannot tell, both get a token or neither does, and stay as near as they were. -/
theorem Tracks.take (tracks : b.Tracks rate r) (decided : (r.refill rate now).Decided rate) :
    (b.take now).1 = (r.take rate now).1 ∧ (b.take now).2.Tracks rate (r.take rate now).2 := by
  have refilled := tracks.refill now
  have near := abs_le.mp refilled.near
  have off := rate.off_nonneg (r.refill rate now).roundings
  rw [tracks.sound.take_eq, tokensAt, Reckoning.take]
  dsimp only
  rcases decided with less | more
  · have empty : ¬1 ≤ (b.refill now).tokens := by linarith [near.2]
    have empty' : ¬1 ≤ (r.refill rate now).tokens := by linarith
    rw [if_neg empty, if_neg empty']
    exact ⟨rfl, refilled⟩
  · have whole : 1 ≤ (b.refill now).tokens := by linarith [near.1]
    have whole' : 1 ≤ (r.refill rate now).tokens := by linarith
    have taken := tracks.sound.take now
    rw [tracks.sound.take_eq, tokensAt, if_pos whole] at taken
    rw [if_pos whole, if_pos whole']
    refine ⟨rfl, {
      sound := taken
      sameRate := refilled.sameRate
      last := refilled.last
      nonneg := sub_nonneg.mpr whole'
      held := (sub_le_self _ zero_le_one).trans refilled.held
      near := by
        rw [sub_sub_sub_cancel_right]
        exact refilled.near
      grid := ?_ }⟩
    intro certain
    obtain ⟨k, grid⟩ := refilled.grid certain
    have one : 512 ≤ k := by
      rw [grid, le_div_iff₀ (by norm_num), one_mul] at whole'
      exact_mod_cast whole'
    refine ⟨k - 512, ?_⟩
    push_cast [one]
    rw [grid]
    ring

/-- The calls of a run, each with whether it got a token. -/
def record (b : TokenBucket) : List Instant → List (Instant × Bool)
  | [] => []
  | now :: later =>
    let (granted, b) := b.take now
    (now, granted) :: b.record later

theorem record_cons (b : TokenBucket) (now : Instant) (later : List Instant) :
    b.record (now :: later) = (now, (b.take now).1) :: (b.take now).2.record later := rfl

theorem Tracks.record {times : List Instant} (tracks : b.Tracks rate r) (clear : r.Clear rate times) :
    b.record times = r.record rate times := by
  induction times generalizing b r with
  | nil => rfl
  | cons now later ih =>
    obtain ⟨decided, clear⟩ := clear
    obtain ⟨same, after⟩ := tracks.take decided
    rw [record_cons, Reckoning.record_cons, same, ih after clear]

end TokenBucket

end SessionGateway.Admission
