import SessionGateway.Admission.TokenBucket
import SessionGateway.Proofs.Admission.Rounding

/-! What rounding does to a bucket, which is little. Its tokens are a number of 53 bits and at most what it
holds, so one token less is exactly one token less, and a bucket that is not refilled counts down in whole
tokens. -/
namespace SessionGateway.Admission

theorem seconds_zero : seconds 0 = 0 := by simp [seconds, binary64_zero]

namespace TokenBucket

variable {b : TokenBucket} {now : Instant}

def tokensAt (b : TokenBucket) (now : Instant) : Rat := (b.refill now).tokens

/-! ### One instant -/

@[simp] theorem refill_rate (b : TokenBucket) (now : Instant) : (b.refill now).rate = b.rate := by
  unfold refill
  dsimp only
  split <;> rfl

theorem refill_again (b : TokenBucket) (now : Instant) (tokens : Rat) :
    { b.refill now with tokens }.refill now = { b.refill now with tokens } := by
  have idle (b : TokenBucket) (still : ¬0 < seconds (now - b.lastRefill).toNat) : b.refill now = b := by
    simp [refill, still]
  apply idle
  by_cases elapsed : 0 < seconds (now - b.lastRefill).toNat
  · have refilled : (b.refill now).lastRefill = now := by simp [refill, elapsed]
    simp [refilled, seconds_zero]
  · rwa [idle b elapsed]

theorem refill_refill (b : TokenBucket) (now : Instant) : (b.refill now).refill now = b.refill now :=
  refill_again b now _

/-! ### Exactness -/

/-- The tokens are a number of 53 bits, and not more than fit. -/
structure Sound (b : TokenBucket) : Prop where
  represented : Representable b.tokens
  held : b.tokens ≤ b.rate.capacity.toNat

theorem capacity_small (rate : Rate) : rate.capacity.toNat ≤ 2 ^ 53 :=
  (Nat.le_of_lt rate.capacity.toNat_lt).trans (by decide)

theorem full_sound (rate : Rate) (now : Instant) : (full rate now).Sound :=
  ⟨representable_nat (capacity_small rate), le_rfl⟩

theorem Sound.refill (sound : b.Sound) (now : Instant) : (b.refill now).Sound := by
  unfold TokenBucket.refill
  dsimp only
  split
  · split
    · rename_i room
      exact ⟨representable_binary64 _, room⟩
    · exact ⟨representable_nat (capacity_small b.rate), le_rfl⟩
  · exact sound

theorem Sound.sub_one (sound : b.Sound) (whole : 1 ≤ b.tokens) : Representable (b.tokens - 1) := by
  have small : (b.rate.capacity.toNat : Rat) ≤ 2 ^ 53 := by exact_mod_cast capacity_small b.rate
  exact sound.represented.sub_one whole (sound.held.trans small)

theorem Sound.take_eq (sound : b.Sound) (now : Instant) : b.take now =
    if 1 ≤ b.tokensAt now then (true, { b.refill now with tokens := b.tokensAt now - 1 })
    else (false, b.refill now) := by
  unfold take tokensAt
  dsimp only
  split
  · rename_i whole
    rw [binary64_of_representable ((sound.refill now).sub_one whole)]
  · rfl

theorem Sound.take (sound : b.Sound) (now : Instant) : (b.take now).2.Sound := by
  rw [sound.take_eq]
  split
  · rename_i whole
    refine ⟨(sound.refill now).sub_one whole, ?_⟩
    exact (sub_le_self _ zero_le_one).trans (sound.refill now).held
  · exact sound.refill now

theorem Sound.takeUpTo (sound : b.Sound) (now : Instant) (n : Nat) : (b.takeUpTo now n).2.Sound := by
  induction n generalizing b with
  | zero => exact sound
  | succ n ih => exact ih (sound.take now)

theorem Sound.tokensAt_take (sound : b.Sound) (now : Instant) : (b.take now).2.tokensAt now =
    if (b.take now).1 then b.tokensAt now - 1 else b.tokensAt now := by
  rw [sound.take_eq]
  split
  · rw [tokensAt, refill_again]
    rfl
  · rw [tokensAt, refill_refill]
    rfl

/-! ### Without refill -/

theorem Sound.refill_none (sound : b.Sound) (none : b.rate.refill = 0) (now : Instant) :
    (b.refill now).tokens = b.tokens := by
  unfold TokenBucket.refill
  dsimp only
  split
  · have gained : binary64 (seconds (now - b.lastRefill).toNat * b.rate.refill.toNat) = 0 := by
      simp [none, binary64_zero]
    rw [gained, add_zero, binary64_of_representable sound.represented, if_pos sound.held]
  · rfl

/-- So often was a token asked for since the bucket was full, whether or not one was left. -/
structure Drained (rate : Rate) (n : Nat) (b : TokenBucket) : Prop where
  tokens : b.tokens = ((rate.capacity.toNat - n : Nat) : Rat)
  rate : b.rate = rate

variable {rate : Rate} {n : Nat}

theorem full_drained (rate : Rate) (now : Instant) : (full rate now).Drained rate 0 := ⟨rfl, rfl⟩

theorem Drained.sound (drained : b.Drained rate n) : b.Sound := by
  refine ⟨?_, ?_⟩
  · rw [drained.tokens]
    exact representable_nat ((Nat.sub_le _ _).trans (capacity_small rate))
  · rw [drained.tokens, drained.rate]
    exact_mod_cast Nat.sub_le _ _

theorem Drained.available (drained : b.Drained rate n) (none : rate.refill = 0) (now : Instant) :
    (b.available now).1 = rate.capacity.toNat - n := by
  have left := drained.sound.refill_none (by rw [drained.rate, none]) now
  simp only [TokenBucket.available, left, drained.tokens]
  rw [← Int.cast_natCast, Rat.floor_intCast, Int.toNat_natCast]

theorem Drained.take (drained : b.Drained rate n) (none : rate.refill = 0) (now : Instant) :
    ((b.take now).1 = true ↔ n < rate.capacity.toNat) ∧ (b.take now).2.Drained rate (n + 1) := by
  have left : b.tokensAt now = ((rate.capacity.toNat - n : Nat) : Rat) := by
    rw [tokensAt, drained.sound.refill_none (by rw [drained.rate, none]), drained.tokens]
  have whole : 1 ≤ b.tokensAt now ↔ n < rate.capacity.toNat := by
    rw [left, Nat.one_le_cast]
    exact Nat.sub_pos_iff_lt
  rw [drained.sound.take_eq]
  split
  · rename_i some
    refine ⟨by simpa using whole.mp some, ?_, by simpa using drained.rate⟩
    rw [left, ← Nat.sub_sub, Nat.cast_sub (Nat.sub_pos_of_lt (whole.mp some)), Nat.cast_one]
  · rename_i empty
    have spent : ¬n < rate.capacity.toNat := fun more => empty (whole.mpr more)
    refine ⟨by simpa using spent, ?_, by simpa using drained.rate⟩
    have same : (b.refill now).tokens = b.tokensAt now := rfl
    rw [same, left, show rate.capacity.toNat - n = rate.capacity.toNat - (n + 1) by omega]

end TokenBucket

end SessionGateway.Admission
