import SessionGateway.Proofs.Admission.Tokens

/-! A bucket under any clock. A clock that runs backwards, or that begins before the bucket does, is taken
for the latest time seen so far, so nothing is gained by it: what a bucket gives out before time goes on is
what it has at hand. -/
namespace SessionGateway.Admission

theorem seconds_pos {n : Nat} (elapsed : 0 < n) : 0 < seconds n := by
  have whole (k : Nat) : (0 : Rat) ≤ binary64 k := (representable_binary64 _).nonneg
  have part : (0 : Rat) ≤ binary64 ((n % 1000000000 : Nat) / (1000000000 : Rat)) :=
    (representable_binary64 _).nonneg
  apply binary64_pos
  by_cases second : 0 < n / 1000000000
  · have positive : (0 : Rat) < binary64 (n / 1000000000 : Nat) := binary64_pos (by exact_mod_cast second)
    linarith
  · have rest : 0 < n % 1000000000 := by omega
    have positive : (0 : Rat) < binary64 ((n % 1000000000 : Nat) / (1000000000 : Rat)) :=
      binary64_pos (div_pos (by exact_mod_cast rest) (by norm_num))
    linarith [whole (n / 1000000000)]

namespace TokenBucket

variable {b : TokenBucket} {rate : Rate} {start now : Instant}

/-! ### Time that does not go on -/

theorem refill_idle (past : now ≤ b.lastRefill) : b.refill now = b := by
  have still : (now - b.lastRefill).toNat = 0 := Int.toNat_of_nonpos (Int.sub_nonpos_of_le past)
  simp [refill, still, seconds_zero]

theorem lastRefill_refill (b : TokenBucket) (now : Instant) :
    (b.refill now).lastRefill = max b.lastRefill now := by
  rcases le_or_gt now b.lastRefill with past | onward
  · rw [refill_idle past, max_eq_left past]
  · have elapsed : 0 < seconds (now - b.lastRefill).toNat :=
      seconds_pos (Int.lt_toNat.mpr (Int.sub_pos_of_lt onward))
    rw [max_eq_right onward.le]
    simp [refill, elapsed]

theorem refill_max (b : TokenBucket) (now : Instant) : b.refill (max b.lastRefill now) = b.refill now := by
  rcases le_total now b.lastRefill with past | onward
  · rw [max_eq_left past, refill_idle past, refill_idle le_rfl]
  · rw [max_eq_right onward]

theorem take_congr {now' : Instant} (same : b.refill now = b.refill now') : b.take now = b.take now' := by
  unfold take
  rw [same]

theorem available_congr {now' : Instant} (same : b.refill now = b.refill now') :
    b.available now = b.available now' := by
  unfold available
  rw [same]

@[simp] theorem take_rate (b : TokenBucket) (now : Instant) : (b.take now).2.rate = b.rate := by
  unfold take
  dsimp only
  split <;> exact refill_rate b now

theorem lastRefill_take (b : TokenBucket) (now : Instant) :
    (b.take now).2.lastRefill = max b.lastRefill now := by
  unfold take
  dsimp only
  split <;> exact lastRefill_refill b now

/-! ### Runs -/

inductive Request where
  | take
  | available
  deriving DecidableEq, Repr

/-- What is asked of a bucket, and what the clock of the one who asks tells. -/
structure Call where
  request : Request
  now : Instant
  deriving DecidableEq, Repr

inductive Answer where
  | taken (granted : Bool)
  | available (tokens : Nat)
  deriving DecidableEq, Repr

def answer (b : TokenBucket) (c : Call) : Answer × TokenBucket :=
  match c.request with
  | .take =>
    let (granted, b) := b.take c.now
    (.taken granted, b)
  | .available =>
    let (tokens, b) := b.available c.now
    (.available tokens, b)

def run (b : TokenBucket) : List Call → List Answer × TokenBucket
  | [] => ([], b)
  | c :: later =>
    let (first, b) := b.answer c
    let (answers, b) := b.run later
    (first :: answers, b)

def latest (start : Instant) (calls : List Call) : Instant := (calls.map (·.now)).foldl max start

/-- The same calls by a clock that stands still where theirs runs backwards. -/
def straightened (start : Instant) (calls : List Call) : List Call :=
  calls.mapIdx fun i c => { c with now := latest start (calls.take (i + 1)) }

theorem straightened_cons (start : Instant) (c : Call) (later : List Call) :
    straightened start (c :: later) =
      { c with now := max start c.now } :: straightened (max start c.now) later := by
  simp [straightened, List.mapIdx_cons, latest]

variable {c : Call} {calls : List Call}

theorem Sound.nonneg (sound : b.Sound) : 0 ≤ b.tokens := sound.represented.nonneg

theorem Sound.answer (sound : b.Sound) (c : Call) : (b.answer c).2.Sound := by
  unfold TokenBucket.answer
  split
  · exact sound.take c.now
  · exact sound.refill c.now

theorem answer_rate (b : TokenBucket) (c : Call) : (b.answer c).2.rate = b.rate := by
  unfold answer
  split
  · exact take_rate b c.now
  · exact refill_rate b c.now

theorem lastRefill_answer (b : TokenBucket) (c : Call) :
    (b.answer c).2.lastRefill = max b.lastRefill c.now := by
  unfold answer
  split
  · exact lastRefill_take b c.now
  · exact lastRefill_refill b c.now

theorem answer_max (b : TokenBucket) (c : Call) :
    b.answer { c with now := max b.lastRefill c.now } = b.answer c := by
  have same := refill_max b c.now
  unfold answer
  cases c.request <;> simp only [take_congr same, available_congr same]

/-- What a run leaves of a bucket, whatever the clock told. -/
structure Ran (rate : Rate) (last : Instant) (b : TokenBucket) : Prop where
  sound : b.Sound
  rate : b.rate = rate
  lastRefill : b.lastRefill = last

theorem full_ran (rate : Rate) (start : Instant) : (full rate start).Ran rate start :=
  ⟨full_sound rate start, rfl, rfl⟩

theorem Ran.answer (ran : b.Ran rate start) (c : Call) : (b.answer c).2.Ran rate (max start c.now) where
  sound := ran.sound.answer c
  rate := (answer_rate b c).trans ran.rate
  lastRefill := (lastRefill_answer b c).trans (by rw [ran.lastRefill])

theorem Ran.run (ran : b.Ran rate start) (calls : List Call) :
    (b.run calls).2.Ran rate (latest start calls) := by
  induction calls generalizing b start with
  | nil => exact ran
  | cons c later ih => exact ih (ran.answer c)

theorem Ran.run_straightened (ran : b.Ran rate start) (calls : List Call) :
    b.run (straightened start calls) = b.run calls := by
  induction calls generalizing b start with
  | nil => rfl
  | cons c later ih =>
    have first : b.answer { c with now := max start c.now } = b.answer c := by
      rw [← ran.lastRefill]
      exact answer_max b c
    rw [straightened_cons, TokenBucket.run, TokenBucket.run, first]
    simp only [ih (ran.answer c)]

/-! ### At hand -/

def whole (b : TokenBucket) : Nat := b.tokens.floor.toNat

theorem Sound.whole_le (sound : b.Sound) : b.whole ≤ b.rate.capacity.toNat := by
  have held : b.tokens.floor ≤ (b.rate.capacity.toNat : Int) := by
    have down : (b.tokens.floor : Rat) ≤ b.tokens := Rat.le_floor_iff.mp le_rfl
    exact_mod_cast down.trans sound.held
  unfold whole
  omega

theorem Sound.whole_take (sound : b.Sound) (past : now ≤ b.lastRefill) :
    (b.take now).2.whole + (b.take now).1.toNat ≤ b.whole := by
  rw [sound.take_eq, tokensAt, refill_idle past]
  split
  · rename_i enough
    have less : (b.tokens - 1).floor + 1 ≤ b.tokens.floor := by
      rw [Rat.le_floor_iff]
      have down : ((b.tokens - 1).floor : Rat) ≤ b.tokens - 1 := Rat.le_floor_iff.mp le_rfl
      push_cast
      linarith
    have nonneg : 0 ≤ (b.tokens - 1).floor := by
      rw [Rat.le_floor_iff]
      push_cast
      linarith
    simp only [whole, Bool.toNat_true]
    omega
  · exact le_rfl

theorem Sound.taken_le_whole (sound : b.Sound) (past : ∀ c ∈ calls, c.now ≤ b.lastRefill) :
    (b.run calls).1.count (.taken true) ≤ b.whole := by
  induction calls generalizing b with
  | nil => exact Nat.zero_le _
  | cons c later ih =>
    have before : c.now ≤ b.lastRefill := past c List.mem_cons_self
    have still : (b.answer c).2.lastRefill = b.lastRefill := by
      rw [lastRefill_answer, max_eq_left before]
    have rest := ih (sound.answer c) fun d hd => still ▸ past d (List.mem_cons_of_mem c hd)
    have counted : ((b.answer c).2.whole + if (b.answer c).1 = .taken true then 1 else 0) ≤ b.whole := by
      unfold TokenBucket.answer
      split
      · have taken := sound.whole_take before
        cases granted : (b.take c.now).1 <;> simpa [granted] using taken
      · simp [available, refill_idle before]
    simp only [TokenBucket.run, List.count_cons, beq_iff_eq]
    omega

/-- Whatever times a bucket is told, before its creation and backwards included, its answers and what is left
of it are those for the latest time seen each time. There are never fewer tokens than none nor more than it
holds, it never tells of more, and of calls that come with no later time than was seen before them no more
get a token than it told of. -/
theorem straight_clock_suffices (rate : Rate) (start : Instant) (calls : List Call) :
    let b := full rate start
    let after := (b.run calls).2
    b.run calls = b.run (straightened start calls) ∧
    0 ≤ after.tokens ∧ after.tokens ≤ rate.capacity.toNat ∧
    (∀ now, (after.available now).1 ≤ rate.capacity.toNat) ∧
    ∀ now more, now ≤ latest start calls → (∀ c ∈ more, c.now ≤ latest start calls) →
      (after.run more).1.count (.taken true) ≤ (after.available now).1 := by
  intro b after
  have ran : after.Ran rate (latest start calls) := (full_ran rate start).run calls
  refine ⟨((full_ran rate start).run_straightened calls).symm, ran.sound.nonneg, ?_, ?_, ?_⟩
  · rw [← ran.rate]
    exact ran.sound.held
  · intro now
    have held := (ran.sound.refill now).whole_le
    rw [refill_rate, ran.rate] at held
    exact held
  · intro now more past pastAll
    have idle : after.refill now = after := refill_idle (past.trans_eq ran.lastRefill.symm)
    have told : (after.available now).1 = after.whole := by
      simp only [available, idle, whole]
    rw [told]
    exact ran.sound.taken_le_whole fun c hc => (pastAll c hc).trans_eq ran.lastRefill.symm

end TokenBucket

end SessionGateway.Admission
