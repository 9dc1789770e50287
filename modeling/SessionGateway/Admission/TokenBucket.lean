/-! A token bucket that refills continuously. A bucket drained at some instant has a token back one
`refill`-th of a second later and not only when a whole period has passed.

Tokens are counted in binary64. A value is a rational number, and an operation is the exact one
followed by rounding to the nearest number of 53 significant bits, ties to even. Exponents are not
bounded, which makes no difference between 2⁻¹⁰²² and 2¹⁰²³. -/
namespace SessionGateway.Admission

/-! ### Rounding -/

/-- The integer nearest to `q`, an even one if two are equally near. -/
def roundHalfEven (q : Rat) : Int :=
  let down := q.floor
  let part := q - down
  if part < 1 / 2 then down
  else if 1 / 2 < part then down + 1
  else if down % 2 = 0 then down else down + 1

/-- The exponent of the greatest power of two that is at most `q`, for positive `q`. -/
def binaryExponent (q : Rat) : Int :=
  let guess : Int := (q.num.natAbs.log2 : Int) - q.den.log2
  if (2 : Rat) ^ guess ≤ q then guess else guess - 1

/-- The binary64 number nearest to a nonnegative number. -/
def binary64 (q : Rat) : Rat :=
  if q ≤ 0 then 0
  else
    let unit := (2 : Rat) ^ (binaryExponent q - 52)
    roundHalfEven (q / unit) * unit

/-! ### Buckets -/

/-- How much a session may ask for: at most `capacity` at once, `refill` more each second. -/
structure Rate where
  capacity : UInt32
  refill : UInt32
  deriving DecidableEq, Repr

def Rate.standard : Rate := ⟨50, 50⟩

/-- Instants in nanoseconds. -/
abbrev Instant := Int

/-- A period of nanoseconds in seconds, whole seconds and remainder converted apart. -/
def seconds (nanoseconds : Nat) : Rat :=
  binary64 (binary64 (nanoseconds / 1000000000 : Nat) +
    binary64 ((nanoseconds % 1000000000 : Nat) / (1000000000 : Rat)))

structure TokenBucket where
  rate : Rate
  tokens : Rat
  lastRefill : Instant
  deriving DecidableEq, Repr

namespace TokenBucket

def full (rate : Rate) (now : Instant) : TokenBucket :=
  { rate, tokens := rate.capacity.toNat, lastRefill := now }

/-- Brings the tokens up to date. A clock that stands still or runs backwards changes nothing. -/
def refill (b : TokenBucket) (now : Instant) : TokenBucket :=
  let elapsed := seconds (now - b.lastRefill).toNat
  if 0 < elapsed then
    let gained := binary64 (elapsed * b.rate.refill.toNat)
    let filled := binary64 (b.tokens + gained)
    let most : Rat := b.rate.capacity.toNat
    { b with tokens := if filled ≤ most then filled else most, lastRefill := now }
  else b

def take (b : TokenBucket) (now : Instant) : Bool × TokenBucket :=
  let b := b.refill now
  if 1 ≤ b.tokens then (true, { b with tokens := binary64 (b.tokens - 1) }) else (false, b)

def available (b : TokenBucket) (now : Instant) : Nat × TokenBucket :=
  let b := b.refill now
  (b.tokens.floor.toNat, b)

/-- Takes up to `n` tokens at one instant and counts them. -/
def takeUpTo (b : TokenBucket) (now : Instant) : Nat → Nat × TokenBucket
  | 0 => (0, b)
  | n + 1 =>
    let (taken, b) := b.take now
    let (more, b) := b.takeUpTo now n
    (more + taken.toNat, b)

end TokenBucket

end SessionGateway.Admission
