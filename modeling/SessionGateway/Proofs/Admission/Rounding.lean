import SessionGateway.Admission.TokenBucket
import Mathlib.Algebra.Order.Field.Power
import Mathlib.Data.Rat.Floor
import Mathlib.Tactic.Linarith
import Mathlib.Tactic.Ring
import Mathlib.Tactic.Positivity

/-! Which numbers rounding leaves as they are. A number of at most 53 significant bits is its own rounding,
whatever is rounded is such a number, and one less than such a number, if it is not too great, is one too. -/
namespace SessionGateway.Admission

/-- A nonnegative number of at most 53 significant bits. -/
def Representable (q : Rat) : Prop := ∃ (m : Nat) (e : Int), m ≤ 2 ^ 53 ∧ q = m * (2 : Rat) ^ e

variable {q : Rat}

theorem Representable.nonneg (represented : Representable q) : 0 ≤ q := by
  obtain ⟨m, e, _, rfl⟩ := represented
  positivity

theorem representable_nat {n : Nat} (small : n ≤ 2 ^ 53) : Representable n := ⟨n, 0, small, by simp⟩

/-! ### Rounding to an integer -/

theorem roundHalfEven_int (k : Int) : roundHalfEven k = k := by
  simp [roundHalfEven, Rat.floor_intCast]

theorem roundHalfEven_cases (q : Rat) : roundHalfEven q = q.floor ∨ roundHalfEven q = q.floor + 1 := by
  unfold roundHalfEven
  dsimp only
  split_ifs <;> simp

/-! ### The exponent -/

theorem natCast_log2 {n : Nat} (positive : n ≠ 0) :
    (2 : Rat) ^ (n.log2 : Int) ≤ n ∧ (n : Rat) < 2 ^ ((n.log2 : Int) + 1) := by
  have low : 2 ^ n.log2 ≤ n := Nat.log2_self_le positive
  have high : n < 2 ^ (n.log2 + 1) := Nat.lt_log2_self
  constructor
  · exact_mod_cast low
  · exact_mod_cast high

theorem binaryExponent_spec (positive : 0 < q) :
    (2 : Rat) ^ binaryExponent q ≤ q ∧ q < 2 ^ (binaryExponent q + 1) := by
  have numerator : q.num.natAbs ≠ 0 := by simpa using positive.ne'
  have num_sign : ((q.num.natAbs : Nat) : Rat) = q.num := by
    rw [← Int.cast_natCast, Int.natAbs_of_nonneg (Rat.num_nonneg.mpr positive.le)]
  obtain ⟨num_low, num_high⟩ := natCast_log2 numerator
  obtain ⟨den_low, den_high⟩ := natCast_log2 q.den_ne_zero
  rw [num_sign] at num_low num_high
  have den_pos : (0 : Rat) < q.den := by exact_mod_cast q.den_pos
  have fraction : q * q.den = q.num := Rat.mul_den_eq_num q
  unfold binaryExponent
  dsimp only
  generalize (q.num.natAbs.log2 : Int) = a at num_low num_high ⊢
  generalize (q.den.log2 : Int) = b at den_low den_high ⊢
  -- The quotient of two numbers is within a factor of two of the quotient of their powers of two.
  have low : (2 : Rat) ^ (a - b - 1) ≤ q := by
    have scaled : (2 : Rat) ^ (a - b - 1) * q.den ≤ q * q.den := calc
      (2 : Rat) ^ (a - b - 1) * q.den ≤ 2 ^ (a - b - 1) * 2 ^ (b + 1) := by gcongr
      _ = 2 ^ a := by rw [← zpow_add₀ two_ne_zero]; congr 1; ring
      _ ≤ q * q.den := num_low.trans_eq fraction.symm
    exact le_of_mul_le_mul_right scaled den_pos
  have high : q < (2 : Rat) ^ (a - b + 1) := by
    have scaled : q * q.den < 2 ^ (a - b + 1) * q.den := calc
      q * q.den < 2 ^ (a + 1) := fraction.trans_lt num_high
      _ = 2 ^ (a - b + 1) * 2 ^ b := by rw [← zpow_add₀ two_ne_zero]; congr 1; ring
      _ ≤ 2 ^ (a - b + 1) * q.den := by gcongr
    exact lt_of_mul_lt_mul_right scaled den_pos.le
  split
  · rename_i reached
    exact ⟨reached, high⟩
  · rename_i missed
    refine ⟨low, ?_⟩
    rw [sub_add_cancel]
    exact not_le.mp missed

/-! ### Rounding to 53 bits -/

theorem Representable.multiple (represented : Representable q) (positive : 0 < q) :
    ∃ k : Int, q = k * (2 : Rat) ^ (binaryExponent q - 52) := by
  obtain ⟨low, _⟩ := binaryExponent_spec positive
  generalize binaryExponent q = exponent at low ⊢
  obtain ⟨m, e, bits, rfl⟩ := represented
  have cap : (m : Rat) * 2 ^ e ≤ 2 ^ (53 + e) := by
    have bits : (m : Rat) ≤ 2 ^ (53 : Int) := by exact_mod_cast bits
    rw [zpow_add₀ two_ne_zero]
    gcongr
  have within : exponent ≤ 53 + e := by
    by_contra beyond
    have less : (2 : Rat) ^ (53 + e) < 2 ^ exponent := zpow_lt_zpow_right₀ one_lt_two (not_le.mp beyond)
    exact absurd (low.trans cap) (not_le.mpr less)
  rcases within.lt_or_eq with inside | full
  · obtain ⟨shift, hshift⟩ := Int.eq_ofNat_of_zero_le (show 0 ≤ e - (exponent - 52) by omega)
    refine ⟨m * 2 ^ shift, ?_⟩
    have exact_shift : e = shift + (exponent - 52) := by omega
    rw [exact_shift, zpow_add₀ two_ne_zero, zpow_natCast]
    push_cast
    ring
  · -- Only the power of two itself is left.
    subst full
    refine ⟨2 ^ 52, ?_⟩
    rw [le_antisymm cap low, show 53 + e = 52 + (53 + e - 52) by ring, zpow_add₀ two_ne_zero]
    norm_num

theorem binary64_of_representable (represented : Representable q) : binary64 q = q := by
  unfold binary64
  split
  · rename_i nonpositive
    exact le_antisymm represented.nonneg nonpositive
  · rename_i positive
    obtain ⟨k, multiple⟩ := represented.multiple (not_le.mp positive)
    have weight : (2 : Rat) ^ (binaryExponent q - 52) ≠ 0 := zpow_ne_zero _ two_ne_zero
    have quotient : q / (2 : Rat) ^ (binaryExponent q - 52) = k := (div_eq_iff weight).mpr multiple
    dsimp only
    rw [quotient, roundHalfEven_int]
    exact multiple.symm

theorem representable_binary64 (q : Rat) : Representable (binary64 q) := by
  unfold binary64
  split
  · exact ⟨0, 0, by simp, by simp⟩
  · rename_i positive
    obtain ⟨low, high⟩ := binaryExponent_spec (not_le.mp positive)
    dsimp only
    generalize binaryExponent q = exponent at low high ⊢
    have weight : (0 : Rat) < 2 ^ (exponent - 52) := zpow_pos two_pos _
    have nonneg : (0 : Int) ≤ (q / (2 : Rat) ^ (exponent - 52)).floor := by
      rw [Rat.le_floor_iff]
      have nonneg := (not_le.mp positive).le
      positivity
    have small : (q / (2 : Rat) ^ (exponent - 52)).floor < 2 ^ 53 := by
      rw [Rat.floor_lt_iff, div_lt_iff₀ weight]
      refine high.trans_eq ?_
      rw [show exponent + 1 = 53 + (exponent - 52) by ring, zpow_add₀ two_ne_zero]
      norm_num
    generalize hx : q / (2 : Rat) ^ (exponent - 52) = x at nonneg small ⊢
    have bounds : 0 ≤ roundHalfEven x ∧ roundHalfEven x ≤ 2 ^ 53 := by
      rcases roundHalfEven_cases x with down | up <;> omega
    obtain ⟨m, hm⟩ := Int.eq_ofNat_of_zero_le bounds.1
    refine ⟨m, exponent - 52, by omega, ?_⟩
    rw [hm]
    norm_cast

theorem binary64_zero : binary64 0 = 0 := by simp [binary64]

/-! ### How far off -/

theorem abs_roundHalfEven_sub_le (q : Rat) : |(roundHalfEven q : Rat) - q| ≤ 1 / 2 := by
  have low : (q.floor : Rat) ≤ q := Rat.le_floor_iff.mp le_rfl
  have high : q < (q.floor : Rat) + 1 := by
    have next := Rat.floor_lt_iff.mp (lt_add_one q.floor)
    push_cast at next
    exact next
  unfold roundHalfEven
  dsimp only
  rw [abs_le]
  split_ifs <;> push_cast <;> constructor <;> linarith

theorem abs_binary64_sub_le (nonneg : 0 ≤ q) : |binary64 q - q| ≤ q / 2 ^ 53 := by
  unfold binary64
  split
  · rename_i nonpositive
    simp [le_antisymm nonpositive nonneg]
  · rename_i positive
    obtain ⟨low, _⟩ := binaryExponent_spec (not_le.mp positive)
    dsimp only
    generalize binaryExponent q = exponent at low ⊢
    have weight : (0 : Rat) < 2 ^ (exponent - 52) := zpow_pos two_pos _
    have near := abs_roundHalfEven_sub_le (q / (2 : Rat) ^ (exponent - 52))
    have scaled : roundHalfEven (q / (2 : Rat) ^ (exponent - 52)) * (2 : Rat) ^ (exponent - 52) - q =
        (roundHalfEven (q / (2 : Rat) ^ (exponent - 52)) - q / (2 : Rat) ^ (exponent - 52)) *
          2 ^ (exponent - 52) := by
      rw [sub_mul, div_mul_cancel₀ q weight.ne']
    have last : (2 : Rat) ^ (exponent - 52) = 2 ^ exponent / 2 ^ 52 := by
      rw [zpow_sub₀ two_ne_zero]
      norm_num
    rw [scaled, abs_mul, abs_of_pos weight]
    calc
      _ ≤ 1 / 2 * (2 : Rat) ^ (exponent - 52) := by gcongr
      _ = 2 ^ exponent / 2 ^ 53 := by rw [last]; ring
      _ ≤ q / 2 ^ 53 := by gcongr

theorem binary64_pos (positive : 0 < q) : 0 < binary64 q := by
  have near := abs_le.mp (abs_binary64_sub_le positive.le)
  linarith [near.1]

/-! ### One less -/

theorem Representable.sub_one (represented : Representable q) (low : 1 ≤ q) (high : q ≤ 2 ^ 53) :
    Representable (q - 1) := by
  obtain ⟨m, e, bits, rfl⟩ := represented
  rcases le_or_gt 0 e with whole | part
  · obtain ⟨shift, rfl⟩ := Int.eq_ofNat_of_zero_le whole
    rw [zpow_natCast] at low high ⊢
    have low : 1 ≤ m * 2 ^ shift := by exact_mod_cast low
    have high : m * 2 ^ shift ≤ 2 ^ 53 := by exact_mod_cast high
    have less := representable_nat (n := m * 2 ^ shift - 1) (by omega)
    push_cast [low] at less
    exact less
  · obtain ⟨shift, hshift⟩ := Int.eq_ofNat_of_zero_le (show 0 ≤ -e by omega)
    obtain rfl : e = -(shift : Int) := by omega
    have unit : (2 : Rat) ^ shift * (2 : Rat) ^ (-(shift : Int)) = 1 := by
      rw [← zpow_natCast, ← zpow_add₀ two_ne_zero]
      simp
    have enough : 2 ^ shift ≤ m := by
      have scaled : (2 : Rat) ^ shift ≤ m := by
        have weight : (0 : Rat) < 2 ^ (-(shift : Int)) := zpow_pos two_pos _
        exact le_of_mul_le_mul_right (unit.trans_le low) weight
      exact_mod_cast scaled
    refine ⟨m - 2 ^ shift, -shift, (Nat.sub_le _ _).trans bits, ?_⟩
    push_cast [enough]
    rw [sub_mul, unit]

end SessionGateway.Admission
