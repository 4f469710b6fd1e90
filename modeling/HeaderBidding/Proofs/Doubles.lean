import HeaderBidding.Json.Number
import HeaderBidding.Proofs.Rounding

/-!
# Powers of ten as doubles

Whole numbers below `2 ^ 64` and powers of ten become normal doubles that are off by less than one
part in `2 ^ 53`.  So a decimal is read without an overflow as long as its value, with this much
added twice, stays below the bound.
-/

namespace HeaderBidding.Rounding

open Float.Model Float.Model.UnpackedFloat

theorem isFinite_iff {x : Float} : x.isFinite = true ↔ x.isNaN = false ∧ x.isInf = false := by
  change x.toModel.unpack.isFinite = true ↔
    x.toModel.unpack.isNaN = false ∧ x.toModel.unpack.isInf = false
  cases x.toModel.unpack <;>
    simp [UnpackedFloat.isFinite, UnpackedFloat.isNaN, UnpackedFloat.isInf]

/-- How far off a rounded number is at most. -/
def slack : ℚ :=
  1 + 1 / 2 ^ 53

/-- What the first 53 bits of a number stand for is off by half a unit at most. -/
theorem dropped_value_le {m : Nat} (pos : 0 < m) :
    (dropped m (m.log2 - 52) : ℚ) * 2 ^ (m.log2 - 52) ≤ m * slack := by
  unfold slack
  rcases Nat.eq_zero_or_pos (m.log2 - 52) with none | some
  · rw [none, dropped_zero]
    have : (0 : ℚ) ≤ m := Nat.cast_nonneg m
    linarith
  · have unit : (2 : ℚ) ^ (m.log2 - 52) * 2 ^ 52 ≤ m := by
      have power : 2 ^ (m.log2 - 52) * 2 ^ 52 ≤ m := by
        rw [← pow_add, Nat.sub_add_cancel (by omega)]
        exact Nat.log2_self_le pos.ne'
      exact_mod_cast power
    have half : 2 * ((dropped m (m.log2 - 52) : ℚ) * 2 ^ (m.log2 - 52)) ≤
        2 * m + 2 ^ (m.log2 - 52) := by
      exact_mod_cast dropped_mul_le m (m.log2 - 52)
    linarith

/-! ## Whole numbers -/

theorem ofUInt64_eq {n : Nat} (pos : 0 < n) (small : n < 2 ^ 64) :
    UnpackedFloat.ofUInt64 .binary64 n.toUInt64 =
      roundWithAccuracy .binary64 .positive (n * 2 ^ (52 - n.log2)) (-(52 - n.log2 : Nat))
        .exact := by
  have value : n.toUInt64.toNat = n := Nat.mod_eq_of_lt small
  have order : compare (n : Int) 0 = .gt := compare_gt_iff_gt.mpr (by omega)
  have log : n.log2 < 64 := (Nat.log2_lt pos.ne').mpr small
  have shift : (0 - Format.binary64.targetExponent (totalExponent n 0)).toNat = 52 - n.log2 := by
    rw [targetExponent_eq]
    omega
  change normalize .binary64 (n.toUInt64.toNat : Int) 0 .positive = _
  rw [value, UnpackedFloat.normalize, order]
  change round .binary64 .positive n 0 = _
  rw [UnpackedFloat.round, decreaseExponent, shift, Nat.shiftLeft_eq, zero_sub]

theorem log2_mul_two_pow {n : Nat} (pos : 0 < n) (k : Nat) : (n * 2 ^ k).log2 = n.log2 + k := by
  rw [Nat.log2_eq_iff (Nat.mul_pos pos (Nat.two_pow_pos k)).ne']
  constructor
  · rw [pow_add]
    exact Nat.mul_le_mul_right _ (Nat.log2_self_le pos.ne')
  · rw [show n.log2 + k + 1 = n.log2 + 1 + k by omega, pow_add 2 (n.log2 + 1) k]
    exact Nat.mul_lt_mul_of_pos_right Nat.lt_log2_self (Nat.two_pow_pos k)

theorem shifted_value (n k : Nat) : ((n * 2 ^ k : Nat) : ℚ) * 2 ^ (-(k : Int)) = n := by
  rw [zpow_neg, zpow_natCast]
  push_cast
  field_simp

/-- A whole number becomes the double of its first 53 bits. -/
theorem isNormal_toFloat {n : Nat} (pos : 0 < n) (small : n < 2 ^ 64) :
    IsNormal n.toUInt64.toFloat.toModel.unpack
      (dropped n (n.log2 - 52) * 2 ^ (n.log2 - 52)) := by
  have log : n.log2 < 64 := (Nat.log2_lt pos.ne').mpr small
  have shifted := log2_mul_two_pow pos (52 - n.log2)
  change IsNormal (UnpackedFloat.unpack .binary64 (UnpackedFloat.pack .binary64
    (UnpackedFloat.ofUInt64 .binary64 n.toUInt64))) _
  rw [ofUInt64_eq pos small]
  convert isNormal_round _ _ _ using 1
  · rw [shifted]
    rcases Nat.lt_or_ge n.log2 52 with few | many
    · rw [show n.log2 + (52 - n.log2) - 52 = 0 by omega, show n.log2 - 52 = 0 by omega,
        dropped_zero, dropped_zero, Nat.cast_zero, add_zero, shifted_value]
      simp
    · rw [Nat.sub_eq_zero_of_le many]
      simp
  · omega
  · omega
  · rw [shifted_value]
    exact Nat.cast_lt.mpr (small.trans (by decide +kernel))

/-- The double is positive and normal, and at most the given number. -/
def IsAtMost (x : Float) (bound : ℚ) : Prop :=
  ∃ value, IsNormal x.toModel.unpack value ∧ value ≤ bound

theorem IsAtMost.mono {x : Float} {a b : ℚ} (le : a ≤ b) (small : IsAtMost x a) : IsAtMost x b := by
  obtain ⟨value, normal, bound⟩ := small
  exact ⟨value, normal, bound.trans le⟩

theorem isAtMost_toFloat {n : Nat} (pos : 0 < n) (small : n < 2 ^ 64) :
    IsAtMost n.toUInt64.toFloat (n * slack) :=
  ⟨_, isNormal_toFloat pos small, dropped_value_le pos⟩

theorem isAtMost_toFloat_of_lt {n : Nat} (pos : 0 < n) (small : n < 2 ^ 53) :
    IsAtMost n.toUInt64.toFloat n := by
  have log : n.log2 < 53 := (Nat.log2_lt pos.ne').mpr small
  refine ⟨_, isNormal_toFloat pos (small.trans (by decide)), ?_⟩
  rw [show n.log2 - 52 = 0 by omega, dropped_zero]
  simp

/-- Below an even number of 54 bits, rounding stays there. -/
theorem isAtMost_toFloat_of_le_even {n bound : Nat} (pos : 0 < n) (le : n ≤ bound)
    (even : 2 ∣ bound) (small : bound < 2 ^ 54) : IsAtMost n.toUInt64.toFloat bound := by
  rcases Nat.lt_or_ge n (2 ^ 53) with exact | inexact
  · exact (isAtMost_toFloat_of_lt pos exact).mono (Nat.cast_le.mpr le)
  · have log : n.log2 = 53 :=
      (Nat.log2_eq_iff pos.ne').mpr ⟨inexact, by omega⟩
    refine ⟨_, isNormal_toFloat pos (by omega), ?_⟩
    have half := two_mul_dropped_le n 0
    rw [zero_add, pow_zero, Nat.div_one] at half
    have whole : dropped n 1 * 2 ≤ bound := by omega
    rw [log, show 53 - 52 = 1 by rfl, pow_one]
    exact_mod_cast whole

/-! ## Powers of ten -/

theorem powerOfTen_eq (n : Nat) : Json.powerOfTen n = .ofModel (.ofScientific 1 n) := by
  rcases Nat.lt_or_ge 22 n with large | small
  · rw [Json.powerOfTen, Float.ofScientific, dif_neg (by omega)]
    rfl
  · have listed : ∀ n ≤ 22, Json.powerOfTen n = .ofModel (.ofScientific 1 n) := by decide +kernel
    exact listed n small

theorem ofScientific_one_eq {n : Nat} (small : n ≤ 308) :
    UnpackedFloat.ofScientific .binary64 1 n =
      roundWithAccuracy .binary64 .positive (10 ^ n * 2 ^ 53) (-(53 : Nat)) .exact := by
  have large : ¬(n : Int) > 2 ^ 11 := by omega
  have tiny : ¬(n : Int) < -(2 ^ 11 + (Nat.log2 1 : Int)) := by omega
  rw [UnpackedFloat.ofScientific, dif_neg one_ne_zero, if_neg large, if_neg tiny,
    if_pos (Int.natCast_nonneg n), mul_comm]
  rfl

/-- A power of ten that is not too large becomes a normal double. -/
theorem isNormal_powerOfTen {n : Nat} (small : n ≤ 308) :
    IsNormal (Json.powerOfTen n).toModel.unpack
      (dropped (10 ^ n * 2 ^ 53) ((10 ^ n).log2 + 1) * 2 ^ ((10 ^ n).log2 - 52 : ℤ)) := by
  have power : 0 < 10 ^ n := Nat.pow_pos (by decide)
  have shifted : (10 ^ n * 2 ^ 53).log2 = (10 ^ n).log2 + 53 := log2_mul_two_pow power 53
  have bound : 10 ^ n < overflow := by
    calc 10 ^ n ≤ 10 ^ 308 := Nat.pow_le_pow_right (by decide) small
      _ < overflow := by decide +kernel
  have value := shifted_value (10 ^ n) 53
  have normal := isNormal_round (m := 10 ^ n * 2 ^ 53) (e := -(53 : Nat)) (by omega) (by omega)
    (by rw [value]; exact Nat.cast_lt.mpr bound)
  rw [← ofScientific_one_eq small] at normal
  have bits : (10 ^ n).log2 + 53 - 52 = (10 ^ n).log2 + 1 := by omega
  have exponent : -(53 : Nat) + ((10 ^ n).log2 + 1 : Nat) = ((10 ^ n).log2 - 52 : ℤ) := by omega
  rw [powerOfTen_eq]
  rwa [shifted, bits, exponent] at normal

theorem isAtMost_powerOfTen {n : Nat} (small : n ≤ 308) :
    IsAtMost (Json.powerOfTen n) (10 ^ n * slack) := by
  have power : 0 < 10 ^ n := Nat.pow_pos (by decide)
  have shifted : (10 ^ n * 2 ^ 53).log2 - 52 = (10 ^ n).log2 + 1 := by
    rw [log2_mul_two_pow power 53]
    omega
  have off := dropped_value_le (Nat.mul_pos power (Nat.two_pow_pos 53))
  rw [shifted] at off
  have exponent : ((10 ^ n).log2 - 52 : ℤ) = ((10 ^ n).log2 + 1 : Nat) + (-(53 : Nat) : ℤ) := by
    omega
  refine ⟨_, isNormal_powerOfTen small, ?_⟩
  calc _ = (dropped (10 ^ n * 2 ^ 53) ((10 ^ n).log2 + 1) : ℚ) * 2 ^ ((10 ^ n).log2 + 1) *
        2 ^ (-(53 : Nat) : ℤ) := by
        rw [exponent, zpow_add₀ (by norm_num), zpow_natCast, mul_assoc]
    _ ≤ ((10 ^ n * 2 ^ 53 : Nat) : ℚ) * slack * 2 ^ (-(53 : Nat) : ℤ) := by
        gcongr
    _ = 10 ^ n * slack := by
        rw [mul_right_comm, shifted_value]
        push_cast
        rfl

/-! ## Products -/

theorem isFinite_mul_of_isAtMost {x y : Float} {a b : ℚ} (hx : IsAtMost x a) (hy : IsAtMost y b)
    (lt : a * b < overflow) : (x * y).isFinite = true := by
  obtain ⟨v, normal, le⟩ := hx
  obtain ⟨w, normal', le'⟩ := hy
  refine isFinite_mul normal normal' (lt_of_le_of_lt ?_ lt)
  obtain ⟨m, e, -, -, -, -, rfl⟩ := normal
  obtain ⟨n, f, -, -, -, -, rfl⟩ := normal'
  exact mul_le_mul le le' (by positivity) (le_trans (by positivity) le)

/-- A decimal is read if its value stays below the bound with what is added in rounding. -/
theorem scaled?_isSome {digits power : Nat} {a : ℚ} (small : IsAtMost digits.toUInt64.toFloat a)
    (range : power ≤ 308) (lt : a * (10 ^ power * slack) < overflow) :
    (Json.scaled? digits power).isSome = true := by
  have finite := isFinite_mul_of_isAtMost small (isAtMost_powerOfTen range) lt
  have natural : ¬(power : Int) < 0 := by omega
  simp only [Json.scaled?, if_neg natural, Int.natAbs_natCast, if_pos range,
    (isFinite_iff.mp finite).2, Bool.false_eq_true, ↓reduceIte, Option.isSome_some]

theorem mul_slack_lt {n : Nat} (lt : n * (2 ^ 53 + 1) < overflow * 2 ^ 53) :
    (n : ℚ) * slack < overflow := by
  have cast : (n : ℚ) * (2 ^ 53 + 1) < overflow * 2 ^ 53 := by exact_mod_cast lt
  unfold slack
  linarith

end HeaderBidding.Rounding
