import HeaderBidding.Proofs.Doubles
import HeaderBidding.Proofs.Shortest

/-!
# Shortest decimals do not overflow

The shortest decimal of a finite double is read back as a finite double, though not always as the
same one.  For all but the largest powers of ten its few digits keep it far below the bound; for
the others the digits are small enough to be exact, or nearly so.
-/

namespace HeaderBidding.Decimal

open Rounding

/-- The mantissa and the exponent of a finite double, not zero. -/
structure InRange (mantissa exponent : Nat) : Prop where
  pos : 0 < mantissa
  mantissa_lt : mantissa < 2 ^ 53
  exponent_le : exponent ≤ 2045

variable {mantissa exponent : Nat}

/-- Twice a point of a grid in the interval is at most twice the value and one unit more. -/
theorem two_mul_point_le {digits power : Nat}
    (has : ((Interval.ofDouble mantissa exponent).scaled 0 power).has digits = true) :
    2 * (digits * 10 ^ power) ≤ (2 * mantissa + 1) * 2 ^ (exponent - 1074) := by
  have high : digits * ((Interval.ofDouble mantissa exponent).unit * 10 ^ power) ≤
      (Interval.ofDouble mantissa exponent).high * 10 ^ 0 := (Interval.le_of_has has).2
  rw [Interval.unit_ofDouble, Interval.high_ofDouble, pow_zero, mul_one] at high
  refine Nat.le_of_mul_le_mul_left (?_ : 2 * _ ≤ 2 * _) two_pos
  calc 2 * (2 * (digits * 10 ^ power))
      = digits * (4 * 1 * 10 ^ power) := by ring
    _ ≤ digits * (4 * 2 ^ (1074 - exponent) * 10 ^ power) := by
        gcongr
        exact Nat.one_le_two_pow
    _ ≤ (4 * mantissa + 2) * 2 ^ (exponent - 1074) := high
    _ = 2 * ((2 * mantissa + 1) * 2 ^ (exponent - 1074)) := by ring

theorem two_mul_overflow : 2 * overflow = (2 ^ 54 - 1) * 2 ^ 971 := by
  decide +kernel

theorem point_le_overflow {digits power : Nat} (range : InRange mantissa exponent)
    (has : ((Interval.ofDouble mantissa exponent).scaled 0 power).has digits = true) :
    digits * 10 ^ power ≤ overflow := by
  refine Nat.le_of_mul_le_mul_left (?_ : 2 * _ ≤ 2 * _) two_pos
  rw [two_mul_overflow]
  refine (two_mul_point_le has).trans (Nat.mul_le_mul ?_ (Nat.pow_le_pow_right two_pos ?_))
  · have := range.mantissa_lt
    omega
  · have := range.exponent_le
    omega

/-! ## By the power of ten -/

theorem scaled?_of_small_power {digits power : Nat} (pos : 0 < digits)
    (few : 3 * digits ≤ 40 * 2 ^ 53 + 3) (range : power ≤ 291) :
    (Json.scaled? digits power).isSome = true := by
  apply scaled?_isSome (isAtMost_toFloat pos (by omega)) (by omega)
  have bound : 5 * ((40 * 2 ^ 53 / 3 + 1) * 10 ^ 291) < 4 * overflow := by decide +kernel
  have product : digits * 10 ^ power ≤ (40 * 2 ^ 53 / 3 + 1) * 10 ^ 291 :=
    Nat.mul_le_mul (by omega) (Nat.pow_le_pow_right (by decide) range)
  have cast : 5 * ((digits : ℚ) * 10 ^ power) < 4 * overflow := by
    exact_mod_cast (Nat.mul_le_mul_left 5 product).trans_lt bound
  have twice : slack * slack ≤ 5 / 4 := by
    unfold slack
    norm_num
  calc (digits : ℚ) * slack * (10 ^ power * slack)
      = digits * 10 ^ power * (slack * slack) := by ring
    _ ≤ digits * 10 ^ power * (5 / 4) := by gcongr
    _ < overflow := by linarith

theorem scaled?_of_exact {digits power : Nat} (pos : 0 < digits) (small : digits < 2 ^ 53)
    (range : power ≤ 308) (lt : digits * 10 ^ power * (2 ^ 53 + 1) < overflow * 2 ^ 53) :
    (Json.scaled? digits power).isSome = true := by
  apply scaled?_isSome (isAtMost_toFloat_of_lt pos small) range
  have product := mul_slack_lt lt
  push_cast at product
  rwa [← mul_assoc]

/-- Beyond `10 ^ 292`, the digits of a number below the bound are exact, and rounding the power of
ten does not reach the bound. -/
theorem scaled?_of_large_power {digits power : Nat} (pos : 0 < digits)
    (le : digits * 10 ^ power ≤ overflow) (low : 293 ≤ power) (range : power ≤ 308) :
    (Json.scaled? digits power).isSome = true := by
  have table : ∀ p < 309, 293 ≤ p → overflow / 10 ^ p < 2 ^ 53 ∧
      overflow / 10 ^ p * 10 ^ p * (2 ^ 53 + 1) < overflow * 2 ^ 53 := by decide +kernel
  obtain ⟨small, lt⟩ := table power (by omega) low
  have quotient : digits ≤ overflow / 10 ^ power :=
    (Nat.le_div_iff_mul_le (Nat.pow_pos (by decide))).mpr le
  refine scaled?_of_exact pos (quotient.trans_lt small) range (lt_of_le_of_lt ?_ lt)
  exact Nat.mul_le_mul_right _ (Nat.mul_le_mul_right _ quotient)

/-- All but the largest double are a whole unit further from the bound. -/
theorem two_mul_point_le_of_not_largest {digits power : Nat} (range : InRange mantissa exponent)
    (smaller : ¬(mantissa = 2 ^ 53 - 1 ∧ exponent = 2045))
    (has : ((Interval.ofDouble mantissa exponent).scaled 0 power).has digits = true) :
    2 * (digits * 10 ^ power) ≤ (2 ^ 54 - 3) * 2 ^ 971 := by
  have mantissa_lt := range.mantissa_lt
  have exponent_le := range.exponent_le
  apply (two_mul_point_le has).trans
  rcases exponent_le.lt_or_eq with below | last
  · have twice : 2 * mantissa + 1 ≤ 2 ^ 54 - 1 := by omega
    have power_le : 2 ^ (exponent - 1074) ≤ 2 ^ 970 :=
      Nat.pow_le_pow_right two_pos (by omega)
    have top : (2 ^ 54 - 1) * 2 ^ 970 ≤ (2 ^ 54 - 3) * 2 ^ 971 := by decide +kernel
    exact (Nat.mul_le_mul twice power_le).trans top
  · have twice : 2 * mantissa + 1 ≤ 2 ^ 54 - 3 := by omega
    rw [last, show 2045 - 1074 = 971 by rfl]
    exact Nat.mul_le_mul_right _ twice

/-- The digits at `10 ^ 292` are too many to be exact.  Those of the largest double lie nearest to
it and round down, all others lie far enough below the bound. -/
theorem scaled?_of_middle_power {digits : Nat} (pos : 0 < digits)
    (range : InRange mantissa exponent)
    (found : ((Interval.ofDouble mantissa exponent).scaled 0 292).nearest? = some digits) :
    (Json.scaled? digits 292).isSome = true := by
  by_cases largest : mantissa = 2 ^ 53 - 1 ∧ exponent = 2045
  · obtain ⟨rfl, rfl⟩ := largest
    have nearest : ((Interval.ofDouble (2 ^ 53 - 1) 2045).scaled 0 292).nearest? =
        some 17976931348623157 := by
      decide +kernel
    obtain rfl := Option.some.inj (nearest.symm.trans found)
    decide +kernel
  · have le := two_mul_point_le_of_not_largest range largest (Interval.nearest?_eq_some found).1
    have bound : (2 ^ 54 - 3) * 2 ^ 971 < 2 * (17976931348623157 * 10 ^ 292) := by decide +kernel
    have below : digits * 10 ^ 292 < 17976931348623157 * 10 ^ 292 :=
      Nat.lt_of_mul_lt_mul_left (le.trans_lt bound)
    have few : digits ≤ 17976931348623156 :=
      Nat.le_of_lt_succ (Nat.lt_of_mul_lt_mul_right below)
    refine scaled?_isSome (isAtMost_toFloat_of_le_even pos few (by decide) (by decide))
      (by decide) ?_
    have lt : 17976931348623156 * 10 ^ 292 * (2 ^ 53 + 1) < overflow * 2 ^ 53 := by
      decide +kernel
    have product := mul_slack_lt lt
    push_cast at product ⊢
    rwa [← mul_assoc]

/-- The digits of a shortest decimal are few, and its power of ten is not too large. -/
theorem shortest_range (range : InRange mantissa exponent) :
    0 < (shortest mantissa exponent).1 ∧ 3 * (shortest mantissa exponent).1 ≤ 40 * 2 ^ 53 + 3 ∧
      -1074 < (shortest mantissa exponent).2 ∧ (shortest mantissa exponent).2 ≤ 308 := by
  obtain ⟨n, nonzero, power, found, few⟩ := shortest_spec range.pos exponent
  have sound := (Interval.sound_ofDouble range.pos exponent).scaled (1074 - n) (n - 1074)
  have has := (Interval.nearest?_eq_some found).1
  have pos : 0 < (shortest mantissa exponent).1 := by
    by_contra none
    have zero : (shortest mantissa exponent).1 = 0 := by omega
    have low := (Interval.le_of_has has).1
    rw [zero, zero_mul] at low
    exact absurd (sound.low_pos.trans_le low) (lt_irrefl 0)
  have mantissa_lt := range.mantissa_lt
  refine ⟨pos, by omega, by omega, ?_⟩
  by_contra large
  obtain ⟨p, rfl⟩ : ∃ p, n = 1074 + p := Nat.exists_eq_add_of_le (by omega)
  have grid : ((Interval.ofDouble mantissa exponent).scaled 0 p).has
      (shortest mantissa exponent).1 = true := by
    simpa [Interval.onGrid] using has
  have le := point_le_overflow range grid
  have top : overflow < 10 ^ 309 := by decide +kernel
  have power_le : 10 ^ 309 ≤ (shortest mantissa exponent).1 * 10 ^ p :=
    (Nat.pow_le_pow_right (by decide) (by omega)).trans (Nat.le_mul_of_pos_left _ pos)
  omega

/-- The shortest decimal of a finite double is read without an overflow. -/
theorem scaled?_shortest (range : InRange mantissa exponent) :
    (Json.scaled? (shortest mantissa exponent).1 (shortest mantissa exponent).2).isSome = true := by
  obtain ⟨pos, few, -, small⟩ := shortest_range range
  obtain ⟨n, -, power, found, -⟩ := shortest_spec range.pos exponent
  generalize (shortest mantissa exponent).1 = digits at *
  rw [power] at small ⊢
  rcases Nat.lt_or_ge n 1074 with negative | natural
  · simp [Json.scaled?, show (n : Int) - 1074 < 0 by omega]
  · obtain ⟨p, rfl⟩ := Nat.exists_eq_add_of_le natural
    have grid : ((Interval.ofDouble mantissa exponent).scaled 0 p).nearest? = some digits := by
      simpa [Interval.onGrid] using found
    rw [show ((1074 + p : Nat) : Int) - 1074 = p by omega]
    rcases Nat.lt_trichotomy p 292 with low | rfl | high
    · exact scaled?_of_small_power pos few (by omega)
    · exact scaled?_of_middle_power pos range grid
    · have le := point_le_overflow range (Interval.nearest?_eq_some grid).1
      exact scaled?_of_large_power pos le high (by omega)

end HeaderBidding.Decimal
