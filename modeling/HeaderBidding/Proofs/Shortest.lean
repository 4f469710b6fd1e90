import HeaderBidding.Decimal.Shortest
import Mathlib

/-!
# The digits of the shortest decimal

A grid with no point in the interval of a double is at least as wide as the interval.  So the search
ends, and what it finds has few digits, as the grid before it was too wide.
-/

namespace HeaderBidding.Decimal

namespace Interval

variable {i : Interval} {d n : Nat}

/-! ## Intervals -/

/-- The value lies inside, and the interval is wide enough for its value to have few digits. -/
structure Sound (i : Interval) (mantissa : Nat) : Prop where
  unit_pos : 0 < i.unit
  low_pos : 0 < i.low
  low_lt : i.low < i.value
  lt_high : i.value < i.high
  wide : 3 * i.value ≤ 4 * mantissa * (i.high - i.low)

theorem sound_ofDouble {mantissa : Nat} (pos : 0 < mantissa) (exponent : Nat) :
    (ofDouble mantissa exponent).Sound mantissa := by
  have scale : 0 < 1 <<< (exponent - 1074) := by
    rw [Nat.one_shiftLeft]
    exact Nat.two_pow_pos _
  have unit : 0 < 4 <<< (1074 - exponent) := by
    rw [Nat.shiftLeft_eq]
    exact Nat.mul_pos (by decide) (Nat.two_pow_pos _)
  simp only [ofDouble]
  generalize 1 <<< (exponent - 1074) = s at scale
  -- The ends lie two and one or two quarters of a unit away from the value.
  obtain ⟨below, low, one, two⟩ : ∃ below,
      (if mantissa = 0x10000000000000 ∧ exponent ≠ 0 then (4 * mantissa - 1) * s
        else (4 * mantissa - 2) * s) = (4 * mantissa - below) * s ∧ 1 ≤ below ∧ below ≤ 2 := by
    split
    · exact ⟨1, rfl, le_rfl, by decide⟩
    · exact ⟨2, rfl, by decide, le_rfl⟩
  rw [low]
  refine ⟨unit, Nat.mul_pos (by omega) scale, Nat.mul_lt_mul_of_pos_right (by omega) scale,
    Nat.mul_lt_mul_of_pos_right (by omega) scale, ?_⟩
  change 3 * (4 * mantissa * s) ≤
    4 * mantissa * ((4 * mantissa + 2) * s - (4 * mantissa - below) * s)
  rw [← Nat.sub_mul, mul_left_comm 3]
  gcongr
  omega

theorem Sound.scaled {mantissa : Nat} (sound : i.Sound mantissa) (up down : Nat) :
    (i.scaled up down).Sound mantissa := by
  have power : 0 < Nat.pow 10 up := Nat.pow_pos (by decide)
  refine ⟨Nat.mul_pos sound.unit_pos (Nat.pow_pos (by decide)), Nat.mul_pos sound.low_pos power,
    Nat.mul_lt_mul_of_pos_right sound.low_lt power,
    Nat.mul_lt_mul_of_pos_right sound.lt_high power, ?_⟩
  change 3 * (i.value * Nat.pow 10 up) ≤
    4 * mantissa * (i.high * Nat.pow 10 up - i.low * Nat.pow 10 up)
  rw [← Nat.sub_mul, ← mul_assoc, ← mul_assoc]
  exact Nat.mul_le_mul_right _ sound.wide

/-! ## Points of a grid -/

theorem le_of_has (has : i.has n = true) : i.low ≤ n * i.unit ∧ n * i.unit ≤ i.high := by
  unfold Interval.has at has
  cases closed : i.closed <;> simp [closed] at has <;> omega

theorem nearest?_eq_some (found : i.nearest? = some d) :
    i.has d = true ∧ d ≤ i.value / i.unit + 1 := by
  unfold nearest? at found
  simp only at found
  split at found
  · rename_i below above
    obtain rfl := Option.some.inj found
    split
    · exact ⟨below, Nat.le_succ _⟩
    · exact ⟨above, le_rfl⟩
  · rename_i below _
    obtain rfl := Option.some.inj found
    exact ⟨below, Nat.le_succ _⟩
  · rename_i _ above
    obtain rfl := Option.some.inj found
    exact ⟨above, le_rfl⟩
  · contradiction

/-- A grid without a point in the interval is at least as wide. -/
theorem width_le_of_nearest?_eq_none {mantissa : Nat} (sound : i.Sound mantissa)
    (missed : i.nearest? = none) : i.high - i.low ≤ i.unit := by
  have outside : i.has (i.value / i.unit) = false ∧ i.has (i.value / i.unit + 1) = false := by
    unfold nearest? at missed
    simp only at missed
    split at missed
    · contradiction
    · contradiction
    · contradiction
    · rename_i below above
      exact ⟨below, above⟩
  have below : i.value / i.unit * i.unit ≤ i.value := Nat.div_mul_le_self _ _
  have above : i.value < (i.value / i.unit + 1) * i.unit := by
    rw [mul_comm]
    exact Nat.lt_mul_div_succ _ sound.unit_pos
  have step : (i.value / i.unit + 1) * i.unit = i.value / i.unit * i.unit + i.unit := by ring
  have low := sound.low_lt
  have high := sound.lt_high
  rw [step] at above
  unfold Interval.has at outside
  simp only [step] at outside
  cases closed : i.closed <;> simp [closed] at outside <;> omega

/-! ## The search -/

/-- The interval on the grid of `10 ^ (n - 1074)`. -/
def onGrid (i : Interval) (n : Nat) : Interval :=
  i.scaled (1074 - n) (n - 1074)

/-- The search ends at the first grid with a point in the interval, from coarse to fine, if there is
one at all. -/
theorem search_spec (i : Interval) {some : Nat} (positive : 0 < some)
    (hits : (i.onGrid some).nearest? ≠ none) {start : Nat} (le : some ≤ start) :
    ∃ n, some ≤ n ∧ n ≤ start ∧ (i.onGrid n).nearest? = .some (i.search start).1 ∧
      (i.search start).2 = (n : Int) - 1074 ∧
      (n = start ∨ (i.onGrid (n + 1)).nearest? = none) := by
  induction start with
  | zero => omega
  | succ start ih =>
      rw [search]
      cases found : (i.scaled (1074 - (start + 1)) (start + 1 - 1074)).nearest? with
      | some digits => exact ⟨start + 1, le, le_rfl, found, rfl, .inl rfl⟩
      | none =>
          have further : some ≤ start := by
            refine Nat.le_of_lt_succ (le.lt_of_ne fun same => hits ?_)
            rw [same]
            exact found
          obtain ⟨n, low, high, digits, exponent, last⟩ := ih further
          refine ⟨n, low, by omega, digits, exponent, .inr ?_⟩
          rcases last with rfl | missed
          · exact found
          · exact missed

theorem unit_ofDouble (mantissa exponent : Nat) :
    (ofDouble mantissa exponent).unit = 4 * 2 ^ (1074 - exponent) := by
  simp only [ofDouble, Nat.shiftLeft_eq]

theorem high_ofDouble (mantissa exponent : Nat) :
    (ofDouble mantissa exponent).high = (4 * mantissa + 2) * 2 ^ (exponent - 1074) := by
  simp only [ofDouble, Nat.one_shiftLeft]

theorem unit_ofDouble_le (mantissa exponent : Nat) :
    (ofDouble mantissa exponent).unit ≤ 4 * 2 ^ 1074 := by
  rw [unit_ofDouble]
  exact Nat.mul_le_mul_left 4 (Nat.pow_le_pow_right (by decide) (Nat.sub_le _ _))

/-- On the finest grid but one there is always a point in the interval. -/
theorem nearest?_onGrid_one {mantissa : Nat} (pos : 0 < mantissa) (exponent : Nat) :
    ((ofDouble mantissa exponent).onGrid 1).nearest? ≠ none := by
  intro missed
  have sound := sound_ofDouble pos exponent
  have width := width_le_of_nearest?_eq_none (sound.scaled 1073 0) missed
  have narrow : 2 ≤ (ofDouble mantissa exponent).high - (ofDouble mantissa exponent).low := by
    have := sound.low_lt
    have := sound.lt_high
    omega
  have fine : 4 * 2 ^ 1074 < 2 * Nat.pow 10 1073 := by decide +kernel
  apply absurd fine
  apply Nat.not_lt.mpr
  calc 2 * Nat.pow 10 1073
      ≤ ((ofDouble mantissa exponent).high - (ofDouble mantissa exponent).low) *
          Nat.pow 10 1073 := Nat.mul_le_mul_right _ narrow
    _ = (ofDouble mantissa exponent).high * Nat.pow 10 1073 -
          (ofDouble mantissa exponent).low * Nat.pow 10 1073 := Nat.sub_mul _ _ _
    _ ≤ (ofDouble mantissa exponent).unit * Nat.pow 10 0 := width
    _ = (ofDouble mantissa exponent).unit := Nat.mul_one _
    _ ≤ 4 * 2 ^ 1074 := unit_ofDouble_le mantissa exponent

/-- One grid finer, the value is ten times as large against the unit. -/
theorem onGrid_succ (i : Interval) (n : Nat) :
    (i.onGrid n).value * (i.onGrid (n + 1)).unit =
      10 * ((i.onGrid (n + 1)).value * (i.onGrid n).unit) := by
  change i.value * 10 ^ (1074 - n) * (i.unit * 10 ^ (n + 1 - 1074)) =
    10 * (i.value * 10 ^ (1074 - (n + 1)) * (i.unit * 10 ^ (n - 1074)))
  rcases Nat.lt_or_ge n 1074 with fine | coarse
  · rw [show 1074 - n = 1074 - (n + 1) + 1 by omega, show n + 1 - 1074 = 0 by omega,
      show n - 1074 = 0 by omega, pow_succ]
    ring
  · rw [show 1074 - n = 0 by omega, show n + 1 - 1074 = n - 1074 + 1 by omega,
      show 1074 - (n + 1) = 0 by omega, pow_succ]
    ring

/-- Where the grid before has no point in the interval, the value is a small number of units. -/
theorem quotient_le_of_missed {mantissa : Nat} (sound : i.Sound mantissa)
    (missed : (i.onGrid (n + 1)).nearest? = none) :
    3 * ((i.onGrid n).value / (i.onGrid n).unit) ≤ 40 * mantissa := by
  have here : (i.onGrid n).Sound mantissa := sound.scaled _ _
  have before : (i.onGrid (n + 1)).Sound mantissa := sound.scaled _ _
  have width := width_le_of_nearest?_eq_none before missed
  have wide : 3 * (i.onGrid (n + 1)).value ≤ 4 * mantissa * (i.onGrid (n + 1)).unit :=
    before.wide.trans (Nat.mul_le_mul_left _ width)
  have units : 0 < (i.onGrid n).unit * (i.onGrid (n + 1)).unit :=
    Nat.mul_pos here.unit_pos before.unit_pos
  refine Nat.le_of_mul_le_mul_right ?_ units
  calc 3 * ((i.onGrid n).value / (i.onGrid n).unit) *
        ((i.onGrid n).unit * (i.onGrid (n + 1)).unit)
      = 3 * ((i.onGrid n).value / (i.onGrid n).unit * (i.onGrid n).unit) *
          (i.onGrid (n + 1)).unit := by ring
    _ ≤ 3 * (i.onGrid n).value * (i.onGrid (n + 1)).unit := by
        gcongr
        exact Nat.div_mul_le_self _ _
    _ = 10 * (3 * (i.onGrid (n + 1)).value) * (i.onGrid n).unit := by
        rw [mul_assoc, onGrid_succ]
        ring
    _ ≤ 10 * (4 * mantissa * (i.onGrid (n + 1)).unit) * (i.onGrid n).unit := by
        exact Nat.mul_le_mul_right _ (Nat.mul_le_mul_left 10 wide)
    _ = 40 * mantissa * ((i.onGrid n).unit * (i.onGrid (n + 1)).unit) := by ring

end Interval

/-- The first grid with a point in the interval gives the shortest decimal, whose digits are few:
the grid before it is wider than the interval. -/
theorem shortest_spec {mantissa : Nat} (pos : 0 < mantissa) (exponent : Nat) :
    ∃ n : Nat, 0 < n ∧ (shortest mantissa exponent).2 = (n : Int) - 1074 ∧
      ((Interval.ofDouble mantissa exponent).onGrid n).nearest? =
        some (shortest mantissa exponent).1 ∧
      3 * (shortest mantissa exponent).1 ≤ 40 * mantissa + 3 := by
  have sound := Interval.sound_ofDouble pos exponent
  unfold shortest
  simp only
  generalize digits : (Nat.toDigits 10 ((Interval.ofDouble mantissa exponent).value /
    (Interval.ofDouble mantissa exponent).unit)).length = length
  have start : 1 ≤ 1074 + length := by omega
  obtain ⟨n, positive, -, found, power, last⟩ :=
    Interval.search_spec _ one_pos (Interval.nearest?_onGrid_one pos exponent) start
  refine ⟨n, positive, power, found, ?_⟩
  have near := (Interval.nearest?_eq_some found).2
  rcases last with rfl | missed
  · have whole : (Interval.ofDouble mantissa exponent).value /
        (Interval.ofDouble mantissa exponent).unit < 10 ^ length := by
      have nonempty : 0 < length := by
        rw [← digits]
        exact Nat.length_toDigits_pos
      exact (Nat.length_toDigits_le_iff (by decide) nonempty).mp digits.le
    have none : ((Interval.ofDouble mantissa exponent).onGrid (1074 + length)).value /
        ((Interval.ofDouble mantissa exponent).onGrid (1074 + length)).unit = 0 := by
      apply Nat.div_eq_of_lt
      change _ * 10 ^ (1074 - (1074 + length)) < _ * 10 ^ (1074 + length - 1074)
      rw [show 1074 - (1074 + length) = 0 by omega, show 1074 + length - 1074 = length by omega,
        pow_zero, mul_one, mul_comm]
      exact (Nat.div_lt_iff_lt_mul sound.unit_pos).mp whole
    omega
  · have few := Interval.quotient_le_of_missed sound missed
    omega

end HeaderBidding.Decimal
