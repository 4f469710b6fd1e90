import Mathlib

/-!
# Rounding to doubles

A product of whole numbers and powers of two is rounded to a double by dropping all but 53 bits of
it.  What is dropped changes it by half a unit of its last place at most, and it stays finite as
long as it lies below the number that is halfway from the largest double to the next power of two.
-/

namespace HeaderBidding.Rounding

open Float.Model Float.Model.UnpackedFloat

/-! ## Dropping bits -/

/-- A whole number of which no bits have been dropped. -/
def whole (m : Nat) : ExtendedMantissa :=
  .ofMantissaAndAccuracy m .exact

@[simp]
theorem mantissa_whole (m : Nat) : (whole m).mantissa = m :=
  rfl

@[simp]
theorem mantissa_shiftRight (em : ExtendedMantissa) (k : Nat) :
    (em >>> k).mantissa = em.mantissa / 2 ^ k := by
  induction k with
  | zero => simp [HShiftRight.hShiftRight, Nat.repeat]
  | succ k ih =>
      change (em >>> k).mantissa / 2 = em.mantissa / 2 ^ (k + 1)
      rw [ih, Nat.div_div_eq_div_mul, ← pow_succ]

theorem roundBit_shiftRight (em : ExtendedMantissa) (k : Nat) :
    (em >>> (k + 1)).roundBit = (em.mantissa / 2 ^ k % 2 != 0) := by
  change ((em >>> k).mantissa % 2 != 0) = _
  rw [mantissa_shiftRight]

theorem roundedMantissa_bounds (em : ExtendedMantissa) :
    em.mantissa ≤ em.roundedMantissa ∧ em.roundedMantissa ≤ em.mantissa + em.roundBit.toNat := by
  unfold ExtendedMantissa.roundedMantissa
  rcases em with ⟨m, _ | _, _ | _⟩
  · exact ⟨le_rfl, le_rfl⟩
  · exact ⟨le_rfl, le_rfl⟩
  · exact ⟨Nat.le_add_right m (m % 2), Nat.add_le_add_left (Nat.mod_lt m two_pos).le_pred m⟩
  · exact ⟨Nat.le_add_right m 1, le_rfl⟩

/-- A whole number without its last `k` bits, rounded. -/
def dropped (m k : Nat) : Nat :=
  (whole m >>> k).roundedMantissa

@[simp]
theorem dropped_zero (m : Nat) : dropped m 0 = m :=
  rfl

theorem le_dropped (m k : Nat) : m / 2 ^ k ≤ dropped m k := by
  have bounds := (roundedMantissa_bounds (whole m >>> k)).1
  rwa [mantissa_shiftRight] at bounds

theorem dropped_le (m k : Nat) : dropped m k ≤ m / 2 ^ k + 1 := by
  have bounds := (roundedMantissa_bounds (whole m >>> k)).2
  rw [mantissa_shiftRight] at bounds
  exact bounds.trans (Nat.add_le_add_left (Bool.toNat_le _) _)

/-- Rounding goes up only from half a unit on. -/
theorem two_mul_dropped_le (m k : Nat) : 2 * dropped m (k + 1) ≤ m / 2 ^ k + 1 := by
  have bounds := (roundedMantissa_bounds (whole m >>> (k + 1))).2
  rw [mantissa_shiftRight, roundBit_shiftRight] at bounds
  change dropped m (k + 1) ≤ m / 2 ^ (k + 1) + (m / 2 ^ k % 2 != 0).toNat at bounds
  rw [pow_succ, ← Nat.div_div_eq_div_mul] at bounds
  have bit : (m / 2 ^ k % 2 != 0).toNat = m / 2 ^ k % 2 := by
    rcases Nat.mod_two_eq_zero_or_one (m / 2 ^ k) with even | odd
    · simp [even]
    · simp [odd]
  omega

theorem dropped_mul_le (m k : Nat) : 2 * (dropped m k * 2 ^ k) ≤ 2 * m + 2 ^ k := by
  cases k with
  | zero => simp
  | succ k =>
      calc 2 * (dropped m (k + 1) * 2 ^ (k + 1))
          = 2 * dropped m (k + 1) * 2 ^ (k + 1) := by ring
        _ ≤ (m / 2 ^ k + 1) * 2 ^ (k + 1) := Nat.mul_le_mul_right _ (two_mul_dropped_le m k)
        _ = 2 * (m / 2 ^ k * 2 ^ k) + 2 ^ (k + 1) := by ring
        _ ≤ 2 * m + 2 ^ (k + 1) := by
            have := Nat.div_mul_le_self m (2 ^ k)
            omega

/-! ## Rounding -/

/-- The number of bits that are dropped of `m` in rounding `m · 2 ^ e`. -/
def excess (m : Nat) (e : Int) : Nat :=
  (max (m.log2 + e - 52) (-1074) - e).toNat

theorem targetExponent_eq (m : Nat) (e : Int) :
    Format.binary64.targetExponent (totalExponent m e) = max (m.log2 + e - 52) (-1074) := by
  simp only [Format.targetExponent, totalExponent, Format.mantissaBits, Format.minExponent]
  norm_num
  omega

theorem shiftToTargetExponent_eq (m : Nat) (e : Int) :
    shiftToTargetExponent .binary64 m e .exact = (whole m >>> excess m e, e + excess m e) := by
  rw [shiftToTargetExponent, targetExponent_eq]
  rfl

theorem log2_lt_of_excess (m : Nat) (e : Int) : m.log2 ≤ 52 + excess m e := by
  unfold excess
  omega

theorem exponent_ge_of_excess (m : Nat) (e : Int) : -1074 ≤ e + excess m e := by
  unfold excess
  omega

theorem div_excess_lt (m : Nat) (e : Int) : m / 2 ^ excess m e < 2 ^ 53 := by
  rw [Nat.div_lt_iff_lt_mul (Nat.two_pow_pos _), ← pow_add]
  refine Nat.lt_log2_self.trans_le (Nat.pow_le_pow_right (by decide) ?_)
  have := log2_lt_of_excess m e
  omega

/-- The whole number that `m` is rounded to in rounding `m · 2 ^ e`. -/
def rounded (m : Nat) (e : Int) : Nat :=
  dropped m (excess m e)

theorem rounded_le (m : Nat) (e : Int) : rounded m e ≤ 2 ^ 53 := by
  have floor := div_excess_lt m e
  have bound := dropped_le m (excess m e)
  unfold rounded
  omega

theorem excess_eq_zero {m : Nat} {e : Int} (small : m < 2 ^ 53) (normal : -1074 ≤ e) :
    excess m e = 0 := by
  have log : m.log2 ≤ 52 := by
    by_cases zero : m = 0
    · simp [zero]
    · have := (Nat.log2_lt zero).mpr small
      omega
  unfold excess
  omega

/-- A product is rounded to zero, to at most 53 bits, or to the next power of two. -/
theorem roundWithAccuracy_eq (s : Sign) (m : Nat) (e : Int) :
    roundWithAccuracy .binary64 s m e .exact =
      if zero : rounded m e = 0 then .zero s
      else if rounded m e < 2 ^ 53 then
        .finite s (rounded m e) (e + excess m e) (Nat.pos_of_ne_zero zero)
      else .finite s (2 ^ 52) (e + excess m e + 1) (by decide) := by
  have normal := exponent_ge_of_excess m e
  rw [roundWithAccuracy, shiftToTargetExponent_eq]
  change (match shiftToTargetExponent .binary64 (rounded m e) (e + excess m e) .exact with
    | (em, e') => if h : em.mantissa = 0 then UnpackedFloat.zero s
        else .finite s em.mantissa e' (Nat.pos_of_ne_zero h)) = _
  rw [shiftToTargetExponent_eq]
  rcases (rounded_le m e).lt_or_eq with small | large
  · simp only [excess_eq_zero small normal, mantissa_shiftRight, mantissa_whole, pow_zero,
      Nat.div_one, Nat.cast_zero, add_zero, if_pos small]
  · have one : excess (2 ^ 53) (e + excess m e) = 1 := by
      rw [excess, Nat.log2_two_pow]
      omega
    simp only [large, one, mantissa_shiftRight, mantissa_whole, lt_irrefl, ↓reduceIte]
    rfl

/-! ## The size of what is rounded -/

/-- The least number that is too large for a double. -/
@[irreducible]
def overflow : Nat :=
  (2 ^ 54 - 1) * 2 ^ 970

theorem cast_overflow : (overflow : ℚ) = (2 ^ 54 - 1) * 2 ^ (970 : ℤ) := by
  have cast : ∀ n : Nat, (((2 ^ 54 - 1) * 2 ^ n : Nat) : ℚ) = (2 ^ 54 - 1) * 2 ^ (n : ℤ) := by
    intro n
    rw [zpow_natCast]
    norm_num
  unfold overflow
  exact cast 970

theorem log2_add_lt {m : Nat} {e n : Int} (pos : 0 < m) (lt : (m : ℚ) * 2 ^ e < 2 ^ n) :
    m.log2 + e < n := by
  have power : (2 : ℚ) ^ ((m.log2 : Int) + e) < 2 ^ n := by
    calc (2 : ℚ) ^ ((m.log2 : Int) + e)
        = ((2 ^ m.log2 : Nat) : ℚ) * 2 ^ e := by
          rw [zpow_add₀ (by norm_num), zpow_natCast]
          norm_cast
      _ ≤ m * 2 ^ e := by
          gcongr
          exact Nat.log2_self_le pos.ne'
      _ < 2 ^ n := lt
  exact (zpow_lt_zpow_iff_right₀ (by norm_num)).mp power

/-- Below the bound, rounding stays below the next power of two. -/
theorem rounded_lt {m : Nat} {e : Int} (lt : (m : ℚ) * 2 ^ e < overflow)
    (dropping : e ≤ 970) (last : e + excess m e = 971) : rounded m e < 2 ^ 53 := by
  obtain ⟨k, kept⟩ : ∃ k : Nat, e = 970 - k := ⟨(970 - e).toNat, by omega⟩
  have shift : excess m e = k + 1 := by omega
  have bound : m < (2 ^ 54 - 1) * 2 ^ k := by
    have scaled : (m : ℚ) * 2 ^ e < (2 ^ 54 - 1) * 2 ^ k * 2 ^ e := by
      rwa [mul_assoc, ← zpow_natCast (2 : ℚ) k, ← zpow_add₀ (by norm_num), kept,
        add_sub_cancel, ← kept, ← cast_overflow]
    have positive : (0 : ℚ) ≤ 2 ^ e := by positivity
    have cast : (m : ℚ) < (2 ^ 54 - 1) * 2 ^ k := lt_of_mul_lt_mul_right scaled positive
    rw [← Nat.cast_lt (α := ℚ)]
    norm_num at cast ⊢
    exact cast
  have quotient : m / 2 ^ k < 2 ^ 54 - 1 := (Nat.div_lt_iff_lt_mul (Nat.two_pow_pos k)).mpr bound
  have half := two_mul_dropped_le m k
  rw [rounded, shift]
  omega

/-! ## Packing -/

theorem ofBitVec_unpackSign (s : Sign) (exponent : BitVec 11) (mantissa : BitVec 52) :
    Sign.ofBitVec (unpackSign (packComponents .binary64 s exponent mantissa)) = s := by
  have sign : unpackSign (packComponents .binary64 s exponent mantissa) = s.toBitVec := by
    apply BitVec.eq_of_getLsbD_eq
    intro i small
    obtain rfl : i = 0 := by omega
    simp only [unpackSign, Nat.reduceAdd, Nat.reduceSub, packComponents, BitVec.cast_eq,
      Order.lt_one_iff, BitVec.getLsbD_eq_getElem, BitVec.getElem_extract, add_zero]
    rw [BitVec.getLsbD_append, BitVec.getLsbD_append]
    simp
  rw [sign]
  cases s <;> rfl

theorem toNat_one_append (mantissa : BitVec 52) :
    (1#1 ++ mantissa).toNat = 2 ^ 52 + mantissa.toNat := by
  rw [BitVec.toNat_append, ← Nat.shiftLeft_add_eq_or_of_lt mantissa.isLt]
  rfl

theorem unpack_packComponents (s : Sign) (exponent : BitVec 11) (mantissa : BitVec 52)
    (finite : exponent ≠ -1#11) :
    UnpackedFloat.unpack .binary64 (packComponents .binary64 s exponent mantissa) =
      if exponent = 0#11 then
        if zero : mantissa = 0#52 then .zero s
        else .finite s mantissa.toNat (exponent.toNat - 1075 + 1)
          (by simpa [BitVec.toNat_pos, BitVec.pos_iff_ne_zero])
      else .finite s (2 ^ 52 + mantissa.toNat) (exponent.toNat - 1075) (by omega) := by
  rw [UnpackedFloat.unpack]
  simp only [unpackMantissa_packComponents, unpackExponent_packComponents, ofBitVec_unpackSign,
    if_neg finite, toNat_one_append]
  rfl

theorem pack_finite (s : Sign) {m : Nat} {e : Int} (pos : 0 < m) (small : e ≤ 971) :
    UnpackedFloat.pack .binary64 (.finite s m e pos) =
      if m.log2 = 52 then
        packComponents .binary64 s (BitVec.ofNat 11 (e + 1075).toNat) (BitVec.ofNat 52 m)
      else packComponents .binary64 s 0#11 (BitVec.ofNat 52 m) := by
  have biased : (e + (1023 : Nat) + (52 : Nat)).toNat = (e + 1075).toNat := by omega
  change (if 2 ^ 11 ≤ (e + (1023 : Nat) + (52 : Nat)).toNat + 1 then _
    else if m.log2 + 1 = 53 then
      packComponents .binary64 s (BitVec.ofNat 11 (e + (1023 : Nat) + (52 : Nat)).toNat)
        (BitVec.ofNat 52 m)
    else _) = _
  rw [biased, if_neg (by omega)]
  exact if_congr Nat.succ_inj rfl rfl

theorem exponent_ne_of_le {e : Int} (small : e ≤ 971) :
    BitVec.ofNat 11 (e + 1075).toNat ≠ -1#11 := by
  intro same
  have value := congrArg BitVec.toNat same
  simp only [BitVec.toNat_ofNat] at value
  have top : (-1#11).toNat = 2047 := by decide
  omega

/-- A number that is not too large is not packed as an infinity. -/
theorem isFinite_unpack_pack (s : Sign) {m : Nat} {e : Int} (pos : 0 < m) (small : e ≤ 971) :
    (UnpackedFloat.unpack .binary64 (UnpackedFloat.pack .binary64 (.finite s m e pos))).isFinite =
      true := by
  have finite : ∀ exponent : BitVec 11, exponent ≠ -1#11 → ∀ mantissa,
      (UnpackedFloat.unpack .binary64
        (packComponents .binary64 s exponent mantissa)).isFinite = true := by
    intro exponent ne mantissa
    rw [unpack_packComponents s exponent mantissa ne]
    split
    · split
      · rfl
      · rfl
    · rfl
  rw [pack_finite s pos small]
  split
  · exact finite _ (exponent_ne_of_le small) _
  · exact finite _ (by decide) _

/-- A normal double that is packed is unpacked as it was. -/
theorem unpack_pack_normal (s : Sign) {m : Nat} {e : Int} (pos : 0 < m) (low : 2 ^ 52 ≤ m)
    (high : m < 2 ^ 53) (normal : -1074 ≤ e) (small : e ≤ 971) :
    UnpackedFloat.unpack .binary64 (UnpackedFloat.pack .binary64 (.finite s m e pos)) =
      .finite s m e pos := by
  have log : m.log2 = 52 := (Nat.log2_eq_iff pos.ne').mpr ⟨low, high⟩
  have exponent : (BitVec.ofNat 11 (e + 1075).toNat).toNat = (e + 1075).toNat := by
    rw [BitVec.toNat_ofNat]
    omega
  have nonzero : BitVec.ofNat 11 (e + 1075).toNat ≠ 0#11 := by
    intro same
    have value := congrArg BitVec.toNat same
    rw [exponent, BitVec.toNat_ofNat] at value
    omega
  have mantissa : 2 ^ 52 + (BitVec.ofNat 52 m).toNat = m := by
    rw [BitVec.toNat_ofNat]
    omega
  rw [pack_finite s pos small, if_pos log, unpack_packComponents s _ _ (exponent_ne_of_le small),
    if_neg nonzero]
  simp only [mantissa, exponent]
  congr 1
  omega

theorem isFinite_unpack_pack_zero (s : Sign) :
    (UnpackedFloat.unpack .binary64 (UnpackedFloat.pack .binary64 (.zero s))).isFinite = true := by
  cases s <;> rfl

/-! ## Rounding and packing -/

theorem log2_add_le_of_lt_overflow {m : Nat} {e : Int} (pos : 0 < m)
    (lt : (m : ℚ) * 2 ^ e < overflow) : m.log2 + e ≤ 1023 := by
  have power : (overflow : ℚ) < 2 ^ (1024 : ℤ) := by
    calc (overflow : ℚ)
        < 2 ^ 54 * 2 ^ (970 : ℤ) := by
          rw [cast_overflow]
          gcongr
          norm_num
      _ = 2 ^ (1024 : ℤ) := by
          rw [← zpow_natCast, ← zpow_add₀ (by norm_num)]
          norm_num
  have := log2_add_lt pos (lt.trans power)
  omega

theorem excess_le {m : Nat} {e : Int} (pos : 0 < m) (small : e ≤ 971)
    (lt : (m : ℚ) * 2 ^ e < overflow) : e + excess m e ≤ 971 := by
  have log := log2_add_le_of_lt_overflow pos lt
  unfold excess
  omega

/-- A number below the bound is rounded to the next power of two only if that is not too large. -/
theorem excess_lt {m : Nat} {e : Int} (pos : 0 < m) (small : e ≤ 971)
    (lt : (m : ℚ) * 2 ^ e < overflow) (full : ¬rounded m e < 2 ^ 53) : e + excess m e < 971 := by
  refine (excess_le pos small lt).lt_of_ne fun last => ?_
  have dropping : 0 < excess m e := by
    by_contra none
    have exact : excess m e = 0 := by omega
    have bits := log2_lt_of_excess m e
    have bound : m < 2 ^ 53 :=
      Nat.lt_log2_self.trans_le (Nat.pow_le_pow_right (by decide) (by omega))
    rw [rounded, exact, dropped_zero] at full
    exact full bound
  exact full (rounded_lt lt (by omega) last)

/-- A number below the bound is not rounded to an infinity. -/
theorem isFinite_round (s : Sign) {m : Nat} {e : Int} (pos : 0 < m) (small : e ≤ 971)
    (lt : (m : ℚ) * 2 ^ e < overflow) :
    (UnpackedFloat.unpack .binary64 (UnpackedFloat.pack .binary64
      (roundWithAccuracy .binary64 s m e .exact))).isFinite = true := by
  rw [roundWithAccuracy_eq]
  split
  · exact isFinite_unpack_pack_zero s
  · split
    · exact isFinite_unpack_pack s _ (excess_le pos small lt)
    · rename_i full
      exact isFinite_unpack_pack s _ (excess_lt pos small lt full)

/-- The double is positive and normal, and has the given value. -/
def IsNormal (x : UnpackedFloat) (value : ℚ) : Prop :=
  ∃ m e pos, x = .finite .positive m e pos ∧ (2 ^ 52 ≤ m ∧ m < 2 ^ 53) ∧
    (-1074 ≤ e ∧ e ≤ 971) ∧ (m : ℚ) * 2 ^ e = value

/-- A number of enough bits that is neither too large nor too small is rounded to a normal double,
which has its first 53 bits. -/
theorem isNormal_round {m : Nat} {e : Int} (bits : 52 ≤ m.log2) (low : 0 ≤ m.log2 + e)
    (lt : (m : ℚ) * 2 ^ e < overflow) :
    IsNormal (UnpackedFloat.unpack .binary64 (UnpackedFloat.pack .binary64
        (roundWithAccuracy .binary64 .positive m e .exact)))
      (dropped m (m.log2 - 52) * 2 ^ (e + (m.log2 - 52 : Nat))) := by
  have pos : 0 < m := by
    by_contra none
    obtain rfl : m = 0 := by omega
    simp at bits
  have log := log2_add_le_of_lt_overflow pos lt
  have shift : excess m e = m.log2 - 52 := by
    unfold excess
    omega
  have normal := exponent_ge_of_excess m e
  have full : 2 ^ 52 ≤ rounded m e := by
    apply le_trans _ (le_dropped m (excess m e))
    rw [Nat.le_div_iff_mul_le (Nat.two_pow_pos _), ← pow_add, shift]
    exact le_trans (Nat.pow_le_pow_right (by decide) (by omega)) (Nat.log2_self_le pos.ne')
  rw [roundWithAccuracy_eq, dif_neg (by omega), ← shift]
  split
  · rename_i small
    have high := excess_le pos (by omega) lt
    rw [unpack_pack_normal .positive _ full small normal high]
    exact ⟨_, _, _, rfl, ⟨full, small⟩, ⟨normal, high⟩, rfl⟩
  · rename_i large
    have high := excess_lt pos (by omega) lt large
    have whole : rounded m e = 2 ^ 53 := (rounded_le m e).antisymm (Nat.le_of_not_lt large)
    rw [unpack_pack_normal .positive _ le_rfl (by decide) (by omega) high]
    refine ⟨_, _, _, rfl, ⟨le_rfl, by decide⟩, ⟨by omega, high⟩, ?_⟩
    change _ = (rounded m e : ℚ) * _
    rw [whole, zpow_add_one₀ (by norm_num)]
    push_cast
    ring

/-- A product below the bound is not an infinity. -/
theorem isFinite_mul {x y : Float} {v w : ℚ} (hx : IsNormal x.toModel.unpack v)
    (hy : IsNormal y.toModel.unpack w) (lt : v * w < overflow) : (x * y).isFinite = true := by
  obtain ⟨m, e, pos, unpacked, ⟨low, -⟩, -, rfl⟩ := hx
  obtain ⟨n, f, pos', unpacked', ⟨low', -⟩, -, rfl⟩ := hy
  have product : ((m * n : Nat) : ℚ) * 2 ^ (e + f) < overflow := by
    rw [zpow_add₀ (by norm_num)]
    push_cast
    linarith
  have bits : 104 ≤ (m * n).log2 := by
    rw [Nat.le_log2 (Nat.mul_pos pos pos').ne']
    calc 2 ^ 104 = 2 ^ 52 * 2 ^ 52 := by norm_num
      _ ≤ m * n := Nat.mul_le_mul low low'
  have log := log2_add_le_of_lt_overflow (Nat.mul_pos pos pos') product
  have exponents : e + f ≤ 971 := by omega
  change (UnpackedFloat.unpack .binary64 (UnpackedFloat.pack .binary64
    (UnpackedFloat.mul .binary64 x.toModel.unpack y.toModel.unpack))).isFinite = true
  rw [unpacked, unpacked']
  exact isFinite_round _ (Nat.mul_pos pos pos') exponents product

end HeaderBidding.Rounding
