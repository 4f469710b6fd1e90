import HeaderBidding.Proofs.Decoding
import HeaderBidding.Proofs.Signs

/-!
# Doubles that are read

A double that is read is finite: products that are infinite are refused, and a division by a power
of ten only makes a number smaller.
-/

namespace HeaderBidding.Rounding

open Float.Model Float.Model.UnpackedFloat

/-! ## Quotients -/

theorem mantissa_ofMantissaAndAccuracy (m : Nat) (accuracy : Accuracy) :
    (ExtendedMantissa.ofMantissaAndAccuracy m accuracy).mantissa = m := by
  rcases accuracy with _ | _ | _ | _ <;> rfl

theorem log2_le_of_le_two_pow {m n : Nat} (le : m ≤ 2 ^ n) : m.log2 ≤ n := by
  by_cases zero : m = 0
  · simp [zero]
  · exact Nat.le_of_lt_succ ((Nat.log2_lt zero).mpr
      (le.trans_lt (Nat.pow_lt_pow_right (by decide) n.lt_succ_self)))

/-- Of whatever has been dropped, what is left has 53 bits or is the next power of two. -/
theorem exists_shiftToTargetExponent (m : Nat) (e : Int) (accuracy : Accuracy) :
    ∃ em, shiftToTargetExponent .binary64 m e accuracy = (em, e + excess m e) ∧
      em.roundedMantissa ≤ 2 ^ 53 := by
  refine ⟨ExtendedMantissa.ofMantissaAndAccuracy m accuracy >>> excess m e, ?_, ?_⟩
  · rw [shiftToTargetExponent, targetExponent_eq]
    rfl
  · have up := (roundedMantissa_bounds
      (ExtendedMantissa.ofMantissaAndAccuracy m accuracy >>> excess m e)).2
    rw [mantissa_shiftRight, mantissa_ofMantissaAndAccuracy] at up
    have floor := div_excess_lt m e
    have bit := Bool.toNat_le
      (ExtendedMantissa.ofMantissaAndAccuracy m accuracy >>> excess m e).roundBit
    omega

/-- What lies below the last power of two is rounded to a finite number, whatever was lost of it
before. -/
theorem isFinite_roundWithAccuracy (s : Sign) {m : Nat} {e : Int} (accuracy : Accuracy)
    (small : e ≤ 970) (bits : m.log2 + e ≤ 1022) :
    (UnpackedFloat.unpack .binary64 (UnpackedFloat.pack .binary64
      (roundWithAccuracy .binary64 s m e accuracy))).isFinite = true := by
  obtain ⟨em, first, bound⟩ := exists_shiftToTargetExponent m e accuracy
  -- The exponent is at most 970 behind the first step, and the second adds one at most.
  have log := log2_le_of_le_two_pow bound
  have exponent :
      e + excess m e + excess em.roundedMantissa (e + excess m e) ≤ 971 := by
    unfold excess
    omega
  rw [roundWithAccuracy, first]
  simp only [shiftToTargetExponent_eq]
  split
  · exact isFinite_unpack_pack_zero s
  · exact isFinite_unpack_pack s _ exponent

/-- Dividing by a number of 53 bits takes 52 bits away at least. -/
theorem log2_shiftLeft_div_le {m n k : Nat} (few : m < 2 ^ 53) (low : 2 ^ 52 ≤ n) :
    (m <<< k / n).log2 ≤ k := by
  by_cases zero : m <<< k / n = 0
  · simp [zero]
  · rw [← Nat.lt_succ_iff, Nat.log2_lt zero, Nat.shiftLeft_eq,
      Nat.div_lt_iff_lt_mul ((Nat.two_pow_pos 52).trans_le low)]
    calc m * 2 ^ k < 2 ^ 53 * 2 ^ k := Nat.mul_lt_mul_of_pos_right few (Nat.two_pow_pos k)
      _ = 2 ^ (k + 1) * 2 ^ 52 := by ring
      _ ≤ 2 ^ (k + 1) * n := Nat.mul_le_mul_left _ low

/-- A finite double that is divided by two or more stays finite. -/
theorem isFinite_div {x y : Float} {v : ℚ} (finite : x.isFinite = true)
    (normal : IsNormal y.toModel.unpack v) (two : 2 ≤ v) : (x / y).isFinite = true := by
  obtain ⟨n, f, pos', unpacked', ⟨low, high⟩, -, rfl⟩ := normal
  have bound : -51 ≤ f := by
    by_contra below
    have : (n : ℚ) * 2 ^ f < 2 := by
      calc (n : ℚ) * 2 ^ f < 2 ^ 53 * 2 ^ f := by
            gcongr
            exact_mod_cast high
        _ ≤ 2 ^ 53 * 2 ^ (-52 : ℤ) := by
            gcongr
            · norm_num
            · omega
        _ = 2 := by norm_num
    linarith
  change (UnpackedFloat.unpack .binary64 (UnpackedFloat.pack .binary64
    (UnpackedFloat.div .binary64 x.toModel.unpack y.toModel.unpack))).isFinite = true
  rw [unpacked']
  obtain ⟨s, unpacked⟩ | ⟨s, m, e, pos, unpacked, few, small⟩ := unpack_of_isFinite finite
  · rw [unpacked]
    exact isFinite_unpack_pack_zero _
  · rw [unpacked]
    have log : m.log2 ≤ 52 := Nat.le_of_lt_succ ((Nat.log2_lt pos.ne').mpr few)
    have log' : n.log2 = 52 := (Nat.log2_eq_iff pos'.ne').mpr ⟨low, high⟩
    have target : Format.binary64.targetExponent (totalExponent m e - totalExponent n f) ≤ 970 := by
      simp only [Format.targetExponent, totalExponent, Format.mantissaBits, Format.minExponent]
      norm_num
      omega
    have quotient := log2_shiftLeft_div_le (k := (e - f - min (e - f)
      (Format.binary64.targetExponent (totalExponent m e - totalExponent n f))).toNat) few low
    apply isFinite_roundWithAccuracy <;> omega

/-! ## Powers of ten -/

theorem two_le_powerOfTen {n : Nat} (pos : 0 < n) :
    (2 : ℚ) ≤ dropped (10 ^ n * 2 ^ 53) ((10 ^ n).log2 + 1) * 2 ^ ((10 ^ n).log2 - 52 : ℤ) := by
  have power : 0 < 10 ^ n := Nat.pow_pos (by decide)
  have large : 1 ≤ (10 ^ n).log2 := by
    rw [Nat.le_log2 power.ne']
    calc 2 ^ 1 ≤ 10 ^ 1 := by decide
      _ ≤ 10 ^ n := Nat.pow_le_pow_right (by decide) pos
  have full : 2 ^ 52 ≤ dropped (10 ^ n * 2 ^ 53) ((10 ^ n).log2 + 1) := by
    refine le_trans ?_ (le_dropped _ _)
    rw [Nat.le_div_iff_mul_le (Nat.two_pow_pos _)]
    calc 2 ^ 52 * 2 ^ ((10 ^ n).log2 + 1) = 2 ^ (10 ^ n).log2 * 2 ^ 53 := by
          rw [← pow_add, ← pow_add]
          congr 1
          omega
      _ ≤ 10 ^ n * 2 ^ 53 := Nat.mul_le_mul_right _ (Nat.log2_self_le power.ne')
  generalize dropped (10 ^ n * 2 ^ 53) ((10 ^ n).log2 + 1) = d at full
  generalize (10 ^ n).log2 = l at large
  calc (2 : ℚ) = 2 ^ 52 * 2 ^ (-51 : ℤ) := by norm_num
    _ ≤ d * 2 ^ (l - 52 : ℤ) := by
        gcongr
        · exact_mod_cast full
        · norm_num
        · omega

theorem isFinite_div_powerOfTen {x : Float} {n : Nat} (finite : x.isFinite = true) (pos : 0 < n)
    (small : n ≤ 308) : (x / Json.powerOfTen n).isFinite = true :=
  isFinite_div finite (isNormal_powerOfTen small) (two_le_powerOfTen pos)

/-! ## Other operations -/

theorem isFinite_toFloat (n : Nat) : n.toUInt64.toFloat.isFinite = true := by
  have same : n.toUInt64 = (n % 2 ^ 64).toUInt64 := by
    apply UInt64.toNat_inj.mp
    simp
  rw [same]
  rcases Nat.eq_zero_or_pos (n % 2 ^ 64) with zero | pos
  · rw [zero]
    rfl
  · obtain ⟨m, e, pos, unpacked, -⟩ := isNormal_toFloat pos (Nat.mod_lt n (by decide))
    change (n % 2 ^ 64).toUInt64.toFloat.toModel.unpack.isFinite = true
    rw [unpacked]
    rfl

theorem isFinite_neg {x : Float} (finite : x.isFinite = true) : (-x).isFinite = true := by
  change (UnpackedFloat.unpack .binary64 (UnpackedFloat.pack .binary64
    x.toModel.unpack.neg)).isFinite = true
  obtain ⟨s, unpacked⟩ | ⟨s, m, e, pos, unpacked, -, small⟩ := unpack_of_isFinite finite
  · rw [unpacked]
    exact isFinite_unpack_pack_zero _
  · rw [unpacked]
    exact isFinite_unpack_pack _ _ small

/-- A number that is too large is packed as an infinity. -/
theorem isNaN_unpack_pack (s : Sign) {m : Nat} (e : Int) (pos : 0 < m) :
    (UnpackedFloat.unpack .binary64 (UnpackedFloat.pack .binary64 (.finite s m e pos))).isNaN =
      false := by
  rcases le_or_gt e 971 with small | large
  · have finite := isFinite_unpack_pack s pos small
    revert finite
    cases UnpackedFloat.unpack .binary64 (UnpackedFloat.pack .binary64 (.finite s m e pos)) <;>
      simp [UnpackedFloat.isFinite, UnpackedFloat.isNaN]
  · have infinite : UnpackedFloat.pack .binary64 (.finite s m e pos) =
        packedInfinity .binary64 s := by
      change (if 2 ^ 11 ≤ (e + (1023 : Nat) + (52 : Nat)).toNat + 1 then _ else _) = _
      rw [if_pos (by omega)]
    rw [infinite]
    cases s <;> rfl

/-- A product of finite doubles is finite or infinite. -/
theorem isNaN_mul {x y : Float} (hx : x.isFinite = true) (hy : y.isFinite = true) :
    (x * y).isNaN = false := by
  have zero : ∀ s, (UnpackedFloat.unpack .binary64
      (UnpackedFloat.pack .binary64 (.zero s))).isNaN = false := by
    intro s
    cases s <;> rfl
  change (UnpackedFloat.unpack .binary64 (UnpackedFloat.pack .binary64
    (UnpackedFloat.mul .binary64 x.toModel.unpack y.toModel.unpack))).isNaN = false
  obtain ⟨s, hx⟩ | ⟨s, m, e, pos, hx, -⟩ := unpack_of_isFinite hx <;>
    obtain ⟨t, hy⟩ | ⟨t, n, f, pos', hy, -⟩ := unpack_of_isFinite hy <;> rw [hx, hy]
  · exact zero _
  · exact zero _
  · exact zero _
  · rw [UnpackedFloat.mul, roundWithAccuracy]
    simp only
    split
    · exact zero _
    · exact isNaN_unpack_pack _ _ _

end HeaderBidding.Rounding

namespace HeaderBidding

open Rounding

/-! ## Numbers in documents -/

namespace Json

theorem isFinite_scaleDown {x : Float} {n : Nat} (finite : x.isFinite = true) (pos : 0 < n) :
    (scaleDown x n).isFinite = true := by
  fun_induction scaleDown x n with
  | case1 x n small => exact isFinite_div_powerOfTen finite pos small
  | case2 => exact finite
  | case3 x n large _ ih =>
      exact ih (isFinite_div_powerOfTen finite (by decide) le_rfl) (by omega)

theorem isFinite_of_scaled? {significand : Nat} {exponent : Int} {x : Float}
    (some : scaled? significand exponent = some x) : x.isFinite = true := by
  have finite := isFinite_toFloat significand
  simp only [scaled?] at some
  split_ifs at some with negative small infinite zero
  · obtain rfl := Option.some.inj some
    exact isFinite_scaleDown finite (by omega)
  · obtain rfl := Option.some.inj some
    have power : (powerOfTen exponent.natAbs).isFinite = true := by
      obtain ⟨m, e, pos, unpacked, -⟩ := isNormal_powerOfTen small
      change (powerOfTen exponent.natAbs).toModel.unpack.isFinite = true
      rw [unpacked]
      rfl
    exact isFinite_iff.mpr ⟨isNaN_mul finite power, Bool.eq_false_iff.mpr infinite⟩
  · obtain rfl := Option.some.inj some
    exact finite

/-- The number is whole or a finite double. -/
def Number.IsFinite : Number → Prop
  | whole _ => True
  | real x => x.isFinite = true

theorem isFinite_signed (negative : Bool) {x : Float} (finite : x.isFinite = true) :
    (signed negative x).isFinite = true := by
  cases negative
  · exact finite
  · exact isFinite_neg finite

variable {negative : Bool} {significand dropped : Nat} {exponent : Int} {s r : List Char}
  {n : Number}

theorem isFinite_wholeOf : (wholeOf negative significand).IsFinite := by
  have finite := isFinite_signed negative (isFinite_toFloat significand)
  rw [wholeOf]
  split
  · exact finite
  · split
    · trivial
    · exact finite

theorem isFinite_of_realOf (read : realOf negative significand exponent s = .ok (n, r)) :
    n.IsFinite := by
  rw [realOf] at read
  split at read
  · rename_i scaled
    obtain ⟨rfl, -⟩ := Prod.mk.inj (Except.ok.inj read)
    exact isFinite_signed negative (isFinite_of_scaled? scaled)
  · contradiction

theorem isFinite_of_readExponent
    (read : readExponent negative significand exponent s = .ok (n, r)) : n.IsFinite := by
  simp only [readExponent] at read
  split at read
  · contradiction
  · split_ifs at read
    · obtain ⟨rfl, -⟩ := Prod.mk.inj (Except.ok.inj read)
      exact isFinite_signed negative (x := 0) rfl
    · exact isFinite_of_realOf read
    · exact isFinite_of_realOf read

theorem isFinite_of_readScale (read : readScale negative significand exponent s = .ok (n, r)) :
    n.IsFinite := by
  rw [readScale.eq_def] at read
  split at read
  · exact isFinite_of_readExponent read
  · exact isFinite_of_readExponent read
  · exact isFinite_of_realOf read

theorem isFinite_of_readFraction
    (read : readFraction negative significand exponent s = .ok (n, r)) : n.IsFinite := by
  rw [readFraction] at read
  split_ifs at read
  exact isFinite_of_readScale read

theorem isFinite_of_readTail (read : readTail negative significand dropped s = .ok (n, r)) :
    n.IsFinite := by
  rw [readTail.eq_def] at read
  split at read
  · exact isFinite_of_readFraction read
  · exact isFinite_of_readExponent read
  · exact isFinite_of_readExponent read
  · split at read
    · obtain ⟨rfl, -⟩ := Prod.mk.inj (Except.ok.inj read)
      exact isFinite_wholeOf
    · exact isFinite_of_realOf read

theorem isFinite_of_readUnsigned (read : readUnsigned negative s = .ok (n, r)) : n.IsFinite := by
  rw [readUnsigned.eq_def] at read
  split at read
  · contradiction
  · split at read
    · contradiction
    · exact isFinite_of_readTail read
  · split at read
    · exact isFinite_of_readTail read
    · contradiction

/-- No number that is read is infinite. -/
theorem isFinite_of_readNumber (read : readNumber s = .ok (n, r)) : n.IsFinite := by
  rw [readNumber.eq_def] at read
  split at read
  · exact isFinite_of_readUnsigned read
  · exact isFinite_of_readUnsigned read

end Json

/-- Every double that is read is finite. -/
theorem Reader.real_gives_isFinite : Reader.real.Gives (·.isFinite = true) := by
  intro s r x read
  simp only [real, map, number] at read
  split at read
  · contradiction
  · rename_i n rest taken
    obtain ⟨rfl, -⟩ := Prod.mk.inj (Except.ok.inj read)
    split_ifs at taken
    have finite := Json.isFinite_of_readNumber taken
    cases n with
    | real x => exact finite
    | whole n =>
        have natural := isFinite_toFloat n.val.natAbs
        change n.toFloat.isFinite = true
        rw [Whole.toFloat]
        split
        · exact isFinite_neg natural
        · exact natural

/-- Whatever text a stable value was read from, it is read again from its own text. -/
theorem Codec.decode_encode_of_decode {α : Type} {codec : Codec α} {text : String} {a : α}
    (lawful : codec.Lawful) (high : codec.height ≤ depthLimit)
    (decoded : codec.decode text = .ok a) (stable : codec.Stable a) :
    codec.decode (codec.encode a) = .ok a := by
  have fits := Codec.fits_of_decode Reader.real_gives_isFinite lawful decoded
  rw [Codec.decode_encode lawful high fits, codec.reread_of_stable a stable]

end HeaderBidding
