import HeaderBidding.Proofs.Doubles

/-!
# Doubles without a minus

Sums, products and quotients of doubles without a minus have none either, whatever is lost in
rounding.  So such a double that is below another is finite.
-/

namespace HeaderBidding.Rounding

open Float.Model Float.Model.UnpackedFloat

/-- A number without a minus, or no number at all. -/
def Unsigned : UnpackedFloat → Prop
  | .notANumber => True
  | .infinity s => s = .positive
  | .zero s => s = .positive
  | .finite s _ _ _ => s = .positive

/-! ## Rounding and packing -/

theorem unsigned_roundWithAccuracy (m : Nat) (e : Int) (accuracy : Accuracy) :
    Unsigned (roundWithAccuracy .binary64 .positive m e accuracy) := by
  rw [roundWithAccuracy]
  simp only
  split <;> rfl

theorem unsigned_normalize {n : Int} (natural : 0 ≤ n) (e : Int) :
    Unsigned (normalize .binary64 n e .positive) := by
  rw [UnpackedFloat.normalize]
  split
  · rename_i less
    have := compare_lt_iff_lt.mp less
    omega
  · rfl
  · exact unsigned_roundWithAccuracy _ _ _

theorem unsigned_unpack {bits : BitVec 64}
    (positive : Sign.ofBitVec (@unpackSign .binary64 bits) = .positive) :
    Unsigned (UnpackedFloat.unpack .binary64 bits) := by
  rw [UnpackedFloat.unpack]
  simp only
  split
  · split
    · exact positive
    · trivial
  · split
    · split
      · exact positive
      · exact positive
    · exact positive

theorem unsigned_unpack_pack {x : UnpackedFloat} (unsigned : Unsigned x) :
    Unsigned (UnpackedFloat.unpack .binary64 (UnpackedFloat.pack .binary64 x)) := by
  apply unsigned_unpack
  cases x with
  | notANumber => exact ofBitVec_unpackSign _ _ _
  | infinity s =>
      obtain rfl : s = .positive := unsigned
      exact ofBitVec_unpackSign _ _ _
  | zero s =>
      obtain rfl : s = .positive := unsigned
      exact ofBitVec_unpackSign _ _ _
  | finite s m e pos =>
      obtain rfl : s = .positive := unsigned
      rw [UnpackedFloat.pack]
      simp only
      split
      · exact ofBitVec_unpackSign _ _ _
      · split
        · exact ofBitVec_unpackSign _ _ _
        · exact ofBitVec_unpackSign _ _ _

/-! ## Operations -/

theorem unsigned_add {x y : UnpackedFloat} (hx : Unsigned x) (hy : Unsigned y) :
    Unsigned (UnpackedFloat.add .binary64 x y) := by
  have sum : ∀ m n : Nat, (0 : Int) ≤ m + n := fun m n => by omega
  cases x <;> cases y <;> simp only [Unsigned] at hx hy <;> subst_vars <;>
    first | trivial | rfl | exact unsigned_normalize (sum _ _) _

theorem unsigned_mul {x y : UnpackedFloat} (hx : Unsigned x) (hy : Unsigned y) :
    Unsigned (UnpackedFloat.mul .binary64 x y) := by
  cases x <;> cases y <;> simp only [Unsigned] at hx hy <;> subst_vars <;>
    first | trivial | rfl | exact unsigned_roundWithAccuracy _ _ _

theorem unsigned_div {x y : UnpackedFloat} (hx : Unsigned x) (hy : Unsigned y) :
    Unsigned (UnpackedFloat.div .binary64 x y) := by
  cases x <;> cases y <;> simp only [Unsigned] at hx hy <;> subst_vars <;>
    first | trivial | rfl | exact unsigned_roundWithAccuracy _ _ _

/-! ## Doubles -/

theorem unsigned_toFloat (n : UInt64) : Unsigned n.toFloat.toModel.unpack :=
  unsigned_unpack_pack (unsigned_normalize (Int.natCast_nonneg _) _)

theorem unsigned_float_add {x y : Float} (hx : Unsigned x.toModel.unpack)
    (hy : Unsigned y.toModel.unpack) : Unsigned (x + y).toModel.unpack :=
  unsigned_unpack_pack (unsigned_add hx hy)

theorem unsigned_float_mul {x y : Float} (hx : Unsigned x.toModel.unpack)
    (hy : Unsigned y.toModel.unpack) : Unsigned (x * y).toModel.unpack :=
  unsigned_unpack_pack (unsigned_mul hx hy)

theorem unsigned_float_div {x y : Float} (hx : Unsigned x.toModel.unpack)
    (hy : Unsigned y.toModel.unpack) : Unsigned (x / y).toModel.unpack :=
  unsigned_unpack_pack (unsigned_div hx hy)

theorem unsigned_ofBits {bits : UInt64} (small : bits.toNat < 2 ^ 63) :
    Unsigned (Float.ofBits bits).toModel.unpack := by
  apply unsigned_unpack_pack
  apply unsigned_unpack
  have sign : @unpackSign .binary64 bits.toBitVec = 0#1 := by
    apply BitVec.eq_of_toNat_eq
    simp only [unpackSign, BitVec.toNat_cast, BitVec.extractLsb_toNat, Nat.shiftRight_eq_div_pow]
    change bits.toNat / 2 ^ 63 % 2 ^ 1 = 0
    omega
  rw [sign]
  rfl

theorem isFinite_of_lt {x y : Float} (unsigned : Unsigned x.toModel.unpack) (less : x < y) :
    x.isFinite = true := by
  change x.toModel.unpack.isFinite = true
  replace less : x.toModel < y.toModel := of_decide_eq_true less
  change (x.toModel.unpack.compare y.toModel.unpack == some .lt) = true at less
  generalize x.toModel.unpack = a at unsigned less ⊢
  generalize y.toModel.unpack = b at less
  cases a with
  | notANumber => cases b <;> contradiction
  | infinity s =>
      obtain rfl : s = .positive := unsigned
      cases b with
      | infinity t => cases t <;> contradiction
      | _ => contradiction
  | zero s => rfl
  | finite s m e pos => rfl

/-- A finite double has 53 bits at most and no larger exponent than the largest ones. -/
theorem unpack_finite_bounds {bits : BitVec 64} {s : Sign} {m : Nat} {e : Int} {pos : 0 < m}
    (unpacked : UnpackedFloat.unpack .binary64 bits = .finite s m e pos) :
    m < 2 ^ 53 ∧ e ≤ 971 := by
  have few : (@unpackMantissa .binary64 bits).toNat < 2 ^ 52 := BitVec.isLt _
  have range : (@unpackExponent .binary64 bits).toNat < 2 ^ 11 := BitVec.isLt _
  rw [UnpackedFloat.unpack] at unpacked
  simp only at unpacked
  split at unpacked
  · split at unpacked <;> contradiction
  · rename_i inner
    have below : (@unpackExponent .binary64 bits).toNat ≠ 2047 :=
      fun top => inner (BitVec.eq_of_toNat_eq top)
    split at unpacked
    · rename_i lowest
      split at unpacked
      · contradiction
      · injection unpacked with _ mantissa exponent
        rw [lowest] at exponent
        change (0 : Int) - ((1023 : Nat) + (52 : Nat)) + 1 = e at exponent
        omega
    · injection unpacked with _ mantissa exponent
      change ((@unpackExponent .binary64 bits).toNat : Int) - ((1023 : Nat) + (52 : Nat)) = e
        at exponent
      change (1#1 ++ @unpackMantissa .binary64 bits).toNat = m at mantissa
      rw [toNat_one_append] at mantissa
      change 2 ^ 52 + (@unpackMantissa .binary64 bits).toNat = m at mantissa
      omega

theorem unpack_of_isFinite {x : Float} (finite : x.isFinite = true) :
    (∃ s, x.toModel.unpack = .zero s) ∨
      ∃ s m e pos, x.toModel.unpack = .finite s m e pos ∧ m < 2 ^ 53 ∧ e ≤ 971 := by
  change x.toModel.unpack.isFinite = true at finite
  cases unpacked : x.toModel.unpack with
  | notANumber => simp [unpacked, UnpackedFloat.isFinite] at finite
  | infinity s => simp [unpacked, UnpackedFloat.isFinite] at finite
  | zero s => exact .inl ⟨s, rfl⟩
  | finite s m e pos => exact .inr ⟨s, m, e, pos, rfl, unpack_finite_bounds unpacked⟩

/-- Half of a finite double is finite. -/
theorem isFinite_half_mul {x : Float} (finite : x.isFinite = true) : (0.5 * x).isFinite = true := by
  have half : (0.5 : Float).toModel.unpack = .finite .positive (2 ^ 52) (-53) (by decide) := by
    rfl
  change (UnpackedFloat.unpack .binary64 (UnpackedFloat.pack .binary64
    (UnpackedFloat.mul .binary64 (0.5 : Float).toModel.unpack x.toModel.unpack))).isFinite = true
  rw [half]
  obtain ⟨s, unpacked⟩ | ⟨s, m, e, pos, unpacked, few, small⟩ := unpack_of_isFinite finite
  · rw [unpacked]
    exact isFinite_unpack_pack_zero _
  · rw [unpacked]
    apply isFinite_round _ (Nat.mul_pos (by decide) pos) (by omega)
    have top : (m : ℚ) * 2 ^ e ≤ 2 ^ 53 * 2 ^ (971 : ℤ) := by
      gcongr
      · exact_mod_cast few.le
      · norm_num
    calc ((2 ^ 52 * m : Nat) : ℚ) * 2 ^ (-53 + e)
        = m * 2 ^ e / 2 := by
          rw [zpow_add₀ (by norm_num)]
          push_cast
          norm_num
          ring
      _ ≤ 2 ^ 53 * 2 ^ (971 : ℤ) / 2 := by gcongr
      _ = 2 ^ 53 * 2 ^ (970 : ℤ) := by
          rw [show (971 : ℤ) = 970 + 1 by norm_num, zpow_add_one₀ (by norm_num)]
          ring
      _ < overflow := by
          rw [cast_overflow]
          gcongr
          norm_num

end HeaderBidding.Rounding
