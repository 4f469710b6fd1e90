import HeaderBidding.Json.Print
import HeaderBidding.Proofs.Decimals
import HeaderBidding.Proofs.Digits

/-!
# Numbers are read as they are written

A whole number is read back as it was written.  A finite double is read as the significand and the
exponent that its digits show, which always gives a double again, if not always the same one.
-/

namespace HeaderBidding.Json

open Decimal

/-- A text with which no number goes on. -/
def EndsNumber (rest : List Char) : Prop :=
  ∀ c, rest.head? = some c → c.isDigit = false ∧ c ≠ '.' ∧ c ≠ 'e' ∧ c ≠ 'E'

variable {s rest : List Char} {negative : Bool} {n : Nat} {exponent : Int}

theorem EndsNumber.startsWithDigit (ends : EndsNumber rest) : startsWithDigit rest = false := by
  cases rest with
  | nil => rfl
  | cons c rest => exact (ends c rfl).1

/-! ## Parts of numbers -/

/-- Digits that do not begin with zero are read as the number that they denote. -/
theorem readUnsigned_digits {c : Char} (nonzero : c ≠ '0')
    (digits : ∀ d ∈ c :: s, d.isDigit = true) (small : valueFrom 0 (c :: s) < significandLimit)
    (ends : startsWithDigit rest = false) :
    readUnsigned negative (c :: s ++ rest) = readTail negative (valueFrom 0 (c :: s)) 0 rest := by
  have digit : c.isDigit = true := digits c List.mem_cons_self
  have read := readDigits_append digits small ends
  rw [List.cons_append] at read ⊢
  rw [readUnsigned]
  · simp only [digit, ↓reduceIte, read, dropDigits_of_ends ends, Nat.sub_self]
  · exact fun zero => absurd zero nonzero

theorem readUnsigned_zero (ends : startsWithDigit rest = false) :
    readUnsigned negative ('0' :: rest) = readTail negative 0 0 rest := by
  change (if startsWithDigit rest then _ else readTail negative 0 0 rest) = _
  rw [if_neg (by simp [ends])]

/-- The digits of a whole part are read as the number that they denote. -/
theorem readUnsigned_natural (small : n < significandLimit)
    (ends : startsWithDigit rest = false) :
    readUnsigned negative (natural n ++ rest) = readTail negative n 0 rest := by
  rcases n.eq_zero_or_pos with rfl | pos
  · rw [natural, if_pos (by decide)]
    exact readUnsigned_zero ends
  · have value := valueFrom_natural n
    have digits := isDigit_of_mem_natural n
    obtain ⟨c, s, written, nonzero⟩ := natural_eq_cons pos
    rw [written] at value digits ⊢
    rw [readUnsigned_digits nonzero digits (by rwa [value]) ends, value]

theorem readScale_of_ends (ends : EndsNumber rest) :
    readScale negative n exponent rest = realOf negative n exponent rest := by
  cases rest with
  | nil => rfl
  | cons c rest =>
      obtain ⟨-, -, lower, upper⟩ := ends c rfl
      rw [readScale]
      · exact fun _ same => lower (List.cons.inj same).1
      · exact fun _ same => upper (List.cons.inj same).1

theorem readTail_of_ends (ends : EndsNumber rest) :
    readTail negative n 0 rest = .ok (wholeOf negative n, rest) := by
  cases rest with
  | nil => rfl
  | cons c rest =>
      obtain ⟨-, point, lower, upper⟩ := ends c rfl
      rw [readTail]
      · rfl
      · exact fun _ same => point (List.cons.inj same).1
      · exact fun _ same => lower (List.cons.inj same).1
      · exact fun _ same => upper (List.cons.inj same).1

/-- The digits behind a point lower the exponent by their number. -/
theorem readFraction_append (digits : ∀ c ∈ s, c.isDigit = true) (nonempty : s ≠ [])
    (small : valueFrom n s < significandLimit) (ends : startsWithDigit rest = false) :
    readFraction negative n exponent (s ++ rest) =
      readScale negative (valueFrom n s) (exponent - s.length) rest := by
  rw [readFraction, if_pos (startsWithDigit_append digits nonempty rest),
    readDigits_append digits small ends]
  simp only [dropDigits_of_ends ends, List.length_append]
  congr 2
  omega

theorem readExponent_of_sign {minus : Bool} {k : Nat}
    (sign : exponentSign s = (minus, natural k ++ rest)) (small : k < exponentLimit)
    (ends : startsWithDigit rest = false) :
    readExponent negative n exponent s =
      realOf negative n (if minus then exponent - k else exponent + k) rest := by
  have read : readDigits exponentLimit 0 (natural k ++ rest) = (k, rest) := by
    have all := readDigits_append (isDigit_of_mem_natural k) (by rwa [valueFrom_natural]) ends
    rwa [valueFrom_natural] at all
  obtain ⟨c, digits, written⟩ := List.exists_cons_of_ne_nil (natural_ne_nil k)
  have digit : c.isDigit = true := isDigit_of_mem_natural k c (by simp [written])
  rw [written, List.cons_append] at sign read
  simp only [readExponent, sign, digit, ↓reduceIte, read, ends, Bool.false_eq_true]

/-- An exponent is read with its sign. -/
theorem readExponent_integer {scale : Int} (small : scale.natAbs < exponentLimit)
    (ends : startsWithDigit rest = false) :
    readExponent negative n exponent
        ((if scale < 0 then integer scale else '+' :: integer scale) ++ rest) =
      realOf negative n (exponent + scale) rest := by
  by_cases below : scale < 0
  · have sign : exponentSign (integer scale ++ rest) = (true, natural scale.natAbs ++ rest) := by
      rw [integer, if_pos below]
      rfl
    rw [if_pos below, readExponent_of_sign sign small ends, if_pos rfl]
    congr 1
    omega
  · have sign : exponentSign ('+' :: integer scale ++ rest) =
        (false, natural scale.natAbs ++ rest) := by
      rw [integer, if_neg below]
      rfl
    rw [if_neg below, readExponent_of_sign sign small ends, if_neg Bool.false_ne_true]
    congr 1
    omega

/-! ## Whole numbers -/

theorem readNumber_natural (rest : List Char) (n : Nat) :
    readNumber (natural n ++ rest) = readUnsigned false (natural n ++ rest) := by
  obtain ⟨c, digits, written⟩ := List.exists_cons_of_ne_nil (natural_ne_nil n)
  have digit : c.isDigit = true := isDigit_of_mem_natural n c (by simp [written])
  rw [written, List.cons_append, readNumber]
  intro _ same
  obtain rfl := (List.cons.inj same).1
  exact absurd digit (by decide)

/-- A whole number is read back as it is written. -/
theorem readNumber_integer (n : Whole) (ends : EndsNumber rest) :
    readNumber (integer n.val ++ rest) = .ok (.whole n, rest) := by
  have lower := n.lower
  have upper := n.upper
  rw [integer]
  by_cases negative : n.val < 0
  · have nonzero : ¬(true = true ∧ n.val.natAbs = 0) := by omega
    have value : -(n.val.natAbs : Int) = n.val := by omega
    rw [if_pos negative]
    change readUnsigned true (natural n.val.natAbs ++ rest) = _
    rw [readUnsigned_natural (by unfold significandLimit; omega) ends.startsWithDigit,
      readTail_of_ends ends, wholeOf, if_neg nonzero, if_pos rfl, value, Whole.ofInt?_val]
  · have value : (n.val.natAbs : Int) = n.val := by omega
    rw [if_neg negative, readNumber_natural,
      readUnsigned_natural (by unfold significandLimit; omega) ends.startsWithDigit,
      readTail_of_ends ends, wholeOf, if_neg (by simp), if_neg Bool.false_ne_true, value,
      Whole.ofInt?_val]

/-! ## Decimals -/

/-- The significand and the exponent that are read of the text of a decimal. -/
def shown (digits : Nat) (power : Int) : Nat × Int :=
  if 0 ≤ power ∧ power + (natural digits).length - 1 ≤ 15 then
    (10 * (digits * 10 ^ power.toNat), -1)
  else (digits, power)

theorem point_ends (s : List Char) : startsWithDigit ('.' :: s) = false :=
  rfl

/-- A decimal without a fraction is written out with zeros and a point. -/
theorem readUnsigned_positional_of_nonneg {digits power : Nat} (pos : 0 < digits)
    (small : digits * 10 ^ power < 10 ^ 16) (ends : EndsNumber rest) :
    readUnsigned negative (positional (natural digits) power ++ rest) =
      realOf negative (10 * (digits * 10 ^ power)) (-1) rest := by
  obtain ⟨c, s, written, nonzero⟩ := natural_eq_cons pos
  have value : valueFrom 0 (c :: (s ++ List.replicate power '0')) = digits * 10 ^ power := by
    rw [← List.cons_append, ← written, valueFrom_append, valueFrom_natural, valueFrom_zeros]
  have run : ∀ d ∈ c :: (s ++ List.replicate power '0'), d.isDigit = true := by
    rw [← List.cons_append, ← written]
    intro d mem
    rcases List.mem_append.mp mem with mem | mem
    · exact isDigit_of_mem_natural digits d mem
    · rw [List.eq_of_mem_replicate mem]
      rfl
  have limit : 10 * (digits * 10 ^ power) < significandLimit := by
    unfold significandLimit
    omega
  have layout : positional (natural digits) power ++ rest =
      c :: (s ++ List.replicate power '0') ++ '.' :: (['0'] ++ rest) := by
    simp [positional, written]
  rw [layout, readUnsigned_digits nonzero run (by rw [value]; omega) (point_ends _), value]
  change readFraction negative _ 0 (['0'] ++ rest) = _
  rw [readFraction_append (by simp) (by simp) _ ends.startsWithDigit, readScale_of_ends ends]
  · rfl
  · exact limit

/-- A point inside the digits of a number lowers its exponent. -/
theorem readUnsigned_point {digits : Nat} {whole part : List Char} (pos : 0 < digits)
    (small : digits < significandLimit) (split : natural digits = whole ++ part)
    (start : whole ≠ []) (fraction : part ≠ []) (ends : startsWithDigit rest = false) :
    readUnsigned negative (whole ++ '.' :: (part ++ rest)) =
      readScale negative digits (-part.length) rest := by
  have value : valueFrom (valueFrom 0 whole) part = digits := by
    rw [← valueFrom_append, ← split, valueFrom_natural]
  have run : ∀ d ∈ whole ++ part, d.isDigit = true := by
    rw [← split]
    exact isDigit_of_mem_natural digits
  obtain ⟨c, s, written, nonzero⟩ := natural_eq_cons pos
  obtain ⟨d, t, rfl⟩ := List.exists_cons_of_ne_nil start
  obtain rfl : c = d := by
    rw [written, List.cons_append] at split
    exact (List.cons.inj split).1
  have below : valueFrom 0 (c :: t) < significandLimit := by
    apply lt_of_le_of_lt _ small
    rw [← value]
    exact le_valueFrom _ part
  rw [readUnsigned_digits nonzero (fun d mem => run d (List.mem_append_left _ mem)) below
    (point_ends _)]
  change readFraction negative _ 0 (part ++ rest) = _
  rw [readFraction_append (fun d mem => run d (List.mem_append_right _ mem)) fraction
    (by rwa [value]) ends, value, zero_sub]

/-- A decimal with a fraction is written out with the point inside its digits, or in front of
them. -/
theorem readUnsigned_positional_of_neg {digits : Nat} {power : Int} (pos : 0 < digits)
    (small : digits < significandLimit) (negativePower : power < 0) (ends : EndsNumber rest) :
    readUnsigned negative (positional (natural digits) power ++ rest) =
      realOf negative digits power rest := by
  obtain ⟨places, rfl⟩ : ∃ places : Nat, power = -places := ⟨power.natAbs, by omega⟩
  rw [positional, if_neg (by omega)]
  simp only [Int.natAbs_neg, Int.natAbs_natCast]
  split
  · rename_i inside
    have length : ((natural digits).drop ((natural digits).length - places)).length = places := by
      rw [List.length_drop]
      omega
    have start : (natural digits).take ((natural digits).length - places) ≠ [] := by
      rw [ne_eq, List.take_eq_nil_iff, not_or]
      exact ⟨by omega, natural_ne_nil digits⟩
    have fraction : (natural digits).drop ((natural digits).length - places) ≠ [] := by
      rw [ne_eq, ← List.length_eq_zero_iff]
      omega
    rw [List.append_assoc, List.cons_append, readUnsigned_point pos small
      (List.take_append_drop _ _).symm start fraction ends.startsWithDigit, length,
      readScale_of_ends ends]
  · rename_i outside
    have value : valueFrom 0 (List.replicate (places - (natural digits).length) '0' ++
        natural digits) = digits := by
      rw [valueFrom_append, valueFrom_zeros, zero_mul, valueFrom_natural]
    have run : ∀ d ∈ List.replicate (places - (natural digits).length) '0' ++ natural digits,
        d.isDigit = true := by
      intro d mem
      rcases List.mem_append.mp mem with mem | mem
      · rw [List.eq_of_mem_replicate mem]
        rfl
      · exact isDigit_of_mem_natural digits d mem
    have length : (List.replicate (places - (natural digits).length) '0' ++
        natural digits).length = places := by
      rw [List.length_append, List.length_replicate]
      omega
    simp only [List.cons_append]
    rw [readUnsigned_zero (point_ends _)]
    change readFraction negative 0 0 (_ ++ rest) = _
    rw [readFraction_append run (by simp [natural_ne_nil]) (by rwa [value])
      ends.startsWithDigit, value, length, zero_sub, readScale_of_ends ends]

/-- A decimal with an exponent has one digit in front of the point. -/
theorem readUnsigned_scientific {digits : Nat} {power : Int} (pos : 0 < digits)
    (small : digits < significandLimit)
    (range : (power + (natural digits).length - 1).natAbs < exponentLimit)
    (ends : EndsNumber rest) :
    readUnsigned negative
        (scientific .document (natural digits) (power + (natural digits).length - 1) ++ rest) =
      realOf negative digits power rest := by
  have exponent : ∀ start : Int, readExponent negative digits start
      ((if power + (natural digits).length - 1 < 0
          then integer (power + (natural digits).length - 1)
          else '+' :: integer (power + (natural digits).length - 1)) ++ rest) =
        realOf negative digits (start + (power + (natural digits).length - 1)) rest :=
    fun start => readExponent_integer range ends.startsWithDigit
  have value := valueFrom_natural digits
  have run := isDigit_of_mem_natural digits
  obtain ⟨c, s, written, nonzero⟩ := natural_eq_cons pos
  cases s with
  | nil =>
      rw [written] at value run exponent ⊢
      change readUnsigned negative (c :: [] ++ 'e' :: (_ ++ rest)) = _
      rw [readUnsigned_digits nonzero run (by rwa [value]) rfl, value]
      apply (exponent 0).trans
      simp
  | cons d t =>
      have split : natural digits = [c] ++ d :: t := written
      have layout : ∀ order : Int, scientific .document (c :: d :: t) order ++ rest =
          [c] ++ '.' :: (d :: t ++
            'e' :: ((if order < 0 then integer order else '+' :: integer order) ++ rest)) := by
        intro order
        simp [scientific, RealStyle.document]
      rw [written] at exponent ⊢
      rw [layout, readUnsigned_point pos small split (by simp) (by simp) rfl]
      apply (exponent _).trans
      congr 1
      simp only [List.length_cons]
      omega

/-- The text of a positive decimal is read as the significand and the exponent that it shows. -/
theorem readUnsigned_magnitude {digits : Nat} {power : Int} (pos : 0 < digits)
    (small : digits < significandLimit)
    (range : (power + (natural digits).length - 1).natAbs < exponentLimit)
    (ends : EndsNumber rest) :
    readUnsigned negative (magnitude .document digits power ++ rest) =
      realOf negative (shown digits power).1 (shown digits power).2 rest := by
  have nonempty : 0 < (natural digits).length := List.length_pos_iff.mpr (natural_ne_nil digits)
  rw [magnitude, shown]
  by_cases order : -5 ≤ power + (natural digits).length - 1 ∧
      power + (natural digits).length - 1 ≤ 15
  · rw [if_pos order]
    by_cases whole : 0 ≤ power
    · obtain ⟨p, rfl⟩ := Int.eq_ofNat_of_zero_le whole
      rw [if_pos ⟨whole, order.2⟩]
      refine readUnsigned_positional_of_nonneg pos ?_ ends
      calc digits * 10 ^ p
          < 10 ^ (natural digits).length * 10 ^ p :=
            Nat.mul_lt_mul_of_pos_right (lt_pow_length_natural digits) (Nat.pow_pos (by decide))
        _ = 10 ^ ((natural digits).length + p) := (pow_add _ _ _).symm
        _ ≤ 10 ^ 16 := Nat.pow_le_pow_right (by decide) (by omega)
    · rw [if_neg fun both => whole both.1]
      exact readUnsigned_positional_of_neg pos small (by omega) ends
  · rw [if_neg order, if_neg (by omega)]
    exact readUnsigned_scientific pos small range ends

/-! ## Doubles -/

theorem readNumber_of_readUnsigned {r : Number × List Char}
    (read : readUnsigned false s = .ok r) : readNumber s = .ok r := by
  rw [readNumber]
  · exact read
  · rintro t rfl
    cases read

/-- The exponent of a finite double is not the largest one. -/
theorem magnitudeBits_lt {x : Float} (finite : x.isFinite = true) :
    magnitudeBits x < 2047 * 2 ^ 52 := by
  by_contra large
  have exponent : @Float.Model.UnpackedFloat.unpackExponent .binary64
      x.toModel.toBits.toBitVec = -1#11 := by
    apply BitVec.eq_of_toNat_eq
    simp only [Float.Model.UnpackedFloat.unpackExponent, BitVec.toNat_cast,
      BitVec.extractLsb_toNat, Nat.shiftRight_eq_div_pow]
    change x.toBits.toNat / 2 ^ 52 % 2 ^ 11 = 2047
    unfold magnitudeBits at large
    omega
  change (Float.Model.UnpackedFloat.unpack .binary64 x.toModel.toBits.toBitVec).isFinite = true
    at finite
  rw [Float.Model.UnpackedFloat.unpack] at finite
  simp only [exponent, ↓reduceIte] at finite
  split at finite
  · simp [Float.Model.UnpackedFloat.isFinite] at finite
  · simp [Float.Model.UnpackedFloat.isFinite] at finite

/-- The parts of a finite double that is not zero are in their range. -/
theorem inRange_parts {x : Float} (finite : x.isFinite = true) (nonzero : (parts x).1 ≠ 0) :
    InRange (parts x).1 (parts x).2 := by
  have bits := magnitudeBits_lt finite
  unfold parts at nonzero ⊢
  simp only at nonzero ⊢
  split
  · rename_i small
    rw [if_pos small] at nonzero
    exact ⟨Nat.pos_of_ne_zero nonzero, by omega, Nat.zero_le _⟩
  · exact ⟨by omega, by omega, by omega⟩

/-- The double that the text of a double is read as. -/
def rereadReal (x : Float) : Float :=
  match readNumber (Decimal.real .document x) with
  | .ok (.real y, _) => y
  | _ => x

theorem realOf_eq {significand : Nat} (some : (scaled? significand exponent).isSome = true) :
    ∃ y, ∀ rest, realOf negative significand exponent rest = .ok (.real y, rest) := by
  obtain ⟨y, scaled⟩ := Option.isSome_iff_exists.mp some
  refine ⟨signed negative y, fun rest => ?_⟩
  rw [realOf, scaled]

/-- The digits of a finite double are read as a double. -/
theorem exists_readUnsigned_magnitude {x : Float} (finite : x.isFinite = true)
    (nonzero : (parts x).1 ≠ 0) (negative : Bool) :
    ∃ y, ∀ rest, EndsNumber rest →
      readUnsigned negative (magnitude .document (shortest (parts x).1 (parts x).2).1
        (shortest (parts x).1 (parts x).2).2 ++ rest) = .ok (.real y, rest) := by
  have range := inRange_parts finite nonzero
  obtain ⟨pos, few, low, high⟩ := shortest_range range
  have some := scaled?_shortest range
  generalize (shortest (parts x).1 (parts x).2).1 = digits at *
  generalize (shortest (parts x).1 (parts x).2).2 = power at *
  have small : digits < significandLimit := by
    unfold significandLimit
    omega
  have length : (natural digits).length ≤ 20 :=
    length_natural_le (by decide) (by omega)
  have scale : (power + (natural digits).length - 1).natAbs < exponentLimit := by
    unfold exponentLimit
    omega
  have shownSome : (scaled? (shown digits power).1 (shown digits power).2).isSome = true := by
    unfold shown
    split
    · rfl
    · exact some
  obtain ⟨y, read⟩ := realOf_eq shownSome
  refine ⟨y, fun rest ends => ?_⟩
  rw [readUnsigned_magnitude pos small scale ends, read]

theorem exists_readUnsigned_zero (negative : Bool) :
    ∃ y, ∀ rest, EndsNumber rest →
      readUnsigned negative ("0.0".toList ++ rest) = .ok (.real y, rest) := by
  have some : (scaled? 0 (-1)).isSome = true := rfl
  obtain ⟨y, read⟩ := realOf_eq some
  refine ⟨y, fun rest ends => ?_⟩
  change readUnsigned negative ('0' :: '.' :: (['0'] ++ rest)) = _
  rw [readUnsigned_zero (point_ends _)]
  change readFraction negative 0 0 (['0'] ++ rest) = _
  rw [readFraction_append (by simp) (by simp) (by decide) ends.startsWithDigit,
    readScale_of_ends ends]
  exact read rest

theorem exists_readNumber_real {x : Float} (finite : x.isFinite = true) :
    ∃ y, ∀ rest, EndsNumber rest →
      readNumber (Decimal.real .document x ++ rest) = .ok (.real y, rest) := by
  obtain ⟨notNaN, notInf⟩ := Rounding.isFinite_iff.mp finite
  -- What stands behind the sign is read as a double, whatever the sign is.
  have unsigned : ∃ text, Decimal.real .document x =
        (if isNegative x then ['-'] else []) ++ text ∧
      ∀ negative, ∃ y, ∀ rest, EndsNumber rest →
        readUnsigned negative (text ++ rest) = .ok (.real y, rest) := by
    rw [Decimal.real, if_neg (ne_true_of_eq_false notNaN),
      if_neg (ne_true_of_eq_false notInf)]
    by_cases zero : (parts x).1 = 0
    · refine ⟨"0.0".toList, ?_, exists_readUnsigned_zero⟩
      simp only [zero, ↓reduceIte]
    · refine ⟨magnitude .document (shortest (parts x).1 (parts x).2).1
        (shortest (parts x).1 (parts x).2).2, ?_, exists_readUnsigned_magnitude finite zero⟩
      simp only [zero, ↓reduceIte]
  obtain ⟨text, written, read⟩ := unsigned
  rw [written]
  cases isNegative x with
  | true => exact read true
  | false =>
      obtain ⟨y, read⟩ := read false
      exact ⟨y, fun rest ends => readNumber_of_readUnsigned (read rest ends)⟩

/-- A finite double is read as a double, in front of any text with which it does not go on. -/
theorem readNumber_real {x : Float} (finite : x.isFinite = true) (ends : EndsNumber rest) :
    readNumber (Decimal.real .document x ++ rest) = .ok (.real (rereadReal x), rest) := by
  obtain ⟨y, read⟩ := exists_readNumber_real finite
  have alone := read [] (by simp [EndsNumber])
  rw [List.append_nil] at alone
  rw [read rest ends, rereadReal, alone]

end HeaderBidding.Json
