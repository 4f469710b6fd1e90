import HeaderBidding.Json.Number
import Mathlib

/-!
# Digits in front of other text

The canonical digits of a natural number denote it, and reading takes all of them in front of a
text that does not begin with a digit.
-/

namespace HeaderBidding

namespace Decimal

variable {s t : List Char} {n : Nat}

theorem isDigit_digit (small : n < 10) : (digit n).isDigit = true := by
  interval_cases n <;> rfl

theorem digitValue_digit (small : n < 10) : digitValue (digit n) = n := by
  interval_cases n <;> rfl

theorem isDigit_of_mem_natural (n : Nat) : ∀ c ∈ natural n, c.isDigit = true := by
  fun_induction natural n with
  | case1 n small =>
      intro c mem
      obtain rfl := List.mem_singleton.mp mem
      exact isDigit_digit small
  | case2 n large ih =>
      intro c mem
      rcases List.mem_append.mp mem with mem | mem
      · exact ih c mem
      · obtain rfl := List.mem_singleton.mp mem
        exact isDigit_digit (Nat.mod_lt n (by decide))

theorem valueFrom_append (start : Nat) (s t : List Char) :
    valueFrom start (s ++ t) = valueFrom (valueFrom start s) t :=
  List.foldl_append

theorem valueFrom_natural (n : Nat) : valueFrom 0 (natural n) = n := by
  fun_induction natural n with
  | case1 n small => simp [valueFrom, digitValue_digit small]
  | case2 n large ih =>
      rw [valueFrom_append, ih]
      simp only [valueFrom, List.foldl_cons, List.foldl_nil,
        digitValue_digit (Nat.mod_lt n (by decide : 0 < 10))]
      omega

theorem natural_ne_nil (n : Nat) : natural n ≠ [] := by
  rw [natural]
  split <;> simp

/-- The first digit of a positive number is not zero. -/
theorem natural_eq_cons (pos : 0 < n) : ∃ c s, natural n = c :: s ∧ c ≠ '0' := by
  fun_induction natural n with
  | case1 n small =>
      refine ⟨digit n, [], rfl, ?_⟩
      interval_cases n <;> decide
  | case2 n large ih =>
      obtain ⟨c, s, same, nonzero⟩ := ih (by omega)
      exact ⟨c, s ++ [digit (n % 10)], by rw [same]; rfl, nonzero⟩

theorem length_natural_le {k : Nat} (pos : 0 < k) (small : n < 10 ^ k) :
    (natural n).length ≤ k := by
  induction k generalizing n with
  | zero => contradiction
  | succ k ih =>
      rw [natural]
      split
      · simp
      · rename_i large
        have positive : 0 < k := by
          by_contra none
          obtain rfl : k = 0 := by omega
          omega
        rw [List.length_append, List.length_singleton]
        apply Nat.succ_le_succ
        apply ih positive
        rw [pow_succ] at small
        omega

theorem lt_pow_length_natural (n : Nat) : n < 10 ^ (natural n).length := by
  fun_induction natural n with
  | case1 n small => exact small
  | case2 n large ih =>
      rw [List.length_append, List.length_singleton, pow_succ]
      omega

theorem valueFrom_zeros (n k : Nat) : valueFrom n (List.replicate k '0') = n * 10 ^ k := by
  induction k generalizing n with
  | zero => simp [valueFrom]
  | succ k ih =>
      change valueFrom (10 * n + 0) (List.replicate k '0') = _
      rw [ih, pow_succ]
      ring

theorem le_valueFrom (n : Nat) (s : List Char) : n ≤ valueFrom n s := by
  induction s generalizing n with
  | nil => exact le_rfl
  | cons c s ih =>
      have next := ih (10 * n + digitValue c)
      apply le_trans _ next
      omega

/-! ## Numbers with a sign -/

/-- The text is one digit or more and denotes a number. -/
structure IsDigits (s : List Char) (n : Nat) : Prop where
  nonempty : s ≠ []
  digits : ∀ c ∈ s, c.isDigit = true
  value : valueFrom 0 s = n

/-- The text is digits behind an optional plus sign. -/
def IsUnsigned (s : List Char) (n : Nat) : Prop :=
  IsDigits s n ∨ ∃ digits, s = '+' :: digits ∧ IsDigits digits n

/-- The text is digits behind an optional sign. -/
def IsSigned (s : List Char) (n : Int) : Prop :=
  (∃ k : Nat, IsUnsigned s k ∧ n = k) ∨
    ∃ digits, ∃ k : Nat, s = '-' :: digits ∧ IsDigits digits k ∧ n = -k

theorem naturalOf?_eq_some_iff : naturalOf? s = some n ↔ IsDigits s n := by
  rw [naturalOf?]
  constructor
  · intro read
    split_ifs at read with holds
    exact ⟨holds.1, List.all_eq_true.mp holds.2, Option.some.inj read⟩
  · rintro ⟨nonempty, digits, rfl⟩
    rw [if_pos ⟨nonempty, List.all_eq_true.mpr digits⟩]

theorem not_isDigits_of_sign {c : Char} (sign : c.isDigit = false) (n : Nat) :
    ¬IsDigits (c :: s) n := by
  intro digits
  exact absurd (digits.digits c List.mem_cons_self) (by simp [sign])

theorem natOf?_eq_some_iff : natOf? s = some n ↔ IsUnsigned s n := by
  unfold natOf? IsUnsigned
  split
  · rename_i digits
    rw [naturalOf?_eq_some_iff, or_iff_right (not_isDigits_of_sign rfl n)]
    simp
  · rename_i noSign
    rw [naturalOf?_eq_some_iff]
    refine (or_iff_left ?_).symm
    rintro ⟨digits, rfl, -⟩
    exact noSign digits rfl

theorem not_isUnsigned_of_minus (n : Nat) : ¬IsUnsigned ('-' :: s) n := by
  rintro (digits | ⟨_, same, -⟩)
  · exact not_isDigits_of_sign rfl n digits
  · exact absurd (List.cons.inj same).1 (by decide)

theorem intOf?_eq_some_iff {n : Int} : intOf? s = some n ↔ IsSigned s n := by
  unfold intOf? IsSigned
  split
  · rename_i digits
    simp only [Option.map_eq_some_iff, Option.bind_eq_bind, Option.bind_eq_some_iff,
      Option.pure_def, Option.some.injEq, naturalOf?_eq_some_iff, not_isUnsigned_of_minus,
      false_and, exists_false, false_or, List.cons.injEq, true_and]
    constructor
    · rintro ⟨_, ⟨k, read, rfl⟩, rfl⟩
      exact ⟨digits, k, rfl, read, rfl⟩
    · rintro ⟨_, k, rfl, read, rfl⟩
      exact ⟨k, ⟨k, read, rfl⟩, rfl⟩
  · rename_i noMinus
    rw [or_iff_left]
    · simp only [Option.map_eq_some_iff, natOf?_eq_some_iff, Int.ofNat_eq_natCast, eq_comm (a := n)]
    · rintro ⟨digits, _, rfl, -⟩
      exact noMinus digits rfl

end Decimal

namespace Json

open Decimal

variable {s rest : List Char} {n limit : Nat}

theorem startsWithDigit_append (digits : ∀ c ∈ s, c.isDigit = true) (nonempty : s ≠ [])
    (rest : List Char) : startsWithDigit (s ++ rest) = true := by
  cases s with
  | nil => exact absurd rfl nonempty
  | cons c s => exact digits c (by simp)

theorem dropDigits_of_ends (ends : startsWithDigit rest = false) : dropDigits rest = rest := by
  cases rest with
  | nil => rfl
  | cons c rest => exact List.dropWhile_cons_of_neg (by simpa [startsWithDigit] using ends)

/-- Digits are read up to the end, if the limit is not reached. -/
theorem readDigits_append (digits : ∀ c ∈ s, c.isDigit = true) (small : valueFrom n s < limit)
    (ends : startsWithDigit rest = false) :
    readDigits limit n (s ++ rest) = (valueFrom n s, rest) := by
  induction s generalizing n with
  | nil =>
      cases rest with
      | nil => rfl
      | cons c rest => simp_all [readDigits, startsWithDigit, valueFrom]
  | cons c s ih =>
      have next : 10 * n + digitValue c < limit := (le_valueFrom _ s).trans_lt small
      rw [List.cons_append, readDigits]
      simp only [digits c (by simp), next, decide_true, Bool.and_self, ↓reduceIte]
      exact ih (fun d mem => digits d (by simp [mem])) small

end Json

end HeaderBidding
