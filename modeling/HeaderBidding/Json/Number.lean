import HeaderBidding.Json.Scan

/-!
# Numbers in documents

A number without fraction and exponent is whole if it fits a word of 64 bits, and a double
otherwise. A double is computed from a significand below `2 ^ 64`, whose further digits are
dropped, and a decimal exponent, by one multiplication or division with a power of ten that is
itself a double. That is quick, and it is not always the double nearest to the written number.
-/

namespace HeaderBidding.Json

/-- A number in a document. -/
inductive Number where
  | whole (n : Whole)
  | real (x : Float)

/-- A number as a document. -/
def Number.toJson : Number → Json
  | whole n => .whole n
  | real x => .real x

/-! ## The value of a double -/

/-- The double `10 ^ n`, for `n` up to 308. -/
def powerOfTen (n : Nat) : Float :=
  Float.ofScientific 1 false n

/-- The double `x / 10 ^ n`, by steps that are themselves doubles. -/
def scaleDown (x : Float) (n : Nat) : Float :=
  if n ≤ 308 then x / powerOfTen n
  else if x == 0 then x
  else scaleDown (x / powerOfTen 308) (n - 308)
termination_by n

/-- The double `significand · 10 ^ exponent`, or nothing if it is too large. -/
def scaled? (significand : Nat) (exponent : Int) : Option Float :=
  let x := significand.toUInt64.toFloat
  if exponent < 0 then some (scaleDown x exponent.natAbs)
  else if exponent.natAbs ≤ 308 then
    let y := x * powerOfTen exponent.natAbs
    if y.isInf then none else some y
  else if x == 0 then some x
  else none

/-- A double with the sign that was written. -/
def signed (negative : Bool) (x : Float) : Float :=
  if negative then -x else x

/-- The double of a sign, a significand and a decimal exponent, in front of the rest. -/
def realOf (negative : Bool) (significand : Nat) (exponent : Int) (rest : List Char) :
    Except Fault (Number × List Char) :=
  match scaled? significand exponent with
  | some x => .ok (.real (signed negative x), rest)
  | none => .error (.before .numberOutOfRange rest)

/-- The number of a sign and of digits alone. -/
def wholeOf (negative : Bool) (n : Nat) : Number :=
  if negative ∧ n = 0 then .real (signed negative n.toUInt64.toFloat)
  else match Whole.ofInt? (if negative then -(n : Int) else n) with
    | some n => .whole n
    | none => .real (signed negative n.toUInt64.toFloat)

/-! ## Digits -/

/-- Reads digits behind those of `n`, as long as the number stays below `limit`. -/
def readDigits (limit n : Nat) : List Char → Nat × List Char
  | [] => (n, [])
  | c :: rest =>
    let next := 10 * n + Decimal.digitValue c
    if c.isDigit && decide (next < limit) then readDigits limit next rest else (n, c :: rest)

theorem readDigits_length_le (limit n : Nat) (s : List Char) :
    (readDigits limit n s).2.length ≤ s.length := by
  induction s generalizing n with
  | nil => simp [readDigits]
  | cons c r ih =>
    rw [readDigits]
    split
    · exact Nat.le_succ_of_le (ih _)
    · exact Nat.le_refl _

/-- The rest of a text from its first character that is no digit. -/
def dropDigits (s : List Char) : List Char :=
  s.dropWhile Char.isDigit

theorem length_dropDigits_le (s : List Char) : (dropDigits s).length ≤ s.length :=
  (List.dropWhile_suffix Char.isDigit).length_le

/-- Whether a text begins with a digit. -/
def startsWithDigit : List Char → Bool
  | [] => false
  | c :: _ => c.isDigit

/-- The significands that are kept exactly. -/
def significandLimit : Nat := 0x10000000000000000

/-- The written exponents that are told apart. -/
def exponentLimit : Nat := 0x80000000

/-! ## Reading -/

/-- The sign in front of an exponent, and what follows it. -/
def exponentSign : List Char → Bool × List Char
  | '+' :: rest => (false, rest)
  | '-' :: rest => (true, rest)
  | rest => (false, rest)

theorem exponentSign_length_le (s : List Char) : (exponentSign s).2.length ≤ s.length := by
  unfold exponentSign
  split <;> simp

/-- Reads the exponent behind its letter. An exponent beyond all limits makes any number but zero
too large, or so small that it is zero. -/
def readExponent (negative : Bool) (significand : Nat) (exponent : Int) (s : List Char) :
    Except Fault (Number × List Char) :=
  let sign := exponentSign s
  match sign.2 with
  | [] => .error (.before .endInValue [])
  | c :: rest =>
    if c.isDigit then
      let read := readDigits exponentLimit 0 (c :: rest)
      if startsWithDigit read.2 then
        if significand ≠ 0 ∧ sign.1 = false then .error (.before .numberOutOfRange (read.2.drop 1))
        else .ok (.real (signed negative 0), dropDigits read.2)
      else
        realOf negative significand (if sign.1 then exponent - read.1 else exponent + read.1) read.2
    else .error (.within .invalidNumber (c :: rest))

/-- Reads the exponent, if there is one. -/
def readScale (negative : Bool) (significand : Nat) (exponent : Int) (s : List Char) :
    Except Fault (Number × List Char) :=
  match s with
  | 'e' :: rest => readExponent negative significand exponent rest
  | 'E' :: rest => readExponent negative significand exponent rest
  | rest => realOf negative significand exponent rest

/-- Reads the digits behind the point. -/
def readFraction (negative : Bool) (significand : Nat) (exponent : Int) (s : List Char) :
    Except Fault (Number × List Char) :=
  if startsWithDigit s then
    let read := readDigits significandLimit significand s
    readScale negative read.1 (exponent - ((s.length : Int) - read.2.length)) (dropDigits read.2)
  else if s = [] then .error (.within .endInValue [])
  else .error (.within .invalidNumber s)

/-- Reads what follows the digits of a whole number, of which `dropped` were not kept. -/
def readTail (negative : Bool) (significand dropped : Nat) (s : List Char) :
    Except Fault (Number × List Char) :=
  match s with
  | '.' :: rest => readFraction negative significand dropped rest
  | 'e' :: rest => readExponent negative significand dropped rest
  | 'E' :: rest => readExponent negative significand dropped rest
  | rest =>
    if dropped = 0 then .ok (wholeOf negative significand, rest)
    else realOf negative significand dropped rest

/-- Reads a number behind its sign. -/
def readUnsigned (negative : Bool) (s : List Char) : Except Fault (Number × List Char) :=
  match s with
  | [] => .error (.before .endInValue [])
  | '0' :: rest =>
    if startsWithDigit rest then .error (.within .invalidNumber rest)
    else readTail negative 0 0 rest
  | c :: rest =>
    if c.isDigit then
      let read := readDigits significandLimit 0 (c :: rest)
      let after := dropDigits read.2
      readTail negative read.1 (read.2.length - after.length) after
    else .error (.within .invalidNumber (c :: rest))

/-- Reads a number. -/
def readNumber (s : List Char) : Except Fault (Number × List Char) :=
  match s with
  | '-' :: rest => readUnsigned true rest
  | rest => readUnsigned false rest

/-! ## Progress -/

theorem realOf_rest {negative : Bool} {n : Nat} {e : Int} {s r : List Char} {v : Number}
    (h : realOf negative n e s = .ok (v, r)) : r = s := by
  unfold realOf at h
  split at h <;> simp_all

theorem readExponent_length_le {negative : Bool} {n : Nat} {e : Int} {s r : List Char} {v : Number}
    (h : readExponent negative n e s = .ok (v, r)) : r.length ≤ s.length := by
  have bound := exponentSign_length_le s
  unfold readExponent at h
  simp only at h
  split at h
  · simp at h
  · rename_i c t heq
    rw [heq] at bound
    have read := readDigits_length_le exponentLimit 0 (c :: t)
    have rest := length_dropDigits_le (readDigits exponentLimit 0 (c :: t)).2
    split at h
    · split at h
      · split at h
        · simp at h
        · obtain ⟨-, rfl⟩ := Prod.mk.inj (Except.ok.inj h)
          omega
      · rw [realOf_rest h]
        omega
    · simp at h

theorem readScale_length_le {negative : Bool} {n : Nat} {e : Int} {s r : List Char} {v : Number}
    (h : readScale negative n e s = .ok (v, r)) : r.length ≤ s.length := by
  unfold readScale at h
  split at h
  · have := readExponent_length_le h
    simp only [List.length_cons]
    omega
  · have := readExponent_length_le h
    simp only [List.length_cons]
    omega
  · exact Nat.le_of_eq (congrArg List.length (realOf_rest h))

theorem readFraction_length_le {negative : Bool} {n : Nat} {e : Int} {s r : List Char} {v : Number}
    (h : readFraction negative n e s = .ok (v, r)) : r.length ≤ s.length := by
  unfold readFraction at h
  simp only at h
  split at h
  · have := readScale_length_le h
    have := length_dropDigits_le (readDigits significandLimit n s).2
    have := readDigits_length_le significandLimit n s
    omega
  · split at h <;> simp at h

theorem readTail_length_le {negative : Bool} {n d : Nat} {s r : List Char} {v : Number}
    (h : readTail negative n d s = .ok (v, r)) : r.length ≤ s.length := by
  unfold readTail at h
  split at h
  · have := readFraction_length_le h
    simp only [List.length_cons]
    omega
  · have := readExponent_length_le h
    simp only [List.length_cons]
    omega
  · have := readExponent_length_le h
    simp only [List.length_cons]
    omega
  · split at h
    · obtain ⟨-, rfl⟩ := Prod.mk.inj (Except.ok.inj h)
      exact Nat.le_refl _
    · exact Nat.le_of_eq (congrArg List.length (realOf_rest h))

/-- Reading from a digit on passes over that digit. -/
theorem readDigits_shrinks {limit : Nat} {c : Char} {s : List Char} (digit : c.isDigit = true)
    (small : 10 ≤ limit) : (readDigits limit 0 (c :: s)).2.length ≤ s.length := by
  have value : Decimal.digitValue c < 10 := by
    have high : c.val ≤ 57 := by
      simp only [Char.isDigit, Bool.and_eq_true, decide_eq_true_eq] at digit
      exact digit.2
    have : c.toNat ≤ 57 := high
    unfold Decimal.digitValue
    omega
  rw [readDigits]
  simp only [Nat.mul_zero, Nat.zero_add]
  rw [if_pos (by simp [digit]; omega)]
  exact readDigits_length_le _ _ _

theorem readUnsigned_shrinks {negative : Bool} {s r : List Char} {v : Number}
    (h : readUnsigned negative s = .ok (v, r)) : r.length < s.length := by
  unfold readUnsigned at h
  split at h
  · simp at h
  · split at h
    · simp at h
    · have := readTail_length_le h
      simp only [List.length_cons]
      omega
  · rename_i c t _
    split at h
    · rename_i digit
      have tail := readTail_length_le h
      have rest := length_dropDigits_le (readDigits significandLimit 0 (c :: t)).2
      have read : (readDigits significandLimit 0 (c :: t)).2.length ≤ t.length :=
        readDigits_shrinks digit (by decide)
      simp only [List.length_cons]
      omega
    · simp at h

theorem readNumber_shrinks {s r : List Char} {v : Number} (h : readNumber s = .ok (v, r)) :
    r.length < s.length := by
  unfold readNumber at h
  split at h
  · have := readUnsigned_shrinks h
    simp only [List.length_cons]
    omega
  · exact readUnsigned_shrinks h

end HeaderBidding.Json
