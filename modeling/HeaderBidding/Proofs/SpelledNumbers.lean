import HeaderBidding.Json.Skip
import HeaderBidding.Proofs.Numbers
import HeaderBidding.Proofs.SpelledTexts

/-!
# Spelled numbers

What is read of a spelled number does not depend on what follows it.  The readers of its parts are
followed one after the other: each does with the rest of the text only what the part says.
-/

namespace HeaderBidding.Json

variable {s rest : List Char} {negative : Bool} {n : Nat}

/-! ## Digits -/

/-- Which digits are read does not depend on what follows them. -/
theorem readDigits_append_of_ends (limit n : Nat) (digits : ∀ c ∈ s, c.isDigit = true)
    (ends : startsWithDigit rest = false) :
    readDigits limit n (s ++ rest) =
      ((readDigits limit n s).1, (readDigits limit n s).2 ++ rest) := by
  induction s generalizing n with
  | nil =>
      cases rest with
      | nil => rfl
      | cons c rest => simp_all [readDigits, startsWithDigit]
  | cons c s ih =>
      rw [List.cons_append, readDigits, readDigits]
      split_ifs
      · exact ih _ fun d mem => digits d (List.mem_cons_of_mem c mem)
      · rfl

theorem readDigits_left_isDigit (limit n : Nat) (digits : ∀ c ∈ s, c.isDigit = true) :
    ∀ c ∈ (readDigits limit n s).2, c.isDigit = true := by
  induction s generalizing n with
  | nil => simp [readDigits]
  | cons c s ih =>
      rw [readDigits]
      split_ifs
      · exact ih _ fun d mem => digits d (List.mem_cons_of_mem c mem)
      · exact digits

theorem dropDigits_append (digits : ∀ c ∈ s, c.isDigit = true)
    (ends : startsWithDigit rest = false) : dropDigits (s ++ rest) = rest := by
  rw [dropDigits, List.dropWhile_append_of_pos digits]
  exact dropDigits_of_ends ends

theorem Digits.startsWithDigit (digits : Digits) (rest : List Char) :
    startsWithDigit (digits.chars ++ rest) = true :=
  startsWithDigit_append digits.digits digits.nonempty rest

theorem Digits.exists_eq_cons (digits : Digits) :
    ∃ c s, digits.chars = c :: s ∧ c.isDigit = true ∧ ∀ d ∈ s, d.isDigit = true := by
  obtain ⟨chars, nonempty, all⟩ := digits
  cases chars with
  | nil => exact absurd rfl nonempty
  | cons c s => exact ⟨c, s, rfl, all c (by simp), fun d mem => all d (by simp [mem])⟩

theorem startsWithDigit_exponentChars (e : Option Exponent) (ends : EndsNumber rest) :
    startsWithDigit (exponentChars e ++ rest) = false := by
  cases e with
  | none => exact ends.startsWithDigit
  | some e => rcases e with ⟨_, rfl | rfl, _⟩ <;> rfl

theorem Numeral.startsWithDigit_tail (n : Numeral) (ends : EndsNumber rest) :
    startsWithDigit (n.tail ++ rest) = false := by
  rw [Numeral.tail]
  cases n.fraction with
  | none => exact startsWithDigit_exponentChars n.exponent ends
  | some digits => rfl

/-! ## Reading -/

/-- What is read as a number is the same in front of every text with which no number goes on. -/
def ReadsAlike (read : List Char → Except Fault (Number × List Char)) : Prop :=
  ∃ value : Option Number, ∀ rest, EndsNumber rest → (read rest).toOption = value.map (·, rest)

namespace ReadsAlike

variable {read read' : List Char → Except Fault (Number × List Char)}

theorem congr (same : ∀ rest, EndsNumber rest → read rest = read' rest)
    (alike : ReadsAlike read') : ReadsAlike read := by
  obtain ⟨value, reads⟩ := alike
  exact ⟨value, fun rest ends => (congrArg Except.toOption (same rest ends)).trans (reads rest ends)⟩

theorem ok (value : Number) : ReadsAlike fun rest => .ok (value, rest) :=
  ⟨some value, fun _ _ => rfl⟩

theorem error (fault : List Char → Fault) : ReadsAlike fun rest => .error (fault rest) :=
  ⟨none, fun _ _ => rfl⟩

end ReadsAlike

theorem readsAlike_realOf (negative : Bool) (n : Nat) (exponent : Int) :
    ReadsAlike (realOf negative n exponent) := by
  refine ⟨(scaled? n exponent).map fun x => .real (signed negative x), fun rest _ => ?_⟩
  rw [realOf]
  cases scaled? n exponent <;> rfl

theorem exponentSign_sign (e : Exponent) (rest : List Char) :
    exponentSign (e.sign ++ (e.digits.chars ++ rest)) =
      (e.sign == ['-'], e.digits.chars ++ rest) := by
  obtain ⟨c, s, written, digit, -⟩ := e.digits.exists_eq_cons
  rcases e with ⟨_, _, _, rfl | rfl | rfl, digits⟩
  · simp only at written
    simp only [List.nil_append, written, List.cons_append]
    unfold exponentSign
    split
    · simp_all [Char.isDigit]
    · simp_all [Char.isDigit]
    · rfl
  · rfl
  · rfl

theorem readsAlike_readExponent (negative : Bool) (n : Nat) (exponent : Int) (e : Exponent) :
    ReadsAlike fun rest =>
      readExponent negative n exponent (e.sign ++ (e.digits.chars ++ rest)) := by
  obtain ⟨c, s, written, digit, -⟩ := e.digits.exists_eq_cons
  have left := readDigits_left_isDigit exponentLimit 0 e.digits.digits
  have run (rest : List Char) (ends : EndsNumber rest) :
      readExponent negative n exponent (e.sign ++ (e.digits.chars ++ rest)) =
        let read := readDigits exponentLimit 0 e.digits.chars
        if startsWithDigit (read.2 ++ rest) then
          if n ≠ 0 ∧ (e.sign == ['-']) = false then
            .error (.before .numberOutOfRange ((read.2 ++ rest).drop 1))
          else .ok (.real (signed negative 0), dropDigits (read.2 ++ rest))
        else
          realOf negative n (if e.sign == ['-'] then exponent - read.1 else exponent + read.1)
            (read.2 ++ rest) := by
    have sign := exponentSign_sign e rest
    have read := readDigits_append_of_ends exponentLimit 0 e.digits.digits ends.startsWithDigit
    rw [written, List.cons_append] at sign read
    rw [readExponent]
    simp only [written, List.cons_append, sign, digit, read, ↓reduceIte]
  -- The digits that are too many for an exponent are the same in front of every text.
  generalize readDigits exponentLimit 0 e.digits.chars = read at run left
  obtain ⟨k, more⟩ := read
  cases more with
  | nil =>
      refine .congr (fun rest ends => ?_) (readsAlike_realOf negative n
        (if e.sign == ['-'] then exponent - k else exponent + k))
      rw [run rest ends]
      exact if_neg (by simp [ends.startsWithDigit])
  | cons d more =>
      have enters (rest : List Char) : startsWithDigit (d :: more ++ rest) = true :=
        left d (by simp)
      by_cases large : n ≠ 0 ∧ (e.sign == ['-']) = false
      · refine .congr (fun rest ends => ?_)
          (.error fun rest => .before .numberOutOfRange ((d :: more ++ rest).drop 1))
        rw [run rest ends]
        simp only [enters, large, ne_eq, not_false_eq_true, and_self, ↓reduceIte]
      · refine .congr (fun rest ends => ?_) (.ok (.real (signed negative 0)))
        rw [run rest ends]
        simp only [enters, large, ↓reduceIte, dropDigits_append left ends.startsWithDigit]

theorem readsAlike_readScale (negative : Bool) (n : Nat) (exponent : Int) (e : Option Exponent) :
    ReadsAlike fun rest => readScale negative n exponent (exponentChars e ++ rest) := by
  cases e with
  | none =>
      exact .congr (fun rest ends => readScale_of_ends ends) (readsAlike_realOf negative n exponent)
  | some e =>
      refine .congr (fun rest _ => ?_) (readsAlike_readExponent negative n exponent e)
      rcases e with ⟨_, rfl | rfl, sign, isSign, digits⟩ <;>
        simp [exponentChars, readScale]

theorem readsAlike_readFraction (negative : Bool) (n : Nat) (exponent : Int) (digits : Digits)
    (e : Option Exponent) :
    ReadsAlike fun rest =>
      readFraction negative n exponent (digits.chars ++ (exponentChars e ++ rest)) := by
  refine .congr (fun rest ends => ?_) (readsAlike_readScale negative
    (readDigits significandLimit n digits.chars).1
    (exponent - ((digits.chars.length : Int) -
      (readDigits significandLimit n digits.chars).2.length)) e)
  have stops := startsWithDigit_exponentChars e ends
  have left := readDigits_left_isDigit significandLimit n digits.digits
  have lengths : ((digits.chars ++ (exponentChars e ++ rest)).length : Int) -
      ((readDigits significandLimit n digits.chars).2 ++ (exponentChars e ++ rest)).length =
        digits.chars.length - (readDigits significandLimit n digits.chars).2.length := by
    simp only [List.length_append]
    omega
  simp only [readFraction, digits.startsWithDigit, ↓reduceIte,
    readDigits_append_of_ends significandLimit n digits.digits stops, dropDigits_append left stops,
    lengths]

theorem readTail_eq_of_ends {dropped : Nat} (ends : EndsNumber rest) :
    readTail negative n dropped rest =
      if dropped = 0 then .ok (wholeOf negative n, rest) else realOf negative n dropped rest := by
  cases rest with
  | nil => rfl
  | cons c rest =>
      obtain ⟨-, point, lower, upper⟩ := ends c rfl
      rw [readTail]
      · exact fun _ same => point (List.cons.inj same).1
      · exact fun _ same => lower (List.cons.inj same).1
      · exact fun _ same => upper (List.cons.inj same).1

theorem readsAlike_readTail (negative : Bool) (n dropped : Nat) (numeral : Numeral) :
    ReadsAlike fun rest => readTail negative n dropped (numeral.tail ++ rest) := by
  unfold Numeral.tail
  cases numeral.fraction with
  | some digits =>
      refine .congr (fun rest _ => ?_)
        (readsAlike_readFraction negative n dropped digits numeral.exponent)
      simp [fractionChars, readTail]
  | none =>
      cases numeral.exponent with
      | some e =>
          refine .congr (fun rest _ => ?_) (readsAlike_readExponent negative n dropped e)
          rcases e with ⟨_, rfl | rfl, sign, isSign, digits⟩ <;>
            simp [fractionChars, exponentChars, readTail]
      | none =>
          refine .congr (fun rest ends => readTail_eq_of_ends ends) ?_
          by_cases all : dropped = 0
          · simp only [if_pos all]
            exact .ok (wholeOf negative n)
          · simp only [if_neg all]
            exact readsAlike_realOf negative n dropped

theorem readsAlike_readUnsigned (negative : Bool) (numeral : Numeral) :
    ReadsAlike fun rest => readUnsigned negative (numeral.unsigned ++ rest) := by
  obtain ⟨c, s, written, digit, -⟩ := numeral.whole.exists_eq_cons
  have left := readDigits_left_isDigit significandLimit 0 numeral.whole.digits
  by_cases zero : c = '0'
  · have whole : numeral.whole.chars = ['0'] := numeral.canonical (by rw [written, zero]; rfl)
    refine .congr (fun rest ends => ?_) (readsAlike_readTail negative 0 0 numeral)
    simp [Numeral.unsigned, whole, readUnsigned, numeral.startsWithDigit_tail ends]
  · refine .congr (fun rest ends => ?_) (readsAlike_readTail negative
      (readDigits significandLimit 0 numeral.whole.chars).1
      (readDigits significandLimit 0 numeral.whole.chars).2.length numeral)
    have stops := numeral.startsWithDigit_tail ends
    have read := readDigits_append_of_ends significandLimit 0 numeral.whole.digits stops
    rw [written, List.cons_append] at read
    rw [written] at left
    rw [Numeral.unsigned, List.append_assoc, written, List.cons_append, readUnsigned]
    · simp only [digit, ↓reduceIte, read, dropDigits_append left stops, List.length_append,
        Nat.add_sub_cancel]
    · exact zero

theorem Numeral.exists_unsigned_eq_cons (n : Numeral) :
    ∃ c s, n.unsigned = c :: s ∧ c.isDigit = true := by
  obtain ⟨c, s, written, digit, -⟩ := n.whole.exists_eq_cons
  exact ⟨c, s ++ n.tail, by simp [Numeral.unsigned, written], digit⟩

theorem readsAlike_readNumber (numeral : Numeral) :
    ReadsAlike fun rest => readNumber (numeral.chars ++ rest) := by
  unfold Numeral.chars
  split_ifs
  · exact readsAlike_readUnsigned true numeral
  · refine .congr (fun rest _ => ?_) (readsAlike_readUnsigned false numeral)
    obtain ⟨c, s, written, digit⟩ := numeral.exists_unsigned_eq_cons
    rw [written, List.cons_append, readNumber]
    intro _ same
    rw [(List.cons.inj same).1] at digit
    exact absurd digit (by decide)

/-- The number that is written, if it is not too large. -/
def Numeral.value? (n : Numeral) : Option Number :=
  (readNumber n.chars).toOption.map Prod.fst

/-- A spelled number is read as its value. -/
theorem toOption_readNumber (n : Numeral) (ends : EndsNumber rest) :
    (readNumber (n.chars ++ rest)).toOption = n.value?.map (·, rest) := by
  obtain ⟨value, reads⟩ := readsAlike_readNumber n
  have alone : (readNumber (n.chars ++ [])).toOption = value.map (·, []) :=
    reads [] (by simp [EndsNumber])
  rw [List.append_nil] at alone
  rw [reads rest ends, Numeral.value?, alone]
  cases value <;> rfl

/-! ## Passing over -/

theorem skipDigits_digits (digits : Digits) (ends : startsWithDigit rest = false) :
    skipDigits (digits.chars ++ rest) = .ok rest := by
  obtain ⟨c, s, written, digit, others⟩ := digits.exists_eq_cons
  rw [written, List.cons_append, skipDigits, if_pos digit]
  exact congrArg Except.ok (dropDigits_append others ends)

theorem skipExponent_exponentChars (e : Option Exponent) (ends : EndsNumber rest) :
    skipExponent (exponentChars e ++ rest) = .ok rest := by
  cases e with
  | none =>
      cases rest with
      | nil => rfl
      | cons c rest =>
          obtain ⟨-, -, lower, upper⟩ := ends c rfl
          rw [exponentChars, List.nil_append, skipExponent]
          · exact fun _ same => lower (List.cons.inj same).1
          · exact fun _ same => upper (List.cons.inj same).1
  | some e =>
      have digits := skipDigits_digits e.digits ends.startsWithDigit
      have sign : skipSign (e.sign ++ (e.digits.chars ++ rest)) = e.digits.chars ++ rest := by
        obtain ⟨c, s, written, digit, -⟩ := e.digits.exists_eq_cons
        rw [written, List.cons_append]
        rcases e.isSign with none | plus | minus
        · rw [none, List.nil_append, skipSign]
          · rintro _ same
            rw [(List.cons.inj same).1] at digit
            exact absurd digit (by decide)
          · rintro _ same
            rw [(List.cons.inj same).1] at digit
            exact absurd digit (by decide)
        · rw [plus]
          rfl
        · rw [minus]
          rfl
      rcases e.isLetter with lower | upper
      · simp only [exponentChars, lower, List.cons_append, List.append_assoc, skipExponent, sign,
          digits]
      · simp only [exponentChars, upper, List.cons_append, List.append_assoc, skipExponent, sign,
          digits]

theorem skipFraction_tail (n : Numeral) (ends : EndsNumber rest) :
    skipFraction (n.tail ++ rest) = .ok rest := by
  have exponent := skipExponent_exponentChars n.exponent ends
  rw [Numeral.tail, List.append_assoc]
  cases n.fraction with
  | none =>
      rw [fractionChars, List.nil_append, skipFraction, exponent]
      intro s same
      cases chosen : n.exponent with
      | none =>
          rw [chosen] at same
          obtain ⟨-, point, -⟩ := ends '.' (by rw [show rest = '.' :: s from same]; rfl)
          exact point rfl
      | some e =>
          rw [chosen] at same
          rcases e.isLetter with lower | upper
          · exact absurd (lower.symm.trans (List.cons.inj same).1) (by decide)
          · exact absurd (upper.symm.trans (List.cons.inj same).1) (by decide)
  | some digits =>
      have stops := startsWithDigit_exponentChars n.exponent ends
      simp only [fractionChars, List.cons_append, skipFraction, skipDigits_digits digits stops,
        exponent]

/-- However large it is, a spelled number is passed over. -/
theorem skipUnsigned_unsigned (n : Numeral) (ends : EndsNumber rest) :
    skipUnsigned (n.unsigned ++ rest) = .ok rest := by
  have digits := skipDigits_digits n.whole (n.startsWithDigit_tail ends)
  have tail := skipFraction_tail n ends
  rw [Numeral.unsigned, List.append_assoc]
  unfold skipUnsigned
  split
  · rename_i c s same
    obtain ⟨d, t, written, -, -⟩ := n.whole.exists_eq_cons
    have zero : n.whole.chars = ['0'] := by
      apply n.canonical
      rw [written, List.cons_append] at same
      rw [written, (List.cons.inj same).1]
      rfl
    rw [zero] at same
    have behind : n.tail ++ rest = c :: s := (List.cons.inj same).2
    have stops := n.startsWithDigit_tail ends
    rw [behind] at stops tail
    rw [startsWithDigit] at stops
    rw [if_neg (ne_true_of_eq_false stops), tail]
  · simp only [digits, tail]

end HeaderBidding.Json
