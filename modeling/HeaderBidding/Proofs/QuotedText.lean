import HeaderBidding.Json.Print
import Mathlib

/-!
# Texts are read as they are written

Reading behind the opening quote undoes the escapes of a written text, character by character, and
ends at the closing quote.
-/

namespace HeaderBidding.Json

variable {s t u rest : List Char} {c : Char} {n : Nat}

/-! ## One character -/

theorem hexValue?_hexDigit (small : n < 16) : Decimal.hexValue? (Decimal.hexDigit n) = some n := by
  interval_cases n <;> rfl

theorem readHex_hexDigits (small : n < 256) (rest : List Char) :
    readHex ('0' :: '0' :: Decimal.hexDigit (n / 16) :: Decimal.hexDigit (n % 16) :: rest) =
      .ok (n, rest) := by
  have zero : Decimal.hexValue? '0' = some 0 := rfl
  have high : Decimal.hexValue? (Decimal.hexDigit (n / 16)) = some (n / 16) :=
    hexValue?_hexDigit (by omega)
  have low : Decimal.hexValue? (Decimal.hexDigit (n % 16)) = some (n % 16) :=
    hexValue?_hexDigit (by omega)
  have value : ((0 * 16 + 0) * 16 + n / 16) * 16 + n % 16 = n := by omega
  simp only [readHex, zero, high, low, value]

/-- A character below the space is read back from its code. -/
theorem readEscape_code (control : c < ' ') (rest : List Char) :
    readEscape ('u' :: '0' :: '0' :: Decimal.hexDigit (c.toNat / 16) ::
      Decimal.hexDigit (c.toNat % 16) :: rest) = .ok (c, rest) := by
  have small : c.toNat < 32 := control
  have trailing : isTrailing c.toNat = false := by
    rw [isTrailing, decide_eq_false (by omega), Bool.false_and]
  have leading : isLeading c.toNat = false := by
    rw [isLeading, decide_eq_false (by omega), Bool.false_and]
  simp only [readEscape, readHex_hexDigits (by omega : c.toNat < 256), trailing, leading,
    Bool.false_eq_true, ↓reduceIte, Char.ofNat_toNat]

theorem readText_escape (escape : readEscape s = .ok (c, rest))
    (read : readText rest = .ok (t, u)) : readText ('\\' :: s) = .ok (c :: t, u) := by
  rw [readText]
  split
  · rename_i failed
    rw [escape] at failed
    contradiction
  · rename_i d r taken
    obtain ⟨rfl, rfl⟩ := Prod.mk.inj (Except.ok.inj (escape.symm.trans taken))
    rw [read]

theorem readText_plain (quote : c ≠ '"') (backslash : c ≠ '\\') (plain : ¬c < ' ')
    (read : readText s = .ok (t, rest)) : readText (c :: s) = .ok (c :: t, rest) := by
  rw [readText, if_neg plain, read]
  · exact fun same => quote same
  · exact fun same => backslash same

/-- A written character is read as itself. -/
theorem readText_escapeChar (c : Char) (read : readText s = .ok (t, rest)) :
    readText (escapeChar c ++ s) = .ok (c :: t, rest) := by
  unfold escapeChar
  split_ifs with quote backslash backspace feed newline carriage tab control
  · subst quote
    exact readText_escape rfl read
  · subst backslash
    exact readText_escape rfl read
  · subst backspace
    exact readText_escape rfl read
  · subst feed
    exact readText_escape rfl read
  · subst newline
    exact readText_escape rfl read
  · subst carriage
    exact readText_escape rfl read
  · subst tab
    exact readText_escape rfl read
  · exact readText_escape (readEscape_code control s) read
  · exact readText_plain quote backslash control read

/-! ## Whole texts -/

/-- A text is read back behind its opening quote, up to its closing one. -/
theorem readText_escaped (s rest : List Char) :
    readText (s.flatMap escapeChar ++ '"' :: rest) = .ok (s, rest) := by
  induction s with
  | nil =>
      change readText ('"' :: rest) = .ok ([], rest)
      rw [readText]
  | cons c s ih =>
      rw [List.flatMap_cons, List.append_assoc]
      exact readText_escapeChar c ih

theorem writeText_append (s rest : List Char) :
    writeText s ++ rest = '"' :: (s.flatMap escapeChar ++ '"' :: rest) := by
  simp [writeText]

end HeaderBidding.Json
