import HeaderBidding.Json.Quoted

/-!
# Passing over values

A value that is not kept is passed over with a looser check: numbers may be of any size, texts may
hold lone surrogates, and values may be nested to any depth. The brackets that are still open are
kept on a stack, innermost first.
-/

namespace HeaderBidding.Json

/-- The two kinds of brackets. -/
inductive Bracket where
  | square
  | curly
  deriving DecidableEq

namespace Bracket

/-- The closing bracket. -/
def closer : Bracket → Char
  | square => ']'
  | curly => '}'

/-- The cause of a text that ends between the brackets. -/
def unclosed : Bracket → Cause
  | square => .endInList
  | curly => .endInObject

/-- The cause of a value that neither a comma nor the bracket follows. -/
def unseparated : Bracket → Cause
  | square => .expectedListCommaOrEnd
  | curly => .expectedObjectCommaOrEnd

end Bracket

/-! ## Numbers -/

/-- Passes over at least one digit. -/
def skipDigits (s : List Char) : Except Fault (List Char) :=
  match s with
  | [] => .error (.within .invalidNumber [])
  | c :: rest =>
    if c.isDigit then .ok (rest.dropWhile Char.isDigit)
    else .error (.within .invalidNumber (c :: rest))

/-- Passes over an optional sign. -/
def skipSign : List Char → List Char
  | '+' :: rest => rest
  | '-' :: rest => rest
  | rest => rest

/-- Passes over the exponent, if there is one. -/
def skipExponent (s : List Char) : Except Fault (List Char) :=
  match s with
  | 'e' :: rest => skipDigits (skipSign rest)
  | 'E' :: rest => skipDigits (skipSign rest)
  | rest => .ok rest

/-- Passes over fraction and exponent, if there are any. -/
def skipFraction (s : List Char) : Except Fault (List Char) :=
  match s with
  | '.' :: rest =>
    match skipDigits rest with
    | .error f => .error f
    | .ok rest => skipExponent rest
  | rest => skipExponent rest

/-- Passes over a number behind its sign. -/
def skipUnsigned (s : List Char) : Except Fault (List Char) :=
  match s with
  | '0' :: c :: rest =>
    if c.isDigit then .error (.within .invalidNumber (c :: rest)) else skipFraction (c :: rest)
  | rest =>
    match skipDigits rest with
    | .error f => .error f
    | .ok rest => skipFraction rest

theorem skipDigits_shrinks {s r : List Char} (h : skipDigits s = .ok r) : r.length < s.length := by
  unfold skipDigits at h
  split at h
  · simp at h
  · rename_i c t
    split at h
    · obtain rfl := Except.ok.inj h
      have := (List.dropWhile_suffix (l := t) Char.isDigit).length_le
      simp only [List.length_cons]
      omega
    · simp at h

theorem skipSign_length_le (s : List Char) : (skipSign s).length ≤ s.length := by
  unfold skipSign
  split <;> simp

theorem skipExponent_length_le {s r : List Char} (h : skipExponent s = .ok r) :
    r.length ≤ s.length := by
  unfold skipExponent at h
  split at h
  · rename_i t
    have := skipDigits_shrinks h
    have := skipSign_length_le t
    simp only [List.length_cons]
    omega
  · rename_i t
    have := skipDigits_shrinks h
    have := skipSign_length_le t
    simp only [List.length_cons]
    omega
  · simp_all

theorem skipFraction_length_le {s r : List Char} (h : skipFraction s = .ok r) :
    r.length ≤ s.length := by
  unfold skipFraction at h
  split at h
  · split at h
    · simp at h
    · rename_i t heq
      have := skipDigits_shrinks heq
      have := skipExponent_length_le h
      simp only [List.length_cons]
      omega
  · exact skipExponent_length_le h

theorem skipUnsigned_shrinks {s r : List Char} (h : skipUnsigned s = .ok r) :
    r.length < s.length := by
  unfold skipUnsigned at h
  split at h
  · split at h
    · simp at h
    · have := skipFraction_length_le h
      simp only [List.length_cons] at this ⊢
      omega
  · split at h
    · simp at h
    · rename_i t heq
      have := skipDigits_shrinks heq
      have := skipFraction_length_le h
      omega

/-! ## Values -/

/-- Passes over a number, a text or a word; of a list or an object only the opening bracket, which
is then given. -/
def skipOpening (s : List Char) : Except Fault (Option Bracket × List Char) :=
  match skipSpace s with
  | [] => .error (.within .endInValue [])
  | '[' :: rest => .ok (some .square, rest)
  | '{' :: rest => .ok (some .curly, rest)
  | '"' :: rest => (skipText rest).map (none, ·)
  | 'n' :: rest => (word ['u', 'l', 'l'] rest).map (none, ·)
  | 't' :: rest => (word ['r', 'u', 'e'] rest).map (none, ·)
  | 'f' :: rest => (word ['a', 'l', 's', 'e'] rest).map (none, ·)
  | '-' :: rest => (skipUnsigned rest).map (none, ·)
  | c :: rest =>
    if c.isDigit then (skipUnsigned (c :: rest)).map (none, ·)
    else .error (.within .expectedValue (c :: rest))

/-- Closes brackets until the next value is due. A comma stands only behind a value. Gives the
brackets that are still open. -/
def settle (afterValue : Bool) (opened : List Bracket) (s : List Char) :
    Except Fault (List Bracket × List Char) :=
  match opened with
  | [] => .ok ([], s)
  | b :: outer =>
    match skipSpace s with
    | [] => .error (.within b.unclosed [])
    | c :: rest =>
      if afterValue ∧ c = ',' then .ok (b :: outer, rest)
      else if c = b.closer then settle true outer rest
      else if afterValue then .error (.within b.unseparated (c :: rest))
      else .ok (b :: outer, c :: rest)

/-- Passes over the key of a member, up to its value. Items of a list have none. -/
def skipKey (b : Bracket) (s : List Char) : Except Fault (List Char) :=
  match b with
  | .square => .ok s
  | .curly =>
    match skipSpace s with
    | [] => .error (.within .endInObject [])
    | '"' :: rest =>
      match skipText rest with
      | .error f => .error f
      | .ok rest => colon rest
    | rest => .error (.within .keyNotText rest)

theorem skipOpening_shrinks {s r : List Char} {b : Option Bracket}
    (h : skipOpening s = .ok (b, r)) : r.length < s.length := by
  have len := length_skipSpace_le s
  have moved : ∀ {e : Except Fault (List Char)} {b : Option Bracket} {r : List Char},
      e.map (none, ·) = .ok (b, r) → e = .ok r := by
    intro e b r h
    cases e with
    | error => simp [Except.map] at h
    | ok a => simp_all [Except.map]
  unfold skipOpening at h
  split at h
  case h_1 => simp at h
  case h_2 heq =>
    rw [heq, List.length_cons] at len
    obtain ⟨-, rfl⟩ := Prod.mk.inj (Except.ok.inj h)
    omega
  case h_3 heq =>
    rw [heq, List.length_cons] at len
    obtain ⟨-, rfl⟩ := Prod.mk.inj (Except.ok.inj h)
    omega
  case h_4 heq =>
    have := skipText_shrinks (moved h)
    simp_all
    omega
  case h_5 heq =>
    have := word_shrinks (moved h)
    simp_all
    omega
  case h_6 heq =>
    have := word_shrinks (moved h)
    simp_all
    omega
  case h_7 heq =>
    have := word_shrinks (moved h)
    simp_all
    omega
  case h_8 heq =>
    have := skipUnsigned_shrinks (moved h)
    simp_all
    omega
  case h_9 heq =>
    split at h
    · have := skipUnsigned_shrinks (moved h)
      simp_all
      omega
    · simp at h

theorem settle_length_le {afterValue : Bool} {opened left : List Bracket} {s r : List Char}
    (h : settle afterValue opened s = .ok (left, r)) : r.length ≤ s.length := by
  induction opened generalizing afterValue s with
  | nil => simp_all [settle]
  | cons b outer ih =>
    have len := length_skipSpace_le s
    rw [settle] at h
    split at h
    · simp at h
    · rename_i c t heq
      rw [heq] at len
      simp only [List.length_cons] at len
      split at h
      · simp_all
        omega
      · split at h
        · have := ih h
          omega
        · split at h
          · simp at h
          · obtain ⟨-, rfl⟩ := Prod.mk.inj (Except.ok.inj h)
            exact len

theorem skipKey_length_le {b : Bracket} {s r : List Char} (h : skipKey b s = .ok r) :
    r.length ≤ s.length := by
  have len := length_skipSpace_le s
  unfold skipKey at h
  split at h
  · simp_all
  · split at h
    · simp at h
    · rename_i heq
      rw [heq] at len
      split at h
      · simp at h
      · rename_i heq'
        have := skipText_shrinks heq'
        have := colon_shrinks h
        simp only [List.length_cons] at len
        omega
    · simp at h

/-- Passes over values until all brackets are closed. -/
def skipFrom (opened : List Bracket) (s : List Char) : Except Fault (List Char) :=
  match h₁ : skipOpening s with
  | .error f => .error f
  | .ok (bracket, r) =>
    match h₂ : settle bracket.isNone (bracket.toList ++ opened) r with
    | .error f => .error f
    | .ok ([], t) => .ok t
    | .ok (b :: outer, t) =>
      match h₃ : skipKey b t with
      | .error f => .error f
      | .ok u =>
        have := skipOpening_shrinks h₁
        have := settle_length_le h₂
        have := skipKey_length_le h₃
        skipFrom (b :: outer) u
termination_by s.length

theorem skipFrom_shrinks {opened : List Bracket} {s r : List Char}
    (h : skipFrom opened s = .ok r) : r.length < s.length := by
  fun_induction skipFrom opened s with
  | case1 => simp at h
  | case2 => simp at h
  | case3 opened s b t h₁ u h₂ =>
    obtain rfl := Except.ok.inj h
    have := skipOpening_shrinks h₁
    have := settle_length_le h₂
    omega
  | case4 => simp at h
  | case5 opened s bracket t h₁ b outer u h₂ v h₃ _ _ _ ih =>
    have := ih h
    omega

/-- Passes over a value. -/
def skipValue (s : List Char) : Except Fault (List Char) :=
  skipFrom [] s

theorem skipValue_shrinks {s r : List Char} (h : skipValue s = .ok r) : r.length < s.length :=
  skipFrom_shrinks h

end HeaderBidding.Json
