/-!
# Punycode

A label with characters beyond ASCII is written in ASCII: its ASCII characters come first, then,
behind a hyphen, the others in ascending order, each as the number of steps from the one before in
digits of base 36. How many digits a step takes is adapted to the steps before.
-/

namespace HeaderBidding.Host.Punycode

/-- The digit of a number below 36. -/
def digit (n : Nat) : Char :=
  if n < 26 then Char.ofNat (97 + n) else Char.ofNat (22 + n)

/-- The number of a lower case digit. -/
def digitValue? (c : Char) : Option Nat :=
  if 'a' ≤ c ∧ c ≤ 'z' then some (c.toNat - 97)
  else if c.isDigit then some (c.toNat - 22)
  else none

/-- The threshold of the digit at a place, counted in steps of 36. -/
def threshold (place bias : Nat) : Nat :=
  if place ≤ bias then 1 else if bias + 26 ≤ place then 26 else place - bias

theorem threshold_pos (place bias : Nat) : 1 ≤ threshold place bias := by
  unfold threshold
  split
  · omega
  · split <;> omega

theorem threshold_le (place bias : Nat) : threshold place bias ≤ 26 := by
  unfold threshold
  split
  · omega
  · split <;> omega

/-- The last part of adapting. -/
def adaptBy (bias delta : Nat) : Nat :=
  if 455 < delta then adaptBy (bias + 36) (delta / 35) else bias + 36 * delta / (delta + 38)
termination_by delta
decreasing_by omega

/-- The bias after a step, of which `count` characters have been written. -/
def adapt (delta count : Nat) (isFirst : Bool) : Nat :=
  let start := if isFirst then delta / 700 else delta / 2
  adaptBy 0 (start + start / count)

/-- The highest number that steps are computed with. -/
def limit : Nat := 0x100000000

/-! ## Writing -/

/-- The digits of a step. -/
def stepDigits (bias place step : Nat) : List Char :=
  let t := threshold place bias
  if step < t then [digit step]
  else digit (t + (step - t) % (36 - t)) :: stepDigits bias (place + 36) ((step - t) / (36 - t))
termination_by step
decreasing_by
  have := threshold_pos place bias
  have := Nat.div_le_self (step - threshold place bias) (36 - threshold place bias)
  omega

/-- What has been written: the digits in reverse order, the steps since the last character, the
bias, and the number of characters. -/
structure Written where
  digits : List Char
  delta : Nat
  bias : Nat
  count : Nat

/-- Passes a character of the label, while `code` is being written. -/
def writePast (code first : Nat) (state : Written) (c : Char) : Written :=
  if c.toNat < code then { state with delta := state.delta + 1 }
  else if c.toNat = code then
    { digits := (stepDigits state.bias 36 state.delta).reverse ++ state.digits
      delta := 0
      bias := adapt state.delta (state.count + 1) (state.count = first)
      count := state.count + 1 }
  else state

/-- Writes all characters with the given codes, which are in ascending order. -/
def writeCodes (label : List Char) (first : Nat) : List Nat → Nat → Written → Written
  | [], _, state => state
  | code :: codes, last, state =>
    let passed := label.foldl (writePast code first)
      { state with delta := state.delta + (code - last) * (state.count + 1) }
    writeCodes label first codes (code + 1) { passed with delta := passed.delta + 1 }

/-- Puts a number into an ascending list, once. -/
def insertCode (n : Nat) : List Nat → List Nat
  | [] => [n]
  | m :: rest =>
    if n < m then n :: m :: rest
    else if n = m then m :: rest
    else m :: insertCode n rest

/-- A label in ASCII, without the mark in front of it. -/
def encode (label : List Char) : List Char :=
  let basic := label.filter fun c => c.toNat < 128
  let others := label.filter fun c => 128 ≤ c.toNat
  let codes := others.foldl (fun codes c => insertCode c.toNat codes) []
  let written := writeCodes label basic.length codes 128
    { digits := [], delta := 0, bias := 72, count := basic.length }
  basic ++ (if basic = [] then [] else ['-']) ++ written.digits.reverse

/-! ## Reading -/

/-- Reads the digits of a step, and gives it added to `n`, with what follows. -/
def readStep (bias place weight n : Nat) : List Char → Option (Nat × List Char)
  | [] => none
  | c :: rest =>
    match digitValue? c with
    | none => none
    | some d =>
      let t := threshold place bias
      let next := n + d * weight
      if limit ≤ next then none
      else if d < t then some (next, rest)
      else if limit ≤ weight * (36 - t) then none
      else readStep bias (place + 36) (weight * (36 - t)) next rest

theorem readStep_shrinks {bias place weight n m : Nat} {s r : List Char}
    (h : readStep bias place weight n s = some (m, r)) : r.length < s.length := by
  induction s generalizing place weight n with
  | nil => simp [readStep] at h
  | cons c rest ih =>
    rw [readStep] at h
    split at h
    · simp at h
    · simp only at h
      split at h
      · simp at h
      · split at h
        · obtain ⟨-, rfl⟩ := Prod.mk.inj (Option.some.inj h)
          simp
        · split at h
          · simp at h
          · have := ih h
            simp only [List.length_cons]
            omega

/-- Puts a character at a place of a text. -/
def insertChar (place : Nat) (c : Char) (s : List Char) : List Char :=
  s.take place ++ c :: s.drop place

/-- Reads all steps: `code` and `place` are where the last character was put. -/
def readSteps (code place bias : Nat) (isFirst : Bool) (label s : List Char) : Option (List Char) :=
  match s with
  | [] => some label
  | c :: rest =>
    match h : readStep bias 36 1 place (c :: rest) with
    | none => none
    | some (next, after) =>
      let count := label.length + 1
      let reached := code + next / count
      if reached.isValidChar then
        have := readStep_shrinks h
        readSteps reached (next % count + 1) (adapt (next - place) count isFirst) false
          (insertChar (next % count) (Char.ofNat reached) label) after
      else none
termination_by s.length
decreasing_by assumption

/-- The label that is written in ASCII, if there is one. -/
def decode? (s : List Char) : Option (List Char) :=
  if s.all fun c => c.toNat < 128 then
    match s.reverse.span (· != '-') with
    | (_, []) => readSteps 128 0 72 true [] s
    | (digits, _ :: basic) => readSteps 128 0 72 true basic.reverse digits.reverse
  else none

end HeaderBidding.Host.Punycode
