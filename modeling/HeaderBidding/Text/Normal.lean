import HeaderBidding.Text.NormalData
import HeaderBidding.Text.Table

/-!
# The composed form of texts

Many characters with marks can be written in several ways. In the composed form marks stand in
canonical order and are composed with the character before them as far as possible: the text is
taken apart, put in order, and put together again.
-/

namespace HeaderBidding.Text

/-- Characters and what they are made up of. -/
def decompositions : List (List Nat) := tableEntries decompositionTable

/-- Ranges of characters with their class. -/
def combiningClasses : List (Nat × Nat × Nat) :=
  (tableEntries combiningTable).filterMap fun
    | [level, first] => some (level, first, first)
    | [level, first, last] => some (level, first, last)
    | _ => none

/-- Characters that are not composed. -/
def excluded : Ranges := Ranges.ofTable excludedTable

/-- The class by which marks are put in order; zero for all other characters. -/
def combiningClass (c : Nat) : Nat :=
  if c < 128 then 0
  else match combiningClasses.find? fun (_, first, last) => first ≤ c && c ≤ last with
    | some (level, _, _) => level
    | none => 0

/-! ## Hangul syllables -/

/-- The first syllable. -/
def syllableBase : Nat := 0xAC00

/-- The letters that a syllable is made up of. -/
def takeSyllable? (c : Nat) : Option (List Nat) :=
  if syllableBase ≤ c ∧ c < syllableBase + 11172 then
    let place := c - syllableBase
    let letters := [0x1100 + place / 588, 0x1161 + place % 588 / 28]
    some (if place % 28 = 0 then letters else letters ++ [0x11A7 + place % 28])
  else none

/-- The syllable of two letters, or of a syllable and a letter. -/
def makeSyllable? (a b : Nat) : Option Nat :=
  if 0x1100 ≤ a ∧ a < 0x1113 ∧ 0x1161 ≤ b ∧ b < 0x1176 then
    some (syllableBase + ((a - 0x1100) * 21 + (b - 0x1161)) * 28)
  else if syllableBase ≤ a ∧ a < syllableBase + 11172 ∧ (a - syllableBase) % 28 = 0 ∧ 0x11A7 < b ∧
      b < 0x11C3 then
    some (a + (b - 0x11A7))
  else none

/-! ## Taking apart -/

/-- What a character is made up of, as far as it can be taken apart in `depth` steps. -/
def takeApart : Nat → Nat → List Nat
  | 0, c => [c]
  | depth + 1, c =>
    if c < 128 then [c]
    else match takeSyllable? c with
      | some letters => letters
      | none =>
        match decompositions.find? (·.head? == some c) with
        | some (_ :: made) => made.flatMap (takeApart depth)
        | _ => [c]

/-- The steps in which every character is taken apart. -/
def decompositionDepth : Nat := 4

/-- Puts a mark behind all that are not of a higher class, in a text in reverse order. -/
def insertMark (c : Nat) : List Nat → List Nat
  | [] => [c]
  | d :: before =>
    if combiningClass c ≠ 0 ∧ combiningClass c < combiningClass d then d :: insertMark c before
    else c :: d :: before

/-- The marks of a text in canonical order. -/
def ordered (s : List Nat) : List Nat :=
  (s.foldl (fun before c => insertMark c before) []).reverse

/-! ## Putting together -/

/-- The character that two others are composed to. -/
def compose? (a b : Nat) : Option Nat :=
  match makeSyllable? a b with
  | some c => some c
  | none =>
    if a < 128 ∧ b < 128 then none
    else match decompositions.find? (·.tail == [a, b]) with
      | some (c :: _) =>
        if excluded.any fun range => range.1 ≤ c && c ≤ range.2 then none else some c
      | _ => none

/-- A text that is being put together, with what is done in reverse order: the characters before
the last one that is no mark, that character, and the marks behind it. -/
structure Composing where
  done : List Nat := []
  starter : Option Nat := none
  marks : List Nat := []

namespace Composing

/-- All that has been put together, in reverse order. -/
def all (state : Composing) : List Nat :=
  state.marks ++ state.starter.toList ++ state.done

/-- Puts a character aside, without composing it. -/
def append (state : Composing) (c : Nat) : Composing :=
  if combiningClass c = 0 then { done := state.all, starter := some c }
  else { state with marks := c :: state.marks }

/-- Composes a character with the last one that is no mark, unless a mark of its own class or a
higher one stands between them. -/
def add (state : Composing) (c : Nat) : Composing :=
  match state.starter with
  | none => state.append c
  | some a =>
    let blocked := match state.marks with
      | [] => false
      | m :: _ => combiningClass c ≤ combiningClass m
    match compose? a c with
    | some made => if blocked then state.append c else { state with starter := some made }
    | none => state.append c

end Composing

/-- The composed form of a text. -/
def composed (s : List Char) : List Char :=
  let apart := ordered (s.flatMap fun c => takeApart decompositionDepth c.toNat)
  ((apart.foldl Composing.add {}).all.reverse).map Char.ofNat

end HeaderBidding.Text
