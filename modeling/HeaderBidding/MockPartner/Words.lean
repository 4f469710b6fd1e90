/-!
# Random words

A supply of words of 64 bits that starts over when it is used up, and doubles drawn from it.
-/

namespace HeaderBidding.MockPartner

/-- A supply of words. -/
structure Words where
  all : List UInt64
  left : List UInt64

namespace Words

/-- A fresh supply. -/
def ofList (all : List UInt64) : Words := ⟨all, all⟩

/-- The next word, zero if there are none. -/
def next (words : Words) : UInt64 × Words :=
  match words.left with
  | w :: left => (w, { words with left })
  | [] =>
    match words.all with
    | w :: left => (w, { words with left })
    | [] => (0, words)

end Words

/-- The double in the unit interval that the upper bits of a word stand for. -/
def unitReal (word : UInt64) : Float :=
  (word >>> 12).toFloat / 4503599627370496.0

/-- Draws a double from `low` to below `high`. Where rounding would reach `high`, the scale, given
by its bits, is lowered by one step and the next word is taken. -/
def drawScaled (low high : Float) : Nat → Words → Float × Words
  | 0, words => (low, words)
  | bits + 1, words =>
    let (word, rest) := words.next
    let x := unitReal word * Float.ofBits (UInt64.ofNat (bits + 1)) + low
    if x < high then (x, rest) else drawScaled low high bits rest

/-- Draws a double from `low` to below `high`. -/
def draw (low high : Float) (words : Words) : Float × Words :=
  drawScaled low high (high - low).toBits.toNat words

end HeaderBidding.MockPartner
