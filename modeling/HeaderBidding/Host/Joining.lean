import HeaderBidding.Host.JoiningData
import HeaderBidding.Text.Table

/-!
# Joiners in labels

A label does not begin with a mark, and the characters that make letters join, or keep them from
it, stand only where they make a difference: behind a virama, or between letters that would join.
-/

namespace HeaderBidding.Host

open Text (Ranges)

/-- Marks of all kinds. -/
def combiningMarks : Ranges := Ranges.ofTable combiningMarkTable

/-- Viramas. -/
def viramas : Ranges := Ranges.ofTable viramaTable

/-- Letters that join what follows them. -/
def joinsNext : Ranges := Ranges.ofTable joinsLeftTable ++ Ranges.ofTable joinsBothTable

/-- Letters that join what is before them. -/
def joinsBefore : Ranges := Ranges.ofTable joinsRightTable ++ Ranges.ofTable joinsBothTable

/-- Characters that are passed over when letters join. -/
def transparent : Ranges := Ranges.ofTable transparentTable

/-- The joiner of width zero. -/
def joiner : Char := '\u200d'

/-- The character of width zero that keeps letters from joining. -/
def nonJoiner : Char := '\u200c'

/-- Whether the next character that is not passed over is in a set. -/
def reaches (ranges : Ranges) (s : List Char) : Bool :=
  match s.dropWhile transparent.has with
  | [] => false
  | c :: _ => ranges.has c

/-- Whether all joiners of a label stand where they may; `before` is what is in front of the rest,
in reverse order. -/
def joinersSound (before : List Char) : List Char → Bool
  | [] => true
  | c :: rest =>
    let afterVirama := before.head?.any viramas.has
    let sound :=
      if c = joiner then afterVirama
      else if c = nonJoiner then
        afterVirama || (reaches joinsNext before && reaches joinsBefore rest)
      else true
    sound && joinersSound (c :: before) rest

/-- Whether a label begins with a mark. -/
def beginsWithMark : List Char → Bool
  | [] => false
  | c :: _ => 128 ≤ c.toNat && combiningMarks.has c

end HeaderBidding.Host
