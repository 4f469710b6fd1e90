import HeaderBidding.Host.DirectionData
import HeaderBidding.Text.Table

/-!
# Names that are written from right to left

In a name with letters that are written from right to left, each label has to keep to one
direction, so that it can be told where it begins and where it ends.
-/

namespace HeaderBidding.Host

open Text (Ranges)

/-- The direction of a character. -/
inductive Direction where
  | left
  | right
  | arabic
  | arabicNumber
  | europeanNumber
  | europeanSeparator
  | commonSeparator
  | europeanTerminator
  | neutral
  | boundary
  | mark
  | other
  deriving DecidableEq

namespace Direction

/-- The characters of each direction. -/
def table : List (Direction × Ranges) :=
  [(left, .ofTable leftTable), (right, .ofTable rightTable), (arabic, .ofTable arabicTable),
   (arabicNumber, .ofTable arabicNumberTable), (europeanNumber, .ofTable europeanNumberTable),
   (europeanSeparator, .ofTable europeanSeparatorTable),
   (commonSeparator, .ofTable commonSeparatorTable),
   (europeanTerminator, .ofTable europeanTerminatorTable), (neutral, .ofTable neutralTable),
   (boundary, .ofTable boundaryTable), (mark, .ofTable markTable)]

/-- The direction of a character. -/
def ofChar (c : Char) : Direction :=
  match table.find? (·.2.has c) with
  | some (direction, _) => direction
  | none => other

/-- Whether a character makes a name one with letters from right to left. -/
def isRight (d : Direction) : Bool :=
  d ∈ [right, arabic, arabicNumber]

/-- Whether a character may stand inside a label of either direction. -/
def isCommon (d : Direction) : Bool :=
  d ∈ [europeanNumber, europeanSeparator, commonSeparator, europeanTerminator, neutral, boundary,
    mark]

end Direction

/-- Whether the directions of the characters of a label go together. -/
def directionsAgree (label : List Direction) : Bool :=
  match label with
  | [] => true
  | first :: _ =>
    match label.reverse.dropWhile (· == .mark) with
    | [] => false
    | last :: _ =>
      if first = .left then
        label.all (fun d => d == .left || d.isCommon) && last ∈ [.left, .europeanNumber]
      else if first ∈ [.right, .arabic] then
        label.all (fun d => d.isRight || d.isCommon) &&
          last ∈ [.right, .arabic, .europeanNumber, .arabicNumber] &&
          !(label.contains .europeanNumber && label.contains .arabicNumber)
      else false

/-- Whether the directions of all labels of a name go together. -/
def directionsSound (labels : List (List Char)) : Bool :=
  let directions := labels.map (·.map Direction.ofChar)
  if directions.any (·.any Direction.isRight) then directions.all directionsAgree else true

end HeaderBidding.Host
