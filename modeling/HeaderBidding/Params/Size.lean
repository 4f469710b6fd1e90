import HeaderBidding.Decimal.Integer
import HeaderBidding.Error
import HeaderBidding.Text.Lowercase
import HeaderBidding.Text.Segments

/-!
# Ad sizes

An ad size is written as a width, an `x` of either case and a height. Further `x` at the end mean
nothing.
-/

namespace HeaderBidding

/-- A width and a height, in pixels. -/
structure AdSize where
  width : UInt32
  height : UInt32
  deriving DecidableEq

namespace AdSize

/-- A number of pixels: digits with an optional plus sign, below `2 ^ 32`. -/
def pixels? (s : List Char) : Option UInt32 :=
  match Decimal.natOf? s with
  | some n => if n < 0x100000000 then some (UInt32.ofNat n) else none
  | none => none

/-- A list without the empty texts at its end. -/
def dropEmptyEnd (parts : List (List Char)) : List (List Char) :=
  (parts.reverse.dropWhile List.isEmpty).reverse

/-- Reads an ad size. -/
def ofText (size : String) : Except ParamsError AdSize :=
  match dropEmptyEnd (Text.segments 'x' (Text.lowercase size.toList)) with
  | [width, height] =>
    match pixels? width, pixels? height with
    | none, _ => .error (.invalidWidth (String.ofList width))
    | some _, none => .error (.invalidHeight (String.ofList height))
    | some w, some h => .ok ⟨w, h⟩
  | _ => .error (.invalidAdSize size)

end AdSize

end HeaderBidding
