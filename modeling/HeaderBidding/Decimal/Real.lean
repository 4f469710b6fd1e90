import HeaderBidding.Decimal.Integer
import HeaderBidding.Decimal.Shortest

/-!
# Doubles in decimal

A finite double is written with the fewest digits that read back as the same double. Numbers with
a decimal exponent from -5 to 15 are written out and always show a point; others have a single
digit before the point and an exponent. The two styles in use differ in the sign of a positive
exponent alone.
-/

namespace HeaderBidding.Decimal

/-- How exponents are written. -/
structure RealStyle where
  /-- What stands between the `e` and the digits of a positive exponent. -/
  positiveSign : List Char

/-- The style of documents: `1e+16`. -/
def RealStyle.document : RealStyle := ⟨['+']⟩

/-- The style of diagnostics: `1e16`. -/
def RealStyle.diagnostic : RealStyle := ⟨[]⟩

/-- The part of the bits of a double that holds its mantissa and exponent. -/
def magnitudeBits (x : Float) : Nat :=
  x.toBits.toNat % 0x8000000000000000

/-- Whether the sign bit of a double is set. -/
def isNegative (x : Float) : Bool :=
  x.toBits.toNat ≥ 0x8000000000000000

/-- Mantissa and exponent of a finite double, whose magnitude is
`mantissa · 2 ^ (exponent - 1074)`. -/
def parts (x : Float) : Nat × Nat :=
  let bits := magnitudeBits x
  if bits < 0x10000000000000 then (bits, 0)
  else (0x10000000000000 + bits % 0x10000000000000, bits / 0x10000000000000 - 1)

/-- The digits of `digits · 10 ^ exponent` written out in full, with a point. -/
def positional (digits : List Char) (exponent : Int) : List Char :=
  if 0 ≤ exponent then digits ++ List.replicate exponent.toNat '0' ++ ['.', '0']
  else
    let places := exponent.natAbs
    if places < digits.length then
      digits.take (digits.length - places) ++ '.' :: digits.drop (digits.length - places)
    else '0' :: '.' :: List.replicate (places - digits.length) '0' ++ digits

/-- The digits with a point after the first, and the exponent of ten. -/
def scientific (style : RealStyle) (digits : List Char) (exponent : Int) : List Char :=
  let fraction := match digits.drop 1 with
    | [] => []
    | rest => '.' :: rest
  digits.take 1 ++ fraction ++ 'e' ::
    (if exponent < 0 then integer exponent else style.positiveSign ++ integer exponent)

/-- The text of the positive number `digits · 10 ^ exponent`. -/
def magnitude (style : RealStyle) (digits : Nat) (exponent : Int) : List Char :=
  let text := natural digits
  let order := exponent + text.length - 1
  if -5 ≤ order ∧ order ≤ 15 then positional text exponent else scientific style text order

/-- The text of a double in a style. -/
def real (style : RealStyle) (x : Float) : List Char :=
  let sign := if isNegative x then ['-'] else []
  if x.isNaN then "NaN".toList
  else if x.isInf then sign ++ "inf".toList
  else
    let (mantissa, exponent) := parts x
    if mantissa = 0 then sign ++ "0.0".toList
    else
      let (digits, power) := shortest mantissa exponent
      sign ++ magnitude style digits power

end HeaderBidding.Decimal
