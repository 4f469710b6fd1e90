/-!
# The shortest decimal of a double

A double stands for all real numbers that round to it, an interval around its value. The shortest
decimal is taken from the coarsest decimal grid with a point in that interval, and is the one of
the two neighbours of the value on that grid that lies nearer. All of it is exact arithmetic on
natural numbers.
-/

namespace HeaderBidding.Decimal

/-- The positive value `value / unit` with the ends of the interval that rounds to it, over the
same denominator. The ends belong to the interval when `closed` holds. -/
structure Interval where
  low : Nat
  value : Nat
  high : Nat
  unit : Nat
  closed : Bool

/-- The interval of the double `mantissa · 2 ^ (exponent - 1074)`. Below a power of two the
neighbour is only half as far away. -/
def Interval.ofDouble (mantissa exponent : Nat) : Interval :=
  let scale := 1 <<< (exponent - 1074)
  { low := if mantissa = 0x10000000000000 ∧ exponent ≠ 0 then (4 * mantissa - 1) * scale
      else (4 * mantissa - 2) * scale
    value := 4 * mantissa * scale
    high := (4 * mantissa + 2) * scale
    unit := 4 <<< (1074 - exponent)
    closed := mantissa % 2 == 0 }

/-- The interval with value and ends multiplied by `10 ^ up` and divided by `10 ^ down`. -/
def Interval.scaled (i : Interval) (up down : Nat) : Interval :=
  { i with
    low := i.low * Nat.pow 10 up
    value := i.value * Nat.pow 10 up
    high := i.high * Nat.pow 10 up
    unit := i.unit * Nat.pow 10 down }

/-- Whether the whole number `n` lies in the interval. -/
def Interval.has (i : Interval) (n : Nat) : Bool :=
  let point := n * i.unit
  if i.closed then i.low ≤ point && point ≤ i.high else i.low < point && point < i.high

/-- The whole number in the interval that lies nearest to the value, the even one of two. -/
def Interval.nearest? (i : Interval) : Option Nat :=
  let below := i.value / i.unit
  match i.has below, i.has (below + 1) with
  | true, true =>
    let twice := 2 * i.value
    let middle := (2 * below + 1) * i.unit
    some (if twice < middle ∨ twice = middle ∧ below % 2 = 0 then below else below + 1)
  | true, false => some below
  | false, true => some (below + 1)
  | false, false => none

/-- Searches the grids of `10 ^ (n - 1074)` from coarse to fine. -/
def Interval.search (i : Interval) : Nat → Nat × Int
  | 0 => ((i.scaled 1074 0).value / (i.scaled 1074 0).unit, -1074)
  | n + 1 =>
    match (i.scaled (1074 - (n + 1)) (n + 1 - 1074)).nearest? with
    | some digits => (digits, (n + 1 : Int) - 1074)
    | none => i.search n

/-- Digits `d` and exponent `e` of the shortest decimal `d · 10 ^ e` of the positive double
`mantissa · 2 ^ (exponent - 1074)`. -/
def shortest (mantissa exponent : Nat) : Nat × Int :=
  let i := Interval.ofDouble mantissa exponent
  i.search (1074 + (Nat.toDigits 10 (i.value / i.unit)).length)

end HeaderBidding.Decimal
