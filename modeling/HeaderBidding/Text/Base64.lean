/-!
# Bytes as letters

Three bytes are written as four digits of base 64. Where one or two bytes are missing at the end,
the digits that would stand for them alone are replaced by equals signs.
-/

namespace HeaderBidding.Text.Base64

/-- The digit of a number below 64. -/
def digit (n : Nat) : Char :=
  if n < 26 then Char.ofNat (65 + n)
  else if n < 52 then Char.ofNat (71 + n)
  else if n < 62 then Char.ofNat (n - 4)
  else if n = 62 then '+'
  else '/'

/-- The four digits of a number of 24 bits. -/
def digits (n : Nat) : List Char :=
  [digit (n / 0x40000), digit (n / 0x1000 % 64), digit (n / 0x40 % 64), digit (n % 64)]

/-- Bytes in base 64. -/
def encode : List UInt8 → List Char
  | a :: b :: c :: rest => digits (a.toNat * 0x10000 + b.toNat * 0x100 + c.toNat) ++ encode rest
  | [a, b] => (digits (a.toNat * 0x10000 + b.toNat * 0x100)).take 3 ++ ['=']
  | [a] => (digits (a.toNat * 0x10000)).take 2 ++ ['=', '=']
  | [] => []

theorem length_encode (bytes : List UInt8) :
    (encode bytes).length = (bytes.length + 2) / 3 * 4 := by
  fun_induction encode bytes <;> simp_all [digits]
  omega

end HeaderBidding.Text.Base64
