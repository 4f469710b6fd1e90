import HeaderBidding.Decimal.Integer
import HeaderBidding.Text.Segments

/-!
# Addresses of 32 bits

An address is written as up to four numbers, in decimal, octal or hexadecimal. The last one stands
for all bytes that are left. A name that ends in a number has to be an address.
-/

namespace HeaderBidding.Host

/-- The digit of a character in a base up to 16. -/
def digitIn? (base : Nat) (c : Char) : Option Nat :=
  match Decimal.hexValue? c with
  | some n => if n < base then some n else none
  | none => none

/-- The number that a text of digits denotes. -/
def numberIn? (base : Nat) (s : List Char) : Option Nat :=
  (s.mapM (digitIn? base)).map (List.foldl (fun n d => base * n + d) 0)

/-- The number that a part of an address denotes; an empty number is zero, an empty part none. -/
def ipv4Number? (s : List Char) : Option Nat :=
  match s with
  | [] => none
  | '0' :: 'x' :: digits => numberIn? 16 digits
  | '0' :: 'X' :: digits => numberIn? 16 digits
  | '0' :: d :: digits => numberIn? 8 (d :: digits)
  | digits => numberIn? 10 digits

/-- The parts of an address; an empty one at the end does not count. -/
def ipv4Parts (s : List Char) : List (List Char) :=
  let parts := Text.segments '.' s
  if parts.getLast? = some [] then parts.dropLast else parts

/-- Whether a name ends in a number. -/
def endsInNumber (s : List Char) : Bool :=
  match (ipv4Parts s).getLast? with
  | none => false
  | some last => (last ≠ [] ∧ last.all Char.isDigit) || (ipv4Number? last).isSome

/-- The address whose numbers, from the first on, are the given ones; `count` bytes are left. -/
def ipv4OfNumbers? (count : Nat) : List Nat → Option Nat
  | [] => none
  | [last] => if last < 1 <<< (8 * count) then some last else none
  | n :: rest =>
    match count with
    | 0 => none
    | left + 1 =>
      if n < 256 then (ipv4OfNumbers? left rest).map (n <<< (8 * left) + ·) else none

/-- The address that a name denotes. -/
def ipv4? (s : List Char) : Option UInt32 :=
  let parts := ipv4Parts s
  if parts.length ≤ 4 then
    match parts.mapM ipv4Number? with
    | some numbers => (ipv4OfNumbers? 4 numbers).map UInt32.ofNat
    | none => none
  else none

/-- An address in its canonical form. -/
def ipv4Text (address : UInt32) : List Char :=
  let n := address.toNat
  Text.join '.' (([n / 0x1000000, n / 0x10000 % 256, n / 0x100 % 256, n % 256]).map Decimal.natural)

end HeaderBidding.Host
