import HeaderBidding.Decimal.Integer
import HeaderBidding.Text.Utf8

/-!
# Percent encoding

A byte that may not stand in a part of an address is written as a percent sign and two hexadecimal
digits. Which bytes that are depends on the part.
-/

namespace HeaderBidding.Url

/-- The upper case hexadecimal digit of a number below 16. -/
def upperDigit (n : Nat) : Char :=
  (Decimal.hexDigit n).toUpper

/-- A byte in percent encoding. -/
def percentByte (b : UInt8) : List Char :=
  ['%', upperDigit (b.toNat / 16), upperDigit (b.toNat % 16)]

/-- A part of an address, in which the characters of ASCII that fulfil `escaped` are encoded, and
all others. -/
def percentEncode (escaped : Char → Bool) (s : List Char) : List Char :=
  s.flatMap fun c =>
    if 128 ≤ c.toNat || escaped c then (Text.Utf8.encodeChar c).flatMap percentByte else [c]

/-- The bytes that a part of an address stands for. -/
def percentDecode : List Char → List UInt8
  | [] => []
  | '%' :: a :: b :: rest =>
    match Decimal.hexValue? a, Decimal.hexValue? b with
    | some m, some n => .ofNat (16 * m + n) :: percentDecode rest
    | _, _ => .ofNat 37 :: percentDecode (a :: b :: rest)
  | c :: rest => Text.Utf8.encodeChar c ++ percentDecode rest

/-- Control characters. -/
def isControl (c : Char) : Bool :=
  c.toNat < 32 || c.toNat == 127

/-- What is encoded in a fragment. -/
def inFragment (c : Char) : Bool :=
  isControl c || " \"<>\x60".toList.contains c

/-- What is encoded in a path. -/
def inPath (c : Char) : Bool :=
  inFragment c || "#?\x7b\x7d".toList.contains c

/-- What is encoded in the name and the password of a user. -/
def inUserinfo (c : Char) : Bool :=
  inPath c || "/:;=@[\\]^|".toList.contains c

/-- What is encoded in a query. -/
def inQuery (c : Char) : Bool :=
  isControl c || " \"#<>".toList.contains c

/-- What is encoded in a query of an address of a well-known scheme. -/
def inSpecialQuery (c : Char) : Bool :=
  inQuery c || c == '\''

end HeaderBidding.Url
