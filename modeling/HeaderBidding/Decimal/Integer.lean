/-!
# Whole numbers in decimal

`natural` and `integer` write a number in its canonical form: no sign but a minus, no leading
zero. `naturalOf?` reads any non-empty run of digits, `natOf?` allows a plus sign in front of it,
and `intOf?` either sign.
-/

namespace HeaderBidding.Decimal

/-- The digit of a number below ten. -/
def digit (n : Nat) : Char :=
  Char.ofNat (48 + n)

/-- The number of a digit. -/
def digitValue (c : Char) : Nat :=
  c.toNat - 48

/-- The canonical digits of a natural number. -/
def natural (n : Nat) : List Char :=
  if n < 10 then [digit n] else natural (n / 10) ++ [digit (n % 10)]

/-- The canonical form of an integer. -/
def integer (n : Int) : List Char :=
  if n < 0 then '-' :: natural n.natAbs else natural n.natAbs

/-- The number that a run of digits denotes, after the digits that denote `start`. -/
def valueFrom (start : Nat) (digits : List Char) : Nat :=
  digits.foldl (fun n c => 10 * n + digitValue c) start

/-- The number that a text of digits alone denotes. -/
def naturalOf? (s : List Char) : Option Nat :=
  if s ≠ [] ∧ s.all Char.isDigit then some (valueFrom 0 s) else none

/-- The number that digits with an optional plus sign denote. -/
def natOf? : List Char → Option Nat
  | '+' :: digits => naturalOf? digits
  | s => naturalOf? s

/-- The number that digits with an optional sign denote. -/
def intOf? : List Char → Option Int
  | '-' :: digits => (naturalOf? digits).map fun n => -(n : Int)
  | s => (natOf? s).map Int.ofNat

/-- The text of a natural number. -/
def naturalText (n : Nat) : String :=
  String.ofList (natural n)

/-- The text of an integer. -/
def integerText (n : Int) : String :=
  String.ofList (integer n)

/-- The lower case digit of a number below sixteen. -/
def hexDigit (n : Nat) : Char :=
  if n < 10 then Char.ofNat (48 + n) else Char.ofNat (87 + n)

/-- The number of a hexadecimal digit of either case. -/
def hexValue? (c : Char) : Option Nat :=
  if c.isDigit then some (c.toNat - 48)
  else if 'a' ≤ c ∧ c ≤ 'f' then some (c.toNat - 87)
  else if 'A' ≤ c ∧ c ≤ 'F' then some (c.toNat - 55)
  else none

/-- The hexadecimal digits of a natural number, in lower case. -/
def hexadecimal (n : Nat) : List Char :=
  if n < 16 then [hexDigit n] else hexadecimal (n / 16) ++ [hexDigit (n % 16)]

end HeaderBidding.Decimal
