import HeaderBidding.Host.Ipv4

/-!
# Addresses of 128 bits

An address has eight pieces of 16 bits. A run of zeros may be left out once, and the last two
pieces may be written as an address of 32 bits.
-/

namespace HeaderBidding.Host

/-- The value of a byte of an address of 32 bits, which has no leading zero. -/
def byteOf? (s : List Char) : Option Nat :=
  match s with
  | [] => none
  | ['0'] => some 0
  | '0' :: _ => none
  | digits =>
    match numberIn? 10 digits with
    | some n => if n < 256 then some n else none
    | none => none

/-- The two pieces of an address of 32 bits. -/
def embedded? (s : List Char) : Option (List Nat) :=
  match (Text.segments '.' s).mapM byteOf? with
  | some [a, b, c, d] => some [a * 256 + b, c * 256 + d]
  | _ => none

/-- The value of a piece: one to four hexadecimal digits. -/
def piece? (s : List Char) : Option Nat :=
  if s ≠ [] ∧ s.length ≤ 4 then numberIn? 16 s else none

/-- The pieces between colons; the last part may be an address of 32 bits. -/
def pieces? : List (List Char) → Option (List Nat)
  | [] => some []
  | [last] => if last.contains '.' then embedded? last else (piece? last).map ([·])
  | part :: rest => do
    let first ← piece? part
    let others ← pieces? rest
    pure (first :: others)

/-- The pieces of a text that leaves nothing out; an empty text has none. -/
def piecesOf? (s : List Char) : Option (List Nat) :=
  if s = [] then some [] else pieces? (Text.segments ':' s)

/-- Cuts a text at the first double colon. -/
def cutDoubleColon : List Char → Option (List Char × List Char)
  | ':' :: ':' :: rest => some ([], rest)
  | c :: rest => (cutDoubleColon rest).map fun (before, after) => (c :: before, after)
  | [] => none

/-- Whether the pieces before a double colon may end in an address of 32 bits. They may not. -/
def isPlain (s : List Char) : Bool :=
  !s.contains '.'

/-- The pieces of an address. -/
def ipv6? (s : List Char) : Option (List Nat) :=
  match cutDoubleColon s with
  | some (before, after) =>
    if isPlain before then
      match piecesOf? before, piecesOf? after with
      | some first, some last =>
        if first.length + last.length ≤ 7 then
          some (first ++ List.replicate (8 - first.length - last.length) 0 ++ last)
        else none
      | _, _ => none
    else none
  | none =>
    match piecesOf? s with
    | some pieces => if pieces.length = 8 then some pieces else none
    | none => none

/-! ## Canonical form -/

/-- The number of zeros at the front. -/
def leadingZeros (pieces : List Nat) : Nat :=
  (pieces.takeWhile (· == 0)).length

/-- The first of the longest runs of at least two zeros: where it begins and its length. -/
def longestZeros (place : Nat) : List Nat → Option (Nat × Nat)
  | [] => none
  | piece :: rest =>
    let here := leadingZeros (piece :: rest)
    match longestZeros (place + 1) rest with
    | some (start, length) =>
      if here ≥ 2 ∧ here ≥ length then some (place, here) else some (start, length)
    | none => if here ≥ 2 then some (place, here) else none

/-- Pieces between colons. -/
def piecesText (pieces : List Nat) : List Char :=
  Text.join ':' (pieces.map Decimal.hexadecimal)

/-- An address in its canonical form. -/
def ipv6Text (pieces : List Nat) : List Char :=
  match longestZeros 0 pieces with
  | none => piecesText pieces
  | some (start, length) =>
    piecesText (pieces.take start) ++ [':', ':'] ++ piecesText (pieces.drop (start + length))

end HeaderBidding.Host
