import HeaderBidding.Decimal.Integer
import HeaderBidding.Wire.Head

/-!
# Bodies of messages

The head of a message says where its body ends: after a number of bytes, with the last of its
chunks, or with the connection.
-/

namespace HeaderBidding.Wire

/-- Where a body ends. -/
inductive Framing where
  | empty
  | counted (bytes : Nat)
  | chunked
  | toTheEnd
  deriving DecidableEq

/-- Where a body ends, as its headers say it. -/
def Framing.ofHeaders (headers : List (String × String)) (default : Framing) : Framing :=
  if (headers.lookup "transfer-encoding").isSome then .chunked
  else
    match (headers.lookup "content-length").bind fun length => Decimal.naturalOf? length.toList with
    | some bytes => .counted bytes
    | none => default

/-- What can be said of a message of which some bytes have been received. -/
inductive Progress (α : Type) where
  /-- It goes on. -/
  | more
  | done (a : α)
  /-- It is none. -/
  | broken

/-- Cuts bytes behind the first line. -/
def cutLine? : List UInt8 → Option (List UInt8 × List UInt8)
  | 13 :: 10 :: rest => some ([], rest)
  | b :: rest => (cutLine? rest).map fun (line, after) => (b :: line, after)
  | [] => none

theorem cutLine?_shrinks {s line after : List UInt8} (h : cutLine? s = some (line, after)) :
    after.length < s.length := by
  fun_induction cutLine? s generalizing line with
  | case1 rest =>
    obtain ⟨-, rfl⟩ := Prod.mk.inj (Option.some.inj h)
    simp only [List.length_cons]
    omega
  | case2 b rest _ ih =>
    obtain ⟨⟨line', after'⟩, hr, he⟩ := Option.map_eq_some_iff.1 h
    obtain ⟨-, rfl⟩ := Prod.mk.inj he
    have := ih hr
    simp only [List.length_cons]
    omega
  | case3 => simp at h

/-- The number of bytes of a chunk, by the line in front of it. -/
def chunkSize? (line : List UInt8) : Option Nat :=
  match (line.map fun b => Decimal.hexValue? (Char.ofNat b.toNat)).takeWhile Option.isSome with
  | [] => none
  | digits => some (digits.foldl (fun n d => 16 * n + d.getD 0) 0)

/-- Reads chunks behind those whose bytes are `before`. -/
def readChunks (before s : List UInt8) : Progress (List UInt8) :=
  match h : cutLine? s with
  | none => .more
  | some (line, rest) =>
    match chunkSize? line with
    | none => .broken
    | some 0 => .done before
    | some size =>
      if rest.length < size + 2 then .more
      else
        have := cutLine?_shrinks h
        readChunks (before ++ rest.take size) (rest.drop (size + 2))
termination_by s.length
decreasing_by
  simp only [List.length_drop]
  omega

/-- A body, and whether it is whole. -/
structure Body where
  bytes : List UInt8
  isWhole : Bool

/-- Reads a body. A body that goes on when there is nothing more to come is not whole. -/
def readBody (framing : Framing) (isClosed : Bool) (s : List UInt8) : Progress Body :=
  match framing with
  | .empty => .done ⟨[], true⟩
  | .counted bytes =>
    if bytes ≤ s.length then .done ⟨s.take bytes, true⟩
    else if isClosed then .done ⟨s, false⟩
    else .more
  | .chunked =>
    match readChunks [] s with
    | .done bytes => .done ⟨bytes, true⟩
    | .more => if isClosed then .done ⟨[], false⟩ else .more
    | .broken => .done ⟨[], false⟩
  | .toTheEnd => if isClosed then .done ⟨s, true⟩ else .more

end HeaderBidding.Wire
