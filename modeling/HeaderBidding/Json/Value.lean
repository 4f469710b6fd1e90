/-!
# Documents

`Json` is a document in memory. Numbers without a point or an exponent that fit a signed or an
unsigned word of 64 bits are whole, all others are doubles, and the two are never equal. The
members of an object stand in the order in which they are written; a free-form object keeps them
sorted by key, each key once, which `insertMember` maintains.
-/

namespace HeaderBidding

/-- An integer that fits a signed or an unsigned word of 64 bits. -/
structure Whole where
  val : Int
  lower : -0x8000000000000000 ≤ val
  upper : val < 0x10000000000000000
  deriving DecidableEq

/-- A document. -/
inductive Json where
  | null
  | bool (b : Bool)
  | whole (n : Whole)
  | real (x : Float)
  | text (s : String)
  | list (items : List Json)
  | object (members : List (String × Json))
  deriving Inhabited

namespace Whole

/-- The whole number `n`, if it fits. -/
def ofInt? (n : Int) : Option Whole :=
  if h : -0x8000000000000000 ≤ n ∧ n < 0x10000000000000000 then some ⟨n, h.1, h.2⟩ else none

theorem ofInt?_val (n : Whole) : ofInt? n.val = some n := by
  rw [ofInt?, dif_pos ⟨n.lower, n.upper⟩]

/-- The whole number of an unsigned word. -/
def ofUInt64 (n : UInt64) : Whole where
  val := n.toNat
  lower := by omega
  upper := by have := n.toNat_lt; omega

/-- The double nearest to a whole number. -/
def toFloat (n : Whole) : Float :=
  if n.val < 0 then -n.val.natAbs.toUInt64.toFloat else n.val.natAbs.toUInt64.toFloat

instance : Inhabited Whole := ⟨⟨0, by decide, by decide⟩⟩

end Whole

namespace Json

mutual

/-- Equality of documents. Doubles are compared as numbers, so that the two zeros are equal. -/
def beq : Json → Json → Bool
  | .null, .null => true
  | .bool a, .bool b => a == b
  | .whole a, .whole b => a == b
  | .real a, .real b => a == b
  | .text a, .text b => a == b
  | .list a, .list b => beqItems a b
  | .object a, .object b => beqMembers a b
  | _, _ => false

/-- Equality of lists of documents. -/
def beqItems : List Json → List Json → Bool
  | [], [] => true
  | a :: as, b :: bs => beq a b && beqItems as bs
  | _, _ => false

/-- Equality of members, in their order. -/
def beqMembers : List (String × Json) → List (String × Json) → Bool
  | [], [] => true
  | (k, a) :: as, (l, b) :: bs => k == l && beq a b && beqMembers as bs
  | _, _ => false

end

instance : BEq Json := ⟨beq⟩

/-- The value of the first member with a key. -/
def member? (key : String) (members : List (String × Json)) : Option Json :=
  members.lookup key

/-- Puts a value under a key into entries sorted by key. A value that was there is replaced. -/
def insertMember {α : Type} (key : String) (value : α) :
    List (String × α) → List (String × α)
  | [] => [(key, value)]
  | (k, v) :: rest =>
    if key < k then (key, value) :: (k, v) :: rest
    else if key = k then (key, value) :: rest
    else (k, v) :: insertMember key value rest

end Json

end HeaderBidding
