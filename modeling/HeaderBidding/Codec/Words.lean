import HeaderBidding.Codec.Basic

/-!
# Words of fixed width

The types of whole numbers that stand in documents, each with its range.
-/

namespace HeaderBidding.Word

/-- Signed words of 32 bits. -/
def int32 : Word Int32 where
  name := "i32"
  toWhole n := ⟨n.toInt, by have := n.le_toInt; omega, by have := n.toInt_lt; omega⟩
  ofWhole? n :=
    if -0x80000000 ≤ n.val ∧ n.val < 0x80000000 then some (Int32.ofInt n.val) else none
  ofWhole?_toWhole n := by
    have := n.le_toInt
    have := n.toInt_lt
    simp only [Int32.ofInt_toInt]
    rw [if_pos (by omega)]

/-- Unsigned words of 32 bits. -/
def uint32 : Word UInt32 where
  name := "u32"
  toWhole n := ⟨n.toNat, by omega, by have := n.toNat_lt; omega⟩
  ofWhole? n := if 0 ≤ n.val ∧ n.val < 0x100000000 then some (UInt32.ofNat n.val.toNat) else none
  ofWhole?_toWhole n := by
    have := n.toNat_lt
    simp only [Int.toNat_natCast, UInt32.ofNat_toNat]
    rw [if_pos (by omega)]

/-- Unsigned words of 64 bits. -/
def uint64 : Word UInt64 where
  name := "u64"
  toWhole := Whole.ofUInt64
  ofWhole? n := if 0 ≤ n.val then some (UInt64.ofNat n.val.toNat) else none
  ofWhole?_toWhole n := by
    simp only [Whole.ofUInt64, Int.toNat_natCast, UInt64.ofNat_toNat]
    rw [if_pos (by omega)]

/-- Unsigned words of 16 bits. -/
def uint16 : Word UInt16 where
  name := "u16"
  toWhole n := ⟨n.toNat, by omega, by have := n.toNat_lt; omega⟩
  ofWhole? n := if 0 ≤ n.val ∧ n.val < 0x10000 then some (UInt16.ofNat n.val.toNat) else none
  ofWhole?_toWhole n := by
    have := n.toNat_lt
    simp only [Int.toNat_natCast, UInt16.ofNat_toNat]
    rw [if_pos (by omega)]

end HeaderBidding.Word
