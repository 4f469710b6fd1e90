import HeaderBidding.Host.MappingData
import HeaderBidding.Text.Table

/-!
# How domain names are written

Before a domain name is looked at, its characters are replaced by the ones with which they are the
same in names: capitals by small letters, wide forms by narrow ones, and so on. Some characters mean
nothing and are left out, others cannot stand in a name.
-/

namespace HeaderBidding.Host

open Text (Ranges tableEntries)

/-- Characters beyond ASCII that may stand in a name. -/
def validRanges : Ranges := Ranges.ofTable validTable

/-- Characters that are left out. -/
def ignoredRanges : Ranges := Ranges.ofTable ignoredTable

/-- Characters that are replaced by one other: first, last, step, and what the first becomes. -/
def singleRuns : List (Nat × Nat × Nat × Nat) :=
  (tableEntries singleTable).filterMap fun
    | [c, image] => some (c, c, 1, image)
    | [first, last, step, image] => some (first, last, step, image)
    | _ => none

/-- Characters that are replaced by several others. -/
def severals : List (List Nat) := tableEntries severalTable

/-- Whether a character may stand in a name as it is. -/
def isValid (c : Char) : Bool :=
  if c.toNat < 128 then !c.isUpper else validRanges.has c

/-- What a character is replaced by, if it may stand in a name at all. -/
def mapChar? (c : Char) : Option (List Char) :=
  let n := c.toNat
  if n < 128 then some [c.toLower]
  else if validRanges.has c then some [c]
  else if ignoredRanges.has c then some []
  else
    match singleRuns.find? fun (first, last, step, _) =>
      first ≤ n && n ≤ last && (n - first) % step == 0 with
    | some (first, _, _, image) => some [Char.ofNat (image + (n - first))]
    | none =>
      match severals.find? (·.head? == some n) with
      | some (_ :: image) => some (image.map Char.ofNat)
      | _ => none

/-- What a text is replaced by. -/
def mapText? (s : List Char) : Option (List Char) :=
  (s.mapM mapChar?).map List.flatten

end HeaderBidding.Host
