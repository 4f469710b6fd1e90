import HeaderBidding.Text.CaseData

/-!
# Lower case

Every character has its own lower case form, apart from two rules: a capital sigma that ends a
word becomes the final sigma, and the capital I with a dot becomes an i and a combining dot.
-/

namespace HeaderBidding.Text

/-- The capital sigma, whose lower case depends on its place in the word. -/
def capitalSigma : Char := '\u03a3'

/-- The capital I with a dot above, the only character with a lower case form of two. -/
def dottedCapitalI : Char := '\u0130'

/-- The lower case form of a character by itself. -/
def lowerChar (c : Char) : Char :=
  match lowerRuns.find? (·.has c.toNat) with
  | some run => Char.ofNat (c.toNat + run.shift).toNat
  | none => c

/-- Whether the first character that case does not ignore is a cased one. -/
def reachesCased (s : List Char) : Bool :=
  match s.dropWhile caseIgnorable.has with
  | [] => false
  | c :: _ => cased.has c

/-- The lower case of `s`, where `before` is the text in front of it in reverse order. -/
def lowerAfter (before : List Char) : List Char → List Char
  | [] => []
  | c :: rest =>
    let here :=
      if c = capitalSigma then
        [if reachesCased before && !reachesCased rest then '\u03c2' else '\u03c3']
      else if c = dottedCapitalI then ['i', '\u0307']
      else [lowerChar c]
    here ++ lowerAfter (c :: before) rest

/-- The lower case of a text. -/
def lowercase (s : List Char) : List Char :=
  lowerAfter [] s

end HeaderBidding.Text
