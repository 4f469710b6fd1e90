import HeaderBidding.Host.Direction
import HeaderBidding.Host.Joining
import HeaderBidding.Host.Mapping
import HeaderBidding.Host.Punycode
import HeaderBidding.Text.Normal
import HeaderBidding.Text.Segments

/-!
# Domain names

`domainToAscii?` gives the form of a domain name in which it is looked up: labels with characters
beyond ASCII are in Punycode, behind the mark `xn--`. Labels that come in this form are taken apart
and checked like all others.
-/

namespace HeaderBidding.Host

/-- The mark in front of a label in Punycode. -/
def asciiMark : List Char := ['x', 'n', '-', '-']

/-- The longest text that is read as Punycode, and the longest that is written in it. -/
def decodeLimit : Nat := 2000

/-- The longest label that is written in Punycode. -/
def encodeLimit : Nat := 1000

/-- Whether a character of ASCII may not stand in a domain name. -/
def isForbidden (c : Char) : Bool :=
  c.toNat ≤ 32 || c.toNat == 127 || "#%/:<>?@[\\]^|".toList.contains c

/-- Whether a text is all ASCII. -/
def isAscii (s : List Char) : Bool :=
  s.all fun c => c.toNat < 128

/-- The label that stands behind the mark, if it may be written so. -/
def decodeLabel? (s : List Char) : Option (List Char) :=
  if s.length ≤ decodeLimit then
    match Punycode.decode? s with
    | some label =>
      if !isAscii label && label.all isValid && !asciiMark.isPrefixOf label &&
          Text.composed label == label then some label
      else none
    | none => none
  else none

/-- A label of a mapped name, taken out of its Punycode. -/
def label? (s : List Char) : Option (List Char) :=
  if asciiMark.isPrefixOf s then decodeLabel? (s.drop asciiMark.length) else some s

/-- Whether a label may stand in a name. -/
def labelSound (label : List Char) : Bool :=
  !(label.any isForbidden) && !beginsWithMark label && joinersSound [] label

/-- A label in ASCII. -/
def encodeLabel? (label : List Char) : Option (List Char) :=
  if isAscii label then some label
  else if label.length ≤ encodeLimit then some (asciiMark ++ Punycode.encode label)
  else none

/-- The composed form of a mapped name. Names in ASCII are composed as they are. -/
def composedName (s : List Char) : List Char :=
  if isAscii s then s else Text.composed s

/-- The form in which a domain name is looked up, if it is one. -/
def domainToAscii? (domain : List Char) : Option (List Char) :=
  match mapText? domain with
  | none => none
  | some mapped =>
    match (Text.segments '.' (composedName mapped)).mapM label? with
    | none => none
    | some labels =>
      if labels.all labelSound && (labels.all isAscii || directionsSound labels) then
        (labels.mapM encodeLabel?).map (Text.join '.')
      else none

end HeaderBidding.Host
