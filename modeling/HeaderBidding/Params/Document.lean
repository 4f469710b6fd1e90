import HeaderBidding.Json.Print
import HeaderBidding.Json.Reader
import HeaderBidding.Text.Blank

/-!
# Parameters as a document

The parameters of an ad unit name the publisher, the tag and the size of the ad. They are an object,
in which each of the three has a short and a long name, or a list of the three values in this order;
values at the end of a list may be left out.
-/

namespace HeaderBidding

/-- Parameters as they are written: what is absent or blank is missing. -/
structure RawParams where
  publisherId : Option Int := none
  tagId : Option Int := none
  adSize : Option String := none
  deriving DecidableEq

/-- What has been read of parameters. -/
structure ParamsSlots where
  publisherId : Option (Option Int) := none
  tagId : Option (Option Int) := none
  adSize : Option (Option String) := none

namespace RawParams

/-- What parameters are expected to be. -/
def expected : String := "struct PulsepointParams"

/-- Reads an identifier: a whole number or a text that holds one. A blank text means that there is
none. -/
def identifier? : Json → Except Cause (Option Int)
  | .null => .ok none
  | .whole n =>
    if n.val < 0x8000000000000000 then .ok (some n.val)
    else .error (.custom ("invalid integer value " ++ (Json.whole n).toText))
  | .real x => .error (.custom ("invalid integer value " ++ (Json.real x).toText))
  | .text s =>
    match Text.trim s.toList with
    | [] => .ok none
    | trimmed =>
      match Decimal.intOf? trimmed with
      | some n =>
        if -0x8000000000000000 ≤ n ∧ n < 0x8000000000000000 then .ok (some n)
        else .error (.custom ("cannot parse \x60" ++ s ++ "\x60 as an integer"))
      | none => .error (.custom ("cannot parse \x60" ++ s ++ "\x60 as an integer"))
  | other => .error (.custom ("expected an integer, found " ++ other.toText))

/-- Reads a size, without looking into it. -/
def size? : Json → Except Cause (Option String)
  | .null => .ok none
  | .text s => .ok (some s)
  | other => .error (.wrongType other.found "a string")

/-- Reads a member. -/
def readMember (slots : ParamsSlots) (member : String × Json) : Except Cause ParamsSlots :=
  if member.1 = "cp" ∨ member.1 = "publisherId" then
    match slots.publisherId with
    | some _ => .error (.duplicateField "cp")
    | none => (identifier? member.2).map fun id => { slots with publisherId := some id }
  else if member.1 = "ct" ∨ member.1 = "tagId" then
    match slots.tagId with
    | some _ => .error (.duplicateField "ct")
    | none => (identifier? member.2).map fun id => { slots with tagId := some id }
  else if member.1 = "cf" ∨ member.1 = "adSize" then
    match slots.adSize with
    | some _ => .error (.duplicateField "cf")
    | none => (size? member.2).map fun size => { slots with adSize := some size }
  else .ok slots

/-- Reads members in their order. -/
def readMembers (slots : ParamsSlots) : List (String × Json) → Except Cause ParamsSlots
  | [] => .ok slots
  | member :: rest =>
    match readMember slots member with
    | .error cause => .error cause
    | .ok next => readMembers next rest

/-- The parameters of which some have been read. -/
def ofSlots (slots : ParamsSlots) : RawParams where
  publisherId := slots.publisherId.join
  tagId := slots.tagId.join
  adSize := slots.adSize.join

/-- Reads the values of a list. -/
def ofItems (items : List Json) : Except Cause RawParams :=
  match identifier? (items.getD 0 .null) with
  | .error cause => .error cause
  | .ok publisherId =>
    match identifier? (items.getD 1 .null) with
    | .error cause => .error cause
    | .ok tagId =>
      match size? (items.getD 2 .null) with
      | .error cause => .error cause
      | .ok adSize =>
        if items.length ≤ 3 then .ok { publisherId, tagId, adSize }
        else .error (.wrongLength items.length "fewer elements in array")

/-- Reads parameters. -/
def ofJson : Json → Except Cause RawParams
  | .list items => ofItems items
  | .object members => (readMembers {} members).map ofSlots
  | other => .error (.wrongType other.found expected)

end RawParams

end HeaderBidding
