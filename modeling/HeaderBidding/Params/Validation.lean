import HeaderBidding.AdUnit
import HeaderBidding.Params.Document
import HeaderBidding.Params.Size

/-!
# Validated parameters

`AdUnit.partnerParams` is what the parameters of an ad unit come down to: two identifiers in
canonical form and a size. The first reason to reject them counts, in a fixed order.
-/

namespace HeaderBidding

/-- The parameters of an ad unit. -/
structure PartnerParams where
  publisherId : String
  tagId : String
  width : UInt32
  height : UInt32
  deriving DecidableEq

/-- An identifier, unless it is zero. -/
def RawParams.nonzero? (id : Option Int) : Option Int :=
  id.filter (· ≠ 0)

/-- Checks parameters that have been read. -/
def RawParams.validate (raw : RawParams) : Except ParamsError PartnerParams :=
  match nonzero? raw.publisherId with
  | none => .error .missingPublisherId
  | some publisherId =>
    match nonzero? raw.tagId with
    | none => .error .missingTagId
    | some tagId =>
      match raw.adSize.filter (· ≠ "") with
      | none => .error .missingAdSize
      | some size =>
        match AdSize.ofText size with
        | .error e => .error e
        | .ok ⟨width, height⟩ =>
          .ok
            { publisherId := Decimal.integerText publisherId
              tagId := Decimal.integerText tagId
              width
              height }

/-- The parameters of a document. -/
def PartnerParams.ofJson (document : Json) : Except ParamsError PartnerParams :=
  match RawParams.ofJson document with
  | .error cause => .error (.malformed cause.message)
  | .ok raw => raw.validate

/-- The validated parameters of an ad unit. -/
def AdUnit.partnerParams (unit : AdUnit) : Except ParamsError PartnerParams :=
  match unit.params with
  | none | some .null => .error .missingParams
  | some document => PartnerParams.ofJson document

end HeaderBidding
