import HeaderBidding.Bid
import HeaderBidding.Log
import HeaderBidding.OpenRtb.Response

/-!
# From a bid response to bids

Every bid of a response belongs to the ad unit whose code its impression names. A bid for an
impression that was never sent makes the whole response void.
-/

namespace HeaderBidding

open OpenRtb (BidResponse)

/-- The ad unit with a code; of several the first. -/
def unitFor? (units : List AdUnit) (code : String) : Option AdUnit :=
  units.find? (·.code = code)

/-- What a bid for an ad unit says. -/
def Draft.ofBid (unit : AdUnit) (bid : OpenRtb.Bid) : Draft where
  bidder := some unit.bidderCode
  bidId := some unit.bidId
  code := some bid.impid
  price := some bid.price
  adm := some bid.adm
  creativeId := some bid.crid
  width := some bid.w
  height := some bid.h

/-- The draft of a bid for one of the ad units. -/
def draftFor (units : List AdUnit) (bid : OpenRtb.Bid) : Traced AdapterError Draft :=
  match unitFor? units bid.impid with
  | some unit => pure (Draft.ofBid unit bid)
  | none => do
    Traced.log (.unknownImpression bid.impid)
    Traced.fail (.unknownImpression bid.impid)

/-- The drafts of bids, up to the first that cannot be attributed. -/
def draftsFor (units : List AdUnit) : List OpenRtb.Bid → Traced AdapterError (List Draft)
  | [] => pure []
  | bid :: rest => do
    let first ← draftFor units bid
    let others ← draftsFor units rest
    pure (first :: others)

/-- The drafts of all bids of a response, if there is one. -/
def extract (units : List AdUnit) (response : Option BidResponse) :
    Traced AdapterError (List Draft) :=
  match response with
  | none => pure []
  | some response => draftsFor units response.bids

end HeaderBidding
