import HeaderBidding.Decimal.Integer
import HeaderBidding.MockPartner.Words
import HeaderBidding.OpenRtb.Request
import HeaderBidding.OpenRtb.Response

/-!
# The bids of the mock partner

The mock partner bids for every impression, a random price above the floor. What it leaves to
chance is a `Chance`: the factors of the prices, drawn from some supply, and the identifiers.
-/

namespace HeaderBidding.MockPartner

open OpenRtb

/-- The price of an impression without a floor. -/
def defaultFloor : Float := 0.5

/-- What the mock partner leaves to chance, with a supply that is used up by and by. -/
structure Chance (σ : Type) where
  /-- Draws a double from `low` to below `high`. -/
  draw (low high : Float) : σ → Float × σ
  /-- The unique text in the identifier of the bid at a place. -/
  unique : Nat → String

/-- Factors drawn from words. -/
def Chance.ofWords (unique : Nat → String) : Chance Words where
  draw := MockPartner.draw
  unique

/-- The factor below which the price of an impression is drawn. -/
def factorLimit (isVideo : Bool) : Float :=
  if isVideo then 2.5 else 3.0

variable {σ : Type}

/-- The identifier of the bid at a place. -/
def Chance.bidId (chance : Chance σ) (place : Nat) : String :=
  "bid-" ++ chance.unique place

/-- Where an impression of the ad is reported. -/
def tracker (id : String) : String :=
  "http://pp-tracker.local/impression?bid=" ++ id

/-- The ad of a video. -/
def videoAd (id : String) : String :=
  "<VAST version=\"3.0\"><Ad id=\"" ++ id ++
    "\"><InLine><AdSystem>Mock PulsePoint</AdSystem><Impression><![CDATA[" ++ tracker id ++
    "]]></Impression></InLine></Ad></VAST>"

/-- The ad of a banner. -/
def bannerAd (id : String) : String :=
  "<html><body>Mock PulsePoint Banner<img src=\"" ++ tracker id ++
    "\" style=\"display:none;\" /></body></html>"

/-- The bid for an impression. Videos count before banners. -/
def bidFor (chance : Chance σ) (place : Nat) (imp : Imp) (supply : σ) : OpenRtb.Bid × σ :=
  let id := chance.bidId place
  let (factor, rest) := chance.draw 1.0 (factorLimit imp.video.isSome) supply
  let size := match imp.video with
    | some video => (video.w, video.h)
    | none => (imp.banner.bind Banner.w, imp.banner.bind Banner.h)
  let bid : OpenRtb.Bid :=
    { id
      impid := imp.id
      price := imp.bidfloor.getD defaultFloor * factor
      adm := some (if imp.video.isSome then videoAd id else bannerAd id)
      crid := some ("crid-" ++ imp.tagid.getD "0")
      w := size.1
      h := size.2
      adomain := ["advertiser.example"] }
  (bid, rest)

/-- The bids for impressions, from a place on. -/
def bidsFor (chance : Chance σ) (place : Nat) : List Imp → σ → List OpenRtb.Bid
  | [], _ => []
  | imp :: imps, supply =>
    let (bid, rest) := bidFor chance place imp supply
    bid :: bidsFor chance (place + 1) imps rest

/-- The reason not to bid. -/
def noImpressions : Int32 := 2

/-- The answer to a bid request. -/
def respond (request : BidRequest) (chance : Chance σ) (supply : σ) : BidResponse :=
  match bidsFor chance 0 request.imp supply with
  | [] => { id := request.id, nbr := some noImpressions }
  | bids =>
    { id := request.id
      seatbid := [{ bid := bids, seat := some "pulsepoint" }]
      cur := some "USD" }

end HeaderBidding.MockPartner
