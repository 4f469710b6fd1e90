import HeaderBidding.AuctionContext
import HeaderBidding.Log
import HeaderBidding.OpenRtb.Request
import HeaderBidding.Params.Validation

/-!
# From ad units to a bid request

`validate` checks all ad units before anything is built: first the media they declare, then their
parameters. `bidRequest` turns the checked ones into a bid request, with a banner and a video for
each ad unit as far as it declares them, in this order.
-/

namespace HeaderBidding

open OpenRtb

/-- An ad unit with its validated parameters. -/
structure ValidUnit where
  unit : AdUnit
  params : PartnerParams

/-- The media that the partner serves, in the order of their impressions. -/
def servedMedia : List MediaType := [.banner, .video]

namespace AdUnit

/-- Whether the ad unit says what videos it shows. -/
def hasVideoData (unit : AdUnit) : Bool :=
  unit.video.any fun video => !video.mimes.isEmpty

/-- Refuses an ad unit that declares video and does not say which. -/
def checkMedia (unit : AdUnit) : Traced AdapterError Unit :=
  if .video ∈ unit.mediaTypes ∧ unit.hasVideoData = false then do
    Traced.log (.videoWithoutData unit.code)
    Traced.fail (.videoWithoutData unit.code)
  else pure ()

/-- The media of the ad unit that the partner serves, each once. -/
def allowedMedia (unit : AdUnit) : List MediaType :=
  servedMedia.filter (· ∈ unit.mediaTypes)

/-- The media of the ad unit that the partner does not serve. -/
def skippedMedia (unit : AdUnit) : List MediaType :=
  unit.mediaTypes.filter (· ∉ servedMedia)

/-- What is logged of the media that are skipped, if there are any. -/
def skipEvents (unit : AdUnit) : List Event :=
  match unit.skippedMedia with
  | [] => []
  | skipped => [.mediaTypesSkipped unit.code skipped]

/-- Validates the parameters of an ad unit. -/
def checkParams (unit : AdUnit) : Traced AdapterError ValidUnit :=
  match unit.partnerParams with
  | .ok params => pure { unit, params }
  | .error e => do
    Traced.log (.paramsRejected unit.code e)
    Traced.fail (.params e)

end AdUnit

/-- Checks ad units in their order, up to the first that fails. -/
def checkAll {α : Type} (check : AdUnit → Traced AdapterError α) :
    List AdUnit → Traced AdapterError (List α)
  | [] => pure []
  | unit :: rest => do
    let first ← check unit
    let others ← checkAll check rest
    pure (first :: others)

/-- Validates all ad units: the media of all of them come before the parameters of any. -/
def validate (units : List AdUnit) : Traced AdapterError (List ValidUnit) := do
  let _ ← checkAll AdUnit.checkMedia units
  checkAll AdUnit.checkParams units

/-! ## Impressions -/

namespace ValidUnit

/-- The banner of an ad unit. Its size comes from the parameters, its formats from the ad unit. -/
def banner (valid : ValidUnit) : Banner where
  w := some valid.params.width
  h := some valid.params.height
  format := valid.unit.sizes
  topframe := valid.unit.topframe

/-- The video of an ad unit that has video parameters. Its size is the first of the ad unit. -/
def video? (valid : ValidUnit) : Option Video :=
  valid.unit.video.map fun video =>
    { mimes := video.mimes
      minduration := video.minduration
      maxduration := video.maxduration
      w := valid.unit.sizes.head?.map Format.w
      h := valid.unit.sizes.head?.map Format.h
      startdelay := video.startdelay
      playbackmethod := video.playbackMethod.toList
      protocols := video.protocols }

/-- What all impressions of an ad unit have in common. -/
def impBase (valid : ValidUnit) (context : AuctionContext) : Imp where
  id := valid.unit.code
  instl := valid.unit.instl
  tagid := some valid.params.tagId
  secure := context.secure

/-- The impression of an ad unit for a kind of media. -/
def imp? (valid : ValidUnit) (context : AuctionContext) : MediaType → Option Imp
  | .banner => some { valid.impBase context with banner := some valid.banner }
  | .video => valid.video?.map fun video => { valid.impBase context with video := some video }
  | .native | .audio => none

/-- The impressions of an ad unit. -/
def imps (valid : ValidUnit) (context : AuctionContext) : List Imp :=
  valid.unit.allowedMedia.filterMap (valid.imp? context)

end ValidUnit

/-! ## The request -/

/-- The publisher of a request: that of the last ad unit. -/
def publisherOf (valid : List ValidUnit) : Publisher where
  id := valid.getLast?.map (·.params.publisherId)

/-- The app of a request, with the publisher. -/
def AuctionContext.appFor (context : AuctionContext) (publisher : Publisher) : Option App :=
  context.app.map fun app => { app with publisher := some publisher }

/-- The site of a request, with the publisher. There is none if there is an app. -/
def AuctionContext.siteFor (context : AuctionContext) (publisher : Publisher) : Option Site :=
  match context.app with
  | some _ => none
  | none => context.site.map fun site => { site with publisher := some publisher }

/-- A first price auction. -/
def firstPrice : Int32 := 1

/-- The request for some impressions. -/
def requestFor (imps : List Imp) (publisher : Publisher) (context : AuctionContext) :
    BidRequest where
  id := context.tid
  imp := imps
  app := context.appFor publisher
  site := context.siteFor publisher
  device := context.device
  user := context.user
  source := context.source
  auctionType := some firstPrice
  tmax := context.timeoutMillis

/-- The bid request for validated ad units. -/
def bidRequest (valid : List ValidUnit) (context : AuctionContext) :
    Traced AdapterError BidRequest := do
  Traced.logAll (valid.flatMap (·.unit.skipEvents))
  match valid.flatMap (·.imps context) with
  | [] => Traced.fail .noValidImpressions
  | imps =>
    if context.app.isSome ∧ context.site.isSome then
      Traced.log (.siteDropped context.tid)
    pure (requestFor imps (publisherOf valid) context)

end HeaderBidding
