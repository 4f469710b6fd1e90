import HeaderBidding.OpenRtb.Imp

/-!
# Ad units

What a caller offers to the partner: ad units with their sizes, the kinds of media that may be
shown there, and parameters that mean something to the partner alone.
-/

namespace HeaderBidding

open OpenRtb (Format)

/-- A kind of media. -/
inductive MediaType where
  | banner
  | video
  | native
  | audio
  deriving DecidableEq

namespace MediaType

/-- The name of a kind of media in documents. -/
def name : MediaType → String
  | banner => "banner"
  | video => "video"
  | native => "native"
  | audio => "audio"

/-- The name of a kind of media in diagnostics. -/
def title : MediaType → String
  | banner => "Banner"
  | video => "Video"
  | native => "Native"
  | audio => "Audio"

/-- The kinds of media by their names. -/
def choice : Choice MediaType where
  names := [("banner", banner), ("video", video), ("native", native), ("audio", audio)]
  nameOf := name
  lookup_nameOf a := by cases a <;> rfl

/-- Kinds of media in documents. -/
def codec : Codec MediaType := .choice choice

end MediaType

/-- What a caller says about the videos of an ad unit. -/
structure VideoParams where
  mimes : List String := []
  minduration : Option Int32 := none
  maxduration : Option Int32 := none
  startdelay : Option Int32 := none
  playbackMethod : Option Int32 := none
  protocols : List Int32 := []
  deriving DecidableEq

/-- An ad unit offered to a bidder. -/
structure AdUnit where
  bidderCode : String := ""
  bidId : String := ""
  code : String := ""
  sizes : List Format := []
  topframe : Option Int32 := none
  instl : Option Int32 := none
  mediaTypes : List MediaType := []
  video : Option VideoParams := none
  params : Option Json := none
  deriving BEq

/-- The ad units of one call to a bidder. -/
structure Batch where
  bidderCode : String := ""
  units : List AdUnit := []
  deriving BEq

/-- Video parameters in documents. -/
def VideoParams.codec : Codec VideoParams :=
  .record "VideoParams"
    (.defaulted "mimes" [] (.list .text) <|
     .nullable "minduration" (.word .int32) <|
     .nullable "maxduration" (.word .int32) <|
     .nullable "startdelay" (.word .int32) <|
     .nullable "playbackMethod" (.word .int32) <|
     .defaulted "protocols" [] (.list (.word .int32))
     .nil)
    { make := fun (mimes, minduration, maxduration, startdelay, playbackMethod, protocols, ()) =>
        { mimes, minduration, maxduration, startdelay, playbackMethod, protocols }
      parts := fun a => (a.mimes, a.minduration, a.maxduration, a.startdelay, a.playbackMethod,
        a.protocols, ())
      make_parts := fun _ => rfl }

/-- Ad units in documents. -/
def AdUnit.codec : Codec AdUnit :=
  .record "AdUnitBid"
    (.required "bidderCode" .text <|
     .required "bidId" .text <|
     .required "adUnitCode" .text <|
     .defaulted "sizes" [] (.list Format.codec) <|
     .nullable "topframe" (.word .int32) <|
     .nullable "instl" (.word .int32) <|
     .defaulted "mediaTypes" [] (.list MediaType.codec) <|
     .nullable "video" VideoParams.codec <|
     .nullable "params" .free
     .nil)
    { make := fun
        (bidderCode, bidId, code, sizes, topframe, instl, mediaTypes, video, params, ()) =>
        { bidderCode, bidId, code, sizes, topframe, instl, mediaTypes, video, params }
      parts := fun a => (a.bidderCode, a.bidId, a.code, a.sizes, a.topframe, a.instl, a.mediaTypes,
        a.video, a.params, ())
      make_parts := fun _ => rfl }

/-- Batches of ad units in documents. -/
def Batch.codec : Codec Batch :=
  .record "AdapterRequest"
    (.required "bidderCode" .text <|
     .required "adUnitBids" (.list AdUnit.codec)
     .nil)
    { make := fun (bidderCode, units, ()) => { bidderCode, units }
      parts := fun a => (a.bidderCode, a.units, ())
      make_parts := fun _ => rfl }

end HeaderBidding
