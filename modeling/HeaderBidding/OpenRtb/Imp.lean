import HeaderBidding.Codec.Words

/-!
# Impressions

What is offered in a bid request: each impression is a banner or a video in one slot of a page.
-/

namespace HeaderBidding.OpenRtb

/-- A size, in pixels. -/
structure Format where
  w : UInt32
  h : UInt32
  deriving DecidableEq

/-- The banner of an impression. -/
structure Banner where
  w : Option UInt32 := none
  h : Option UInt32 := none
  format : List Format := []
  topframe : Option Int32 := none
  deriving DecidableEq

/-- The video of an impression. -/
structure Video where
  mimes : List String := []
  minduration : Option Int32 := none
  maxduration : Option Int32 := none
  w : Option UInt32 := none
  h : Option UInt32 := none
  startdelay : Option Int32 := none
  playbackmethod : List Int32 := []
  protocols : List Int32 := []
  deriving DecidableEq

/-- An impression. -/
structure Imp where
  id : String := ""
  banner : Option Banner := none
  video : Option Video := none
  instl : Option Int32 := none
  tagid : Option String := none
  bidfloor : Option Float := none
  secure : Option Int32 := none
  deriving BEq

/-- Sizes in documents. -/
def Format.codec : Codec Format :=
  .record "Format"
    (.required "w" (.word .uint32) <|
     .required "h" (.word .uint32)
     .nil)
    { make := fun (w, h, ()) => { w, h }
      parts := fun a => (a.w, a.h, ())
      make_parts := fun _ => rfl }

/-- Banners in documents. -/
def Banner.codec : Codec Banner :=
  .record "Banner"
    (.optional "w" (.word .uint32) <|
     .optional "h" (.word .uint32) <|
     .nonempty "format" Format.codec <|
     .optional "topframe" (.word .int32)
     .nil)
    { make := fun (w, h, format, topframe, ()) => { w, h, format, topframe }
      parts := fun a => (a.w, a.h, a.format, a.topframe, ())
      make_parts := fun _ => rfl }

/-- Videos in documents. -/
def Video.codec : Codec Video :=
  .record "Video"
    (.nonempty "mimes" .text <|
     .optional "minduration" (.word .int32) <|
     .optional "maxduration" (.word .int32) <|
     .optional "w" (.word .uint32) <|
     .optional "h" (.word .uint32) <|
     .optional "startdelay" (.word .int32) <|
     .nonempty "playbackmethod" (.word .int32) <|
     .nonempty "protocols" (.word .int32)
     .nil)
    { make := fun
        (mimes, minduration, maxduration, w, h, startdelay, playbackmethod, protocols, ()) =>
        { mimes, minduration, maxduration, w, h, startdelay, playbackmethod, protocols }
      parts := fun a => (a.mimes, a.minduration, a.maxduration, a.w, a.h, a.startdelay,
        a.playbackmethod, a.protocols, ())
      make_parts := fun _ => rfl }

/-- Impressions in documents. -/
def Imp.codec : Codec Imp :=
  .record "Imp"
    (.required "id" .text <|
     .optional "banner" Banner.codec <|
     .optional "video" Video.codec <|
     .optional "instl" (.word .int32) <|
     .optional "tagid" .text <|
     .optional "bidfloor" .real <|
     .optional "secure" (.word .int32)
     .nil)
    { make := fun (id, banner, video, instl, tagid, bidfloor, secure, ()) =>
        { id, banner, video, instl, tagid, bidfloor, secure }
      parts := fun a => (a.id, a.banner, a.video, a.instl, a.tagid, a.bidfloor, a.secure, ())
      make_parts := fun _ => rfl }

end HeaderBidding.OpenRtb
