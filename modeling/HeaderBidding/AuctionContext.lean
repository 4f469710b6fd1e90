import HeaderBidding.OpenRtb.Party

/-!
# The context of an auction

What all ad units of an auction share: its identifier, the time that is left for answers, and who
takes part.
-/

namespace HeaderBidding

open OpenRtb (App Site Device User Source)

/-- The context of an auction. -/
structure AuctionContext where
  tid : String := ""
  timeoutMillis : Option UInt64 := none
  secure : Option Int32 := none
  app : Option App := none
  site : Option Site := none
  device : Option Device := none
  user : Option User := none
  source : Option Source := none
  deriving BEq

/-- Contexts in documents. -/
def AuctionContext.codec : Codec AuctionContext :=
  .record "PreBidRequestContext"
    (.required "tid" .text <|
     .nullable "timeoutMillis" (.word .uint64) <|
     .nullable "secure" (.word .int32) <|
     .nullable "app" App.codec <|
     .nullable "site" Site.codec <|
     .nullable "device" Device.codec <|
     .nullable "user" User.codec <|
     .nullable "source" Source.codec
     .nil)
    { make := fun (tid, timeoutMillis, secure, app, site, device, user, source, ()) =>
        { tid, timeoutMillis, secure, app, site, device, user, source }
      parts := fun a =>
        (a.tid, a.timeoutMillis, a.secure, a.app, a.site, a.device, a.user, a.source, ())
      make_parts := fun _ => rfl }

end HeaderBidding
