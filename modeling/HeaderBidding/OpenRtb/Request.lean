import HeaderBidding.OpenRtb.Imp
import HeaderBidding.OpenRtb.Party

/-!
# Bid requests

The call for bids that is sent to a partner. Members without a value are not written.
-/

namespace HeaderBidding.OpenRtb

/-- A call for bids. -/
structure BidRequest where
  id : String := ""
  imp : List Imp := []
  site : Option Site := none
  app : Option App := none
  device : Option Device := none
  user : Option User := none
  source : Option Source := none
  regs : Option Regs := none
  test : Option Int32 := none
  auctionType : Option Int32 := none
  tmax : Option UInt64 := none
  cur : Option (List String) := none
  bcat : Option (List String) := none
  badv : Option (List String) := none
  deriving BEq

/-- Bid requests in documents. -/
def BidRequest.codec : Codec BidRequest :=
  .record "BidRequest"
    (.required "id" .text <|
     .required "imp" (.list Imp.codec) <|
     .optional "site" Site.codec <|
     .optional "app" App.codec <|
     .optional "device" Device.codec <|
     .optional "user" User.codec <|
     .optional "source" Source.codec <|
     .optional "regs" Regs.codec <|
     .optional "test" (.word .int32) <|
     .optional "at" (.word .int32) <|
     .optional "tmax" (.word .uint64) <|
     .optional "cur" (.list .text) <|
     .optional "bcat" (.list .text) <|
     .optional "badv" (.list .text)
     .nil)
    { make := fun
        (id, imp, site, app, device, user, source, regs, test, auctionType, tmax, cur, bcat,
          badv, ()) =>
        { id, imp, site, app, device, user, source, regs, test, auctionType, tmax, cur, bcat, badv }
      parts := fun a => (a.id, a.imp, a.site, a.app, a.device, a.user, a.source, a.regs, a.test,
        a.auctionType, a.tmax, a.cur, a.bcat, a.badv, ())
      make_parts := fun _ => rfl }

end HeaderBidding.OpenRtb
