import HeaderBidding.Codec.Words

/-!
# Bid responses

The answer of a partner: bids, grouped by the seat that makes them.
-/

namespace HeaderBidding.OpenRtb

/-- A bid for an impression. -/
structure Bid where
  id : String := ""
  impid : String := ""
  price : Float := 0
  adm : Option String := none
  crid : Option String := none
  w : Option UInt32 := none
  h : Option UInt32 := none
  nurl : Option String := none
  dealid : Option String := none
  adomain : List String := []
  deriving BEq

/-- The bids of a seat. -/
structure SeatBid where
  bid : List Bid := []
  seat : Option String := none
  deriving BEq

/-- The answer to a bid request. -/
structure BidResponse where
  id : String := ""
  seatbid : List SeatBid := []
  bidid : Option String := none
  cur : Option String := none
  nbr : Option Int32 := none
  deriving BEq

/-- All bids, in the order of the seats. -/
def BidResponse.bids (response : BidResponse) : List Bid :=
  response.seatbid.flatMap SeatBid.bid

/-- Bids in documents. -/
def Bid.codec : Codec Bid :=
  .record "Bid"
    (.defaulted "id" "" .text <|
     .required "impid" .text <|
     .required "price" .real <|
     .optional "adm" .text <|
     .optional "crid" .text <|
     .optional "w" (.word .uint32) <|
     .optional "h" (.word .uint32) <|
     .optional "nurl" .text <|
     .optional "dealid" .text <|
     .nonempty "adomain" .text
     .nil)
    { make := fun (id, impid, price, adm, crid, w, h, nurl, dealid, adomain, ()) =>
        { id, impid, price, adm, crid, w, h, nurl, dealid, adomain }
      parts := fun a =>
        (a.id, a.impid, a.price, a.adm, a.crid, a.w, a.h, a.nurl, a.dealid, a.adomain,
        ())
      make_parts := fun _ => rfl }

/-- The bids of a seat in documents. -/
def SeatBid.codec : Codec SeatBid :=
  .record "SeatBid"
    (.defaulted "bid" [] (.list Bid.codec) <|
     .optional "seat" .text
     .nil)
    { make := fun (bid, seat, ()) => { bid, seat }
      parts := fun a => (a.bid, a.seat, ())
      make_parts := fun _ => rfl }

/-- Bid responses in documents. -/
def BidResponse.codec : Codec BidResponse :=
  .record "BidResponse"
    (.defaulted "id" "" .text <|
     .defaulted "seatbid" [] (.list SeatBid.codec) <|
     .optional "bidid" .text <|
     .optional "cur" .text <|
     .optional "nbr" (.word .int32)
     .nil)
    { make := fun (id, seatbid, bidid, cur, nbr, ()) => { id, seatbid, bidid, cur, nbr }
      parts := fun a => (a.id, a.seatbid, a.bidid, a.cur, a.nbr, ())
      make_parts := fun _ => rfl }

end HeaderBidding.OpenRtb
