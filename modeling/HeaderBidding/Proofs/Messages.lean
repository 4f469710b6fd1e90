import HeaderBidding.Impressions
import HeaderBidding.OpenRtb.Response
import HeaderBidding.Proofs.Decoding

/-!
# Messages between the adapter and the partner

The descriptions of bid requests, bid responses and contexts are lawful and far from the limit of
nesting.  A context and the requests that are made for it nest their documents of any shape equally
deep, so that a request can be read if its context has been.
-/

namespace HeaderBidding

open OpenRtb Json

variable {good : Float → Prop}

/-! ## Requests -/

theorem lawful_bidRequest : BidRequest.codec.Lawful := by
  simp [BidRequest.codec, Imp.codec, Banner.codec, Format.codec, Video.codec, Site.codec,
    App.codec, Device.codec, User.codec, Source.codec, Regs.codec, Publisher.codec, Codec.Lawful,
    Fields.Lawful, Fields.names, Presence.required, Presence.optional, Presence.nonempty,
    Codec.Fits]

theorem height_bidRequest : BidRequest.codec.height = 6 := by
  rfl

theorem lawful_context : AuctionContext.codec.Lawful := by
  simp [AuctionContext.codec, Site.codec, App.codec, Device.codec, User.codec, Source.codec,
    Publisher.codec, Codec.Lawful, Fields.Lawful, Fields.names, Presence.required,
    Presence.optional, Presence.nullable, Codec.Fits]

/-- A context fits if what its parties add to it is not nested too deep. -/
theorem fits_context_iff {context : AuctionContext} :
    AuctionContext.codec.Fits good Codec.depthLimit context ↔
      (∀ app, context.app = some app → ∀ ext, app.ext = some ext → ext.depth ≤ 125) ∧
      (∀ site, context.site = some site → ∀ ext, site.ext = some ext → ext.depth ≤ 125) ∧
      (∀ device, context.device = some device → ∀ ext, device.ext = some ext → ext.depth ≤ 125) ∧
      ∀ user, context.user = some user → ∀ ext, user.ext = some ext → ext.depth ≤ 125 := by
  simp [AuctionContext.codec, Site.codec, App.codec, Device.codec, User.codec, Source.codec,
    Publisher.codec, Codec.Fits, Fields.Fits, Codec.depthLimit]

theorem fits_bidRequest_iff {request : BidRequest} :
    BidRequest.codec.Fits good Codec.depthLimit request ↔
      (∀ imp ∈ request.imp, ∀ floor, imp.bidfloor = some floor → good floor) ∧
      (∀ site, request.site = some site → ∀ ext, site.ext = some ext → ext.depth ≤ 125) ∧
      (∀ app, request.app = some app → ∀ ext, app.ext = some ext → ext.depth ≤ 125) ∧
      (∀ device, request.device = some device → ∀ ext, device.ext = some ext → ext.depth ≤ 125) ∧
      (∀ user, request.user = some user → ∀ ext, user.ext = some ext → ext.depth ≤ 125) ∧
      ∀ regs, request.regs = some regs → ∀ ext, regs.ext = some ext → ext.depth ≤ 125 := by
  simp [BidRequest.codec, Imp.codec, Banner.codec, Format.codec, Video.codec, Site.codec,
    App.codec, Device.codec, User.codec, Source.codec, Regs.codec, Publisher.codec, Codec.Fits,
    Fields.Fits, Codec.depthLimit]

/-- A document of any shape stands as deep in a request as in its context. -/
theorem fits_requestFor {context : AuctionContext} {imps : List Imp} {good' : Float → Prop}
    (publisher : Publisher) (fits : AuctionContext.codec.Fits good Codec.depthLimit context)
    (noFloor : ∀ imp ∈ imps, imp.bidfloor = none) :
    BidRequest.codec.Fits good' Codec.depthLimit (requestFor imps publisher context) := by
  obtain ⟨apps, sites, devices, users⟩ := fits_context_iff.mp fits
  refine fits_bidRequest_iff.mpr ⟨?_, ?_, ?_, devices, users, by simp [requestFor]⟩
  · intro imp mem floor some
    rw [noFloor imp mem] at some
    contradiction
  · intro site made ext some
    change context.siteFor publisher = _ at made
    rw [AuctionContext.siteFor] at made
    split at made
    · contradiction
    · obtain ⟨site, given, rfl⟩ := Option.map_eq_some_iff.mp made
      exact sites site given ext some
  · intro app made ext some
    obtain ⟨app, given, rfl⟩ := Option.map_eq_some_iff.mp made
    exact apps app given ext some

/-- An impression comes back as it was if its floor does. -/
theorem stable_imp {imp : Imp} (floors : ∀ floor, imp.bidfloor = some floor →
    rereadReal floor = floor ∧ ¬(Json.real floor).WritesNull) : Imp.codec.Stable imp := by
  have floor : imp.bidfloor.isNone = false → ∀ floor, imp.bidfloor = some floor →
      rereadReal floor = floor ∧ ¬(Json.real floor).WritesNull := fun _ => floors
  simpa [Imp.codec, Banner.codec, Format.codec, Video.codec, Codec.Stable, Fields.Stable,
    Presence.optional, Presence.nonempty, Codec.toJson] using floor

theorem imp_reread {request : BidRequest} (noFloor : ∀ imp ∈ request.imp, imp.bidfloor = none) :
    (BidRequest.codec.reread request).imp = request.imp := by
  change request.imp.map Imp.codec.reread = request.imp
  refine (List.map_congr_left fun imp mem => ?_).trans (List.map_id' request.imp)
  exact Imp.codec.reread_of_stable imp (stable_imp (by simp [noFloor imp mem]))

/-! ## Responses -/

theorem lawful_bidResponse : BidResponse.codec.Lawful := by
  simp [BidResponse.codec, SeatBid.codec, OpenRtb.Bid.codec, Codec.Lawful, Fields.Lawful,
    Fields.names, Presence.required, Presence.optional, Presence.nonempty, Presence.defaulted,
    Codec.Fits]

theorem height_bidResponse : BidResponse.codec.height = 6 := by
  rfl

/-- Only the prices of a response matter for reading it. -/
theorem fits_bidResponse_iff {response : BidResponse} {d : Nat} :
    BidResponse.codec.Fits good d response ↔ ∀ bid ∈ response.bids, good bid.price := by
  simp only [BidResponse.bids, List.forall_mem_flatMap]
  simp [BidResponse.codec, SeatBid.codec, OpenRtb.Bid.codec, Codec.Fits, Fields.Fits]

/-- Of a bid, the price alone is read differently. -/
theorem reread_bid (bid : OpenRtb.Bid) :
    OpenRtb.Bid.codec.reread bid = { bid with price := rereadReal bid.price } := by
  simp [OpenRtb.Bid.codec, Codec.reread, Fields.reread, Presence.required, Presence.optional,
    Presence.nonempty, Presence.defaulted, Codec.toJson]

theorem bids_reread (response : BidResponse) :
    (BidResponse.codec.reread response).bids = response.bids.map OpenRtb.Bid.codec.reread := by
  have seats : (BidResponse.codec.reread response).seatbid =
      response.seatbid.map SeatBid.codec.reread := rfl
  rw [BidResponse.bids, seats, BidResponse.bids, List.map_flatMap, List.flatMap_map]
  rfl

end HeaderBidding
