import HeaderBidding.Codec.Writer
import HeaderBidding.Proofs.Attribution
import HeaderBidding.Proofs.Messages
import HeaderBidding.Proofs.MockBids

/-!
# The adapter and the mock partner

What the adapter posts is understood by the mock partner, and what the mock partner answers is
understood by the adapter: each impression that is requested comes back as a bid for the first ad
unit with its code.
-/

namespace HeaderBidding

open OpenRtb (BidRequest BidResponse Imp)

variable {adapter : Adapter} {batch : Batch} {context : AuctionContext} {valid : List ValidUnit}
  {requests : List OutboundRequest} {request : OutboundRequest} {text : String} {σ : Type}
  {chance : MockPartner.Chance σ}

/-- The request as it reaches the mock partner at its address. -/
def OutboundRequest.incoming (request : OutboundRequest) : MockPartner.Incoming where
  method := "POST"
  path := "/bid"
  contentType := request.headers.lookup "Content-Type"
  body := BidRequest.codec.encode request.payload

/-- The size of an impression, of which either the banner or the video is set. -/
def HasSize (imp : Imp) (width height : Option UInt32) : Prop :=
  (∃ banner, imp.banner = some banner ∧ imp.video = none ∧ width = banner.w ∧ height = banner.h) ∨
    ∃ video, imp.video = some video ∧ imp.banner = none ∧ width = video.w ∧ height = video.h

/-- The bid is for the impression as the mock partner bids for it, under the name of the first ad
unit that has the code of the impression. -/
structure IsBidFor (units : List AdUnit) (imp : Imp) (bid : Bid) : Prop where
  code : bid.code = imp.id
  unit : ∃ unit, IsFirst (·.code = imp.id) units unit ∧
    bid.bidder = unit.bidderCode ∧ bid.bidId = unit.bidId
  creativeId : ∃ tag, imp.tagid = some tag ∧ bid.creativeId = some ("crid-" ++ tag)
  size : HasSize imp bid.width bid.height

theorem HasSize.eq_sizeOf {imp : Imp} {width height : Option UInt32}
    (hasSize : HasSize imp width height) : (width, height) = MockPartner.sizeOf imp := by
  obtain ⟨banner, given, none, rfl, rfl⟩ | ⟨video, given, -, rfl, rfl⟩ := hasSize
  · rw [MockPartner.sizeOf, none, given]
    rfl
  · rw [MockPartner.sizeOf, given]

/-- All that the ad unit and the tag of an impression say of its bid. -/
theorem IsBidFor.names {units : List AdUnit} {imp : Imp} {bid : Bid} {unit : AdUnit} {tag : String}
    (isBid : IsBidFor units imp bid) (found : unitFor? units imp.id = some unit)
    (tagged : imp.tagid = some tag) :
    (bid.code, bid.bidder, bid.bidId, bid.creativeId) =
      (imp.id, unit.bidderCode, unit.bidId, some ("crid-" ++ tag)) := by
  obtain ⟨unit', first, bidder, bidId⟩ := isBid.unit
  obtain ⟨tag', tagged', creativeId⟩ := isBid.creativeId
  obtain rfl := Option.some.inj (found.symm.trans (unitFor?_eq_some_iff.mpr first))
  obtain rfl := Option.some.inj (tagged.symm.trans tagged')
  rw [isBid.code, bidder, bidId, creativeId]

/-! ## What is posted -/

theorem bidfloor_of_mem_impsOf {imp : Imp} (mem : imp ∈ impsOf valid context) :
    imp.bidfloor = none := by
  obtain ⟨one, -, mem⟩ := List.mem_flatMap.mp mem
  rcases ValidUnit.eq_of_mem_imps mem with rfl | ⟨video, rfl⟩ <;> rfl

/-- A request for a context that has been decoded is decoded by the mock partner. -/
theorem incoming_request (decoded : AuctionContext.codec.decode text = .ok context)
    (small : byteCount (BidRequest.codec.encode (requestOf valid context)).toList ≤
      MockPartner.bodyLimit) :
    (adapter.post (requestOf valid context)).incoming.request =
      .ok (BidRequest.codec.reread (requestOf valid context)) := by
  have any : Reader.real.Gives (fun _ => True) := fun _ _ _ _ => trivial
  have fits : BidRequest.codec.Fits (·.isFinite) Codec.depthLimit (requestOf valid context) :=
    fits_requestFor _ (Codec.fits_of_decode any lawful_context decoded)
      fun imp mem => bidfloor_of_mem_impsOf mem
  have read := Codec.decode_encode lawful_bidRequest (by rw [height_bidRequest]; decide) fits
  have path : MockPartner.isBidPath "/bid" = true := by decide +kernel
  have json : (requestHeaders.lookup "Content-Type").any MockPartner.ContentType.isJson = true := by
    decide +kernel
  exact MockPartner.request_of_accepted path rfl json small read

/-! ## What is answered -/

open MockPartner (Answers)

theorem answers_reread {imp : Imp} {bid : OpenRtb.Bid} (answers : Answers imp bid) :
    Answers imp (OpenRtb.Bid.codec.reread bid) := by
  rw [reread_bid]
  exact ⟨answers.impid, answers.crid, answers.size⟩

/-- The answer to some impressions is decoded by the adapter, with a bid for each of them. -/
theorem exists_received {request : BidRequest} (some : request.imp ≠ [])
    (noFloor : ∀ imp ∈ request.imp, imp.bidfloor = none) (finite : chance.DrawsFinite)
    (supply : σ) :
    ∃ received, BidResponse.codec.decode
        (BidResponse.codec.encode (MockPartner.respond request chance supply)) = .ok received ∧
      List.Forall₂ Answers request.imp received.bids := by
  obtain ⟨bids, -⟩ := MockPartner.ofResponse_respond some chance supply
  have fits : BidResponse.codec.Fits (·.isFinite) Codec.depthLimit
      (MockPartner.respond request chance supply) := by
    rw [fits_bidResponse_iff, bids]
    exact fun bid mem => MockPartner.isFinite_price_of_mem finite noFloor mem
  refine ⟨_, Codec.decode_encode lawful_bidResponse (by rw [height_bidResponse]; decide) fits, ?_⟩
  rw [bids_reread, bids, List.forall₂_map_right_iff]
  exact (MockPartner.forall₂_answers_bidsFor chance 0 request.imp supply).imp fun _ _ =>
    answers_reread

/-- A bid that answers an impression of the request is extracted as a bid for it. -/
theorem isBidFor_ofBid {units : List AdUnit} {imp : Imp} {bid : OpenRtb.Bid} {unit : AdUnit}
    (mem : imp ∈ impsOf valid context) (answers : Answers imp bid)
    (found : unitFor? units bid.impid = some unit) :
    IsBidFor units imp (Draft.ofBid unit bid).build where
  code := answers.impid
  unit := by
    rw [answers.impid] at found
    exact ⟨unit, unitFor?_eq_some_iff.mp found, rfl, rfl⟩
  creativeId := by
    have crid := answers.crid
    obtain ⟨one, -, mem⟩ := List.mem_flatMap.mp mem
    rcases ValidUnit.eq_of_mem_imps mem with rfl | ⟨video, rfl⟩ <;> exact ⟨_, rfl, crid⟩
  size := by
    obtain ⟨w, h⟩ := Prod.mk.inj answers.size
    obtain ⟨one, -, mem⟩ := List.mem_flatMap.mp mem
    rcases ValidUnit.eq_of_mem_imps mem with rfl | ⟨video, rfl⟩
    · exact .inl ⟨_, rfl, rfl, w, h⟩
    · exact .inr ⟨_, rfl, rfl, w, h⟩

/-! ## The whole loop -/

/-- A request that the adapter makes for a context from a document is answered by the mock partner,
whatever the factors are that it draws, as long as they are finite, and whatever the identifiers.
The answer can be decoded, and the bids that are extracted of it are those for the impressions of
the request, one for each and in their order. -/
theorem requests_answered (decoded : AuctionContext.codec.decode text = .ok context)
    (made : (adapter.requests batch context).outcome = .ok requests)
    (finite : chance.DrawsFinite) :
    ∃ request, requests = [request] ∧
      (byteCount (BidRequest.codec.encode request.payload).toList ≤ MockPartner.bodyLimit →
        ∀ supply, ∃ response received,
          MockPartner.answer request.incoming chance supply =
            { status := 200, contentType := some "application/json", body := some response } ∧
          BidResponse.codec.decode (BidResponse.codec.encode response) = .ok received ∧
          ∀ reply : Reply, reply.response = some received →
            ∃ drafts, (Adapter.extractBids batch reply).outcome = .ok drafts ∧
              List.Forall₂ (fun imp draft => IsBidFor batch.units imp draft.build)
                request.payload.imp drafts) := by
  obtain ⟨valid, validated, some, rfl⟩ := Adapter.requests_eq_ok_iff.mp made
  refine ⟨adapter.post (requestOf valid context), rfl, fun small supply => ?_⟩
  have noFloor : ∀ imp ∈ impsOf valid context, imp.bidfloor = none :=
    fun imp mem => bidfloor_of_mem_impsOf mem
  have imps : (BidRequest.codec.reread (requestOf valid context)).imp = impsOf valid context :=
    imp_reread noFloor
  rw [← imps] at some noFloor
  obtain ⟨-, answered⟩ := MockPartner.ofResponse_respond some chance supply
  obtain ⟨received, read, answers⟩ := exists_received some noFloor finite supply
  refine ⟨_, received, ?_, read, fun reply carries => ?_⟩
  · rw [MockPartner.answer, incoming_request decoded small]
    exact answered
  · rw [imps] at answers
    have each : List.Forall₂ (fun imp bid => imp ∈ impsOf valid context ∧ Answers imp bid)
        (impsOf valid context) received.bids :=
      (List.forall₂_and_left _ _).mpr ⟨fun _ mem => mem, answers⟩
    have known : ∀ imp ∈ impsOf valid context, ∀ bid : OpenRtb.Bid,
        imp ∈ impsOf valid context ∧ Answers imp bid → ∃ unit ∈ batch.units,
          unit.code = bid.impid := by
      rintro imp mem bid ⟨-, answers⟩
      rw [answers.impid]
      exact exists_unit_of_mem_impsOf validated mem
    obtain ⟨drafts, extracted, fit⟩ := Adapter.extractBids_of_answers carries each known
    refine ⟨drafts, extracted, fit.imp ?_⟩
    rintro imp draft ⟨bid, unit, ⟨mem, answers⟩, found, rfl⟩
    exact isBidFor_ofBid mem answers found

/-- A context of a site that adds a document of its own. -/
def extendedContext : AuctionContext where
  tid := "auction"
  site := some { ext := some (.list [.null]) }

/-- The text of this context. -/
def extendedText : String :=
  "\x7b\"tid\":\"auction\",\"timeoutMillis\":null,\"secure\":null,\"app\":null," ++
    "\"site\":\x7b\"ext\":[null]\x7d,\"device\":null,\"user\":null,\"source\":null\x7d"

/-- Ad units of which the first gives two impressions and the second none. -/
def extendedBatch : Batch where
  units :=
    [{ offer "slot1" "a" [.video, .banner] with
        sizes := [⟨640, 480⟩]
        video := some { mimes := ["video/mp4"] } },
     offer "slot2" "b" [.native], offer "slot3" "c" [.banner]]

/-- What is sent for these ad units in this context. -/
def extendedRequest : OutboundRequest :=
  Adapter.post ⟨"http://localhost/bid"⟩
    { id := "auction"
      imp :=
        [{ offeredBanner "slot1" with
            banner := some { w := some 300, h := some 250, format := [⟨640, 480⟩] } },
         { offeredBanner "slot1" with
            banner := none
            video := some { mimes := ["video/mp4"], w := some 640, h := some 480 } },
         offeredBanner "slot3"]
      site := some { publisher := some { id := some "512379" }, ext := some (.list [.null]) }
      auctionType := some firstPrice }

/-- Whatever the words and the identifiers are, there are three bids for these ad units. -/
theorem requests_answered_extended :
    AuctionContext.codec.decode extendedText = .ok extendedContext ∧
      (Adapter.requests ⟨"http://localhost/bid"⟩ extendedBatch extendedContext).outcome =
        .ok [extendedRequest] ∧
      byteCount (BidRequest.codec.encode extendedRequest.payload).toList ≤ MockPartner.bodyLimit ∧
      ∀ (unique : Nat → String) (words : MockPartner.Words), ∃ response received drafts,
        MockPartner.answer extendedRequest.incoming (.ofWords unique) words =
          { status := 200, contentType := some "application/json", body := some response } ∧
        BidResponse.codec.decode (BidResponse.codec.encode response) = .ok received ∧
        (Adapter.extractBids extendedBatch (Reply.ofResponse received)).outcome = .ok drafts ∧
        (drafts.map (·.build)).map (fun bid => (bid.code, bid.bidder, bid.bidId, bid.creativeId)) =
          [("slot1", bidderName, "a", some "crid-486653"),
           ("slot1", bidderName, "a", some "crid-486653"),
           ("slot3", bidderName, "c", some "crid-486653")] ∧
        (drafts.map (·.build)).map (fun bid => (bid.width, bid.height)) =
          [(some 300, some 250), (some 640, some 480), (some 300, some 250)] := by
  have encoded : AuctionContext.codec.encode extendedContext = extendedText := by
    decide +kernel
  have fits : AuctionContext.codec.Fits (·.isFinite) Codec.depthLimit extendedContext :=
    fits_context_iff.mpr (by simp [extendedContext, Json.depth, Json.depthItems])
  have decoded := Codec.decode_encode lawful_context (by decide) fits
  have kept : AuctionContext.codec.reread extendedContext = extendedContext := by rfl
  rw [encoded, kept] at decoded
  have made : (Adapter.requests ⟨"http://localhost/bid"⟩ extendedBatch extendedContext).outcome =
      .ok [extendedRequest] := by
    cbv
  have small : byteCount (BidRequest.codec.encode extendedRequest.payload).toList ≤
      MockPartner.bodyLimit := by
    rw [Codec.toList_encode]
    decide +kernel
  refine ⟨decoded, made, small, fun unique words => ?_⟩
  obtain ⟨request, same, answered⟩ :=
    requests_answered decoded made (MockPartner.Chance.drawsFinite_ofWords unique)
  obtain rfl := List.singleton_inj.mp same
  obtain ⟨response, received, answer, read, extracted⟩ := answered small words
  obtain ⟨drafts, extracted, bids⟩ := extracted (Reply.ofResponse received) rfl
  refine ⟨response, received, drafts, answer, read, extracted, ?_⟩
  simp only [extendedRequest, Adapter.post, List.forall₂_cons_left_iff,
    List.forall₂_nil_left_iff] at bids
  obtain ⟨banner, _, isBanner, ⟨video, _, isVideo, ⟨other, _, isOther, rfl, rfl⟩, rfl⟩, rfl⟩ := bids
  constructor
  · have first : unitFor? extendedBatch.units "slot1" = some extendedBatch.units[0] := by rfl
    have third : unitFor? extendedBatch.units "slot3" = some extendedBatch.units[2] := by rfl
    have bannerNames := isBanner.names first rfl
    have videoNames := isVideo.names first rfl
    have otherNames := isOther.names third rfl
    simp only [List.map_cons, List.map_nil, bannerNames, videoNames, otherNames]
    rfl
  · simp only [List.map_cons, List.map_nil, isBanner.size.eq_sizeOf, isVideo.size.eq_sizeOf,
      isOther.size.eq_sizeOf]
    rfl

end HeaderBidding
