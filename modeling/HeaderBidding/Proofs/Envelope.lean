import HeaderBidding.Proofs.Attribution
import HeaderBidding.Proofs.NormalForm

/-!
# What stands around the impressions

Apart from its impressions, a request says what the context says.  It is for the app of the context,
or else for the site, and the publisher of either is that of the last ad unit, whatever publisher
the context names.
-/

namespace HeaderBidding

open OpenRtb (App BidRequest Publisher Site)

/-- What a payload says about the auction is what the context says, and what no context says is not
set. -/
structure IsEnvelopeOf (context : AuctionContext) (payload : BidRequest) : Prop where
  id : payload.id = context.tid
  tmax : payload.tmax = context.timeoutMillis
  device : payload.device = context.device
  user : payload.user = context.user
  source : payload.source = context.source
  auctionType : payload.auctionType = some 1
  regs : payload.regs = none
  test : payload.test = none
  cur : payload.cur = none
  bcat : payload.bcat = none
  badv : payload.badv = none

/-- What a payload is for: the app of the context or else its site, with a publisher of its own. -/
inductive IsPublishedBy (context : AuctionContext) (publisher : Publisher) (payload : BidRequest) :
    Prop
  | app {app : App} (given : context.app = some app)
      (set : payload.app = some { app with publisher := some publisher })
      (noSite : payload.site = none)
  | site {site : Site} (noApp : context.app = none) (given : context.site = some site)
      (unset : payload.app = none)
      (set : payload.site = some { site with publisher := some publisher })
  | neither (noApp : context.app = none) (noSite : context.site = none)
      (unset : payload.app = none) (unset' : payload.site = none)

variable {units : List AdUnit} {valid : List ValidUnit} {context : AuctionContext}
  {publisher : Publisher} {adapter : Adapter} {batch : Batch} {requests : List OutboundRequest}
  {request : OutboundRequest}

theorem isEnvelopeOf_requestFor (imps : List OpenRtb.Imp) (publisher : Publisher)
    (context : AuctionContext) : IsEnvelopeOf context (requestFor imps publisher context) := by
  constructor <;> rfl

theorem isPublishedBy_requestFor (imps : List OpenRtb.Imp) (publisher : Publisher)
    (context : AuctionContext) :
    IsPublishedBy context publisher (requestFor imps publisher context) := by
  cases app : context.app with
  | some app' =>
      exact .app app (by simp [requestFor, AuctionContext.appFor, app])
        (by simp [requestFor, AuctionContext.siteFor, app])
  | none =>
      have unset : (requestFor imps publisher context).app = none := by
        simp [requestFor, AuctionContext.appFor, app]
      cases site : context.site with
      | some site' =>
          exact .site app site unset (by simp [requestFor, AuctionContext.siteFor, app, site])
      | none =>
          exact .neither app site unset (by simp [requestFor, AuctionContext.siteFor, app, site])

/-- A payload is for an app or for a site, never for both. -/
theorem IsPublishedBy.app_or_site {payload : BidRequest}
    (published : IsPublishedBy context publisher payload) :
    payload.app = none ∨ payload.site = none := by
  cases published with
  | app _ _ noSite => exact .inr noSite
  | site _ _ unset => exact .inl unset
  | neither _ _ unset => exact .inl unset

/-! ## The last ad unit -/

/-- The publisher of validated ad units is that of the last of them. -/
theorem publisherOf_of_getLast? (validated : (validate units).outcome = .ok valid) {last : AdUnit}
    (isLast : units.getLast? = some last) :
    ∃ params, last.partnerParams = .ok params ∧
      publisherOf valid = { id := some params.publisherId } := by
  rw [← map_unit_of_validate validated, List.getLast?_map, Option.map_eq_some_iff] at isLast
  obtain ⟨one, isLast, rfl⟩ := isLast
  refine ⟨one.params, params_of_validate validated (List.mem_of_getLast? isLast), ?_⟩
  rw [publisherOf, isLast]
  rfl

/-- Apart from its impressions, a request is what the context says.  It is for the app of the
context or else for the site, and never for both.  The publisher is nothing but the canonical
identifier of the last ad unit, even if no impression is made for this one. -/
theorem requests_envelope (made : (adapter.requests batch context).outcome = .ok requests)
    (sent : request ∈ requests) :
    IsEnvelopeOf context request.payload ∧
      (request.payload.app = none ∨ request.payload.site = none) ∧
      ∃ last params, batch.units.getLast? = some last ∧ last.partnerParams = .ok params ∧
        (∃ id, IsCanonicalId params.publisherId id) ∧
        IsPublishedBy context { id := some params.publisherId, name := none, domain := none }
          request.payload := by
  obtain ⟨valid, validated, some, rfl⟩ := Adapter.requests_eq_ok_iff.mp made
  obtain rfl := List.mem_singleton.mp sent
  have nonempty : batch.units ≠ [] := by
    intro empty
    exact some ((impsOf_eq_nil_iff validated).mpr (by simp [empty]))
  have isLast := List.getLast?_eq_getLast_of_ne_nil nonempty
  obtain ⟨params, accepted, publisher⟩ := publisherOf_of_getLast? validated isLast
  have published := isPublishedBy_requestFor (impsOf valid context) (publisherOf valid) context
  refine ⟨isEnvelopeOf_requestFor _ _ _, published.app_or_site, _, params, isLast, accepted,
    (AdUnit.isNormal_of_partnerParams accepted).publisherId, ?_⟩
  rw [← publisher]
  exact published

/-- The first of two ad units with publishers of their own. -/
def bannerOfTwo : ValidUnit where
  unit := offer "slot1" "a" [.banner]
  params := ⟨"512379", "486653", 300, 250⟩

/-- The second of them, which gives no impression. -/
def nativeOfTwo : ValidUnit where
  unit :=
    { offer "slot2" "b" [.native] with
      params := some (.object [("cf", .text "1x1"), ("cp", .text "-7"), ("ct", .text "8")]) }
  params := ⟨"-7", "8", 1, 1⟩

/-- Both of them. -/
def twoPublishers : Batch where
  units := [bannerOfTwo.unit, nativeOfTwo.unit]

/-- A context with an app and with a site, both of other publishers. -/
def appAndSite : AuctionContext where
  tid := "t"
  timeoutMillis := some 500
  app := some { id := some "app", publisher := some { id := some "1", name := some "one" } }
  site := some { id := some "site", publisher := some { id := some "2" } }

/-- The payload for them. -/
def twoPublishersPayload : BidRequest where
  id := "t"
  imp := [offeredBanner "slot1"]
  app := some { id := some "app", publisher := some { id := some "-7" } }
  auctionType := some 1
  tmax := some 500

theorem requests_envelope_appAndSite :
    (Adapter.requests ⟨"http://localhost/bid"⟩ twoPublishers appAndSite).outcome =
        .ok [Adapter.post ⟨"http://localhost/bid"⟩ twoPublishersPayload] ∧
      IsEnvelopeOf appAndSite twoPublishersPayload ∧
      ∃ params : PartnerParams, (∃ id, IsCanonicalId params.publisherId id) ∧
        IsPublishedBy appAndSite { id := some params.publisherId } twoPublishersPayload := by
  have made : (Adapter.requests ⟨"http://localhost/bid"⟩ twoPublishers appAndSite).outcome =
      .ok [Adapter.post ⟨"http://localhost/bid"⟩ twoPublishersPayload] := by
    cbv
  obtain ⟨envelope, -, _, params, -, -, canonical, published⟩ :=
    requests_envelope made List.mem_cons_self
  exact ⟨made, envelope, params, canonical, published⟩

end HeaderBidding
