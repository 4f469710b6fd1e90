import HeaderBidding.Adapter
import HeaderBidding.Proofs.Validation

/-!
# Which impressions are requested

The impressions of a request are those of its ad units, one ad unit after the other, where an ad
unit gives a banner and a video as far as it declares them.  A request is made exactly if the ad
units are valid and some impression comes out of them.
-/

namespace HeaderBidding

open OpenRtb (Imp)

namespace ValidUnit

variable {one : ValidUnit} {context : AuctionContext} {imp : Imp} {media : MediaType}

theorem mem_allowedMedia {unit : AdUnit} :
    media ∈ unit.allowedMedia ↔ media ∈ servedMedia ∧ media ∈ unit.mediaTypes := by
  simp [AdUnit.allowedMedia]

theorem mem_imps_iff :
    imp ∈ one.imps context ↔
      ∃ media ∈ one.unit.allowedMedia, one.imp? context media = some imp := by
  simp [imps]

/-- An ad unit that declares video and is valid has video parameters. -/
theorem video?_isSome (present : ¬one.unit.LacksVideoData)
    (declares : .video ∈ one.unit.mediaTypes) : one.video?.isSome := by
  cases data : one.unit.video with
  | none => exact absurd ⟨declares, by simp [data]⟩ present
  | some video => simp [video?, data]

theorem imp?_isSome (present : ¬one.unit.LacksVideoData)
    (allowed : media ∈ one.unit.allowedMedia) : (one.imp? context media).isSome := by
  obtain ⟨served, declared⟩ := mem_allowedMedia.mp allowed
  cases media with
  | banner => rfl
  | video => simpa [imp?] using video?_isSome present declared
  | native | audio => simp [servedMedia] at served

/-- A valid ad unit gives no impression exactly if it declares nothing that the partner serves. -/
theorem imps_eq_nil_iff (present : ¬one.unit.LacksVideoData) :
    one.imps context = [] ↔ ¬one.unit.DeclaresServed := by
  have allowed : one.unit.DeclaresServed ↔ ∃ media, media ∈ one.unit.allowedMedia := by
    constructor
    · rintro (declares | declares)
      · exact ⟨.banner, mem_allowedMedia.mpr ⟨by decide, declares⟩⟩
      · exact ⟨.video, mem_allowedMedia.mpr ⟨by decide, declares⟩⟩
    · rintro ⟨media, mem⟩
      obtain ⟨served, declared⟩ := mem_allowedMedia.mp mem
      cases media with
      | banner => exact .inl declared
      | video => exact .inr declared
      | native | audio => simp [servedMedia] at served
  rw [List.eq_nil_iff_forall_not_mem, allowed, not_exists]
  constructor
  · intro none media mem
    have given : (one.imp? context media).isSome := imp?_isSome present mem
    obtain ⟨imp, given⟩ := Option.isSome_iff_exists.mp given
    exact none imp (mem_imps_iff.mpr ⟨media, mem, given⟩)
  · intro none imp mem
    obtain ⟨media, allowed, -⟩ := mem_imps_iff.mp mem
    exact none media allowed

/-- An impression of an ad unit is its banner or its video. -/
theorem eq_of_mem_imps (mem : imp ∈ one.imps context) :
    imp = { one.impBase context with banner := some one.banner } ∨
      ∃ video, imp = { one.impBase context with video := some video } := by
  obtain ⟨media, -, given⟩ := mem_imps_iff.mp mem
  cases media with
  | banner => exact .inl (Option.some.inj given).symm
  | video =>
      obtain ⟨video, -, rfl⟩ := Option.map_eq_some_iff.mp given
      exact .inr ⟨video, rfl⟩
  | native | audio => simp [imp?] at given

theorem id_of_mem_imps (mem : imp ∈ one.imps context) : imp.id = one.unit.code := by
  rcases eq_of_mem_imps mem with rfl | ⟨video, rfl⟩ <;> rfl

end ValidUnit

/-! ## Requests -/

variable {valid : List ValidUnit} {context : AuctionContext} {adapter : Adapter} {batch : Batch}

/-- The impressions of ad units. -/
def impsOf (valid : List ValidUnit) (context : AuctionContext) : List Imp :=
  valid.flatMap (·.imps context)

/-- The request for ad units. -/
def requestOf (valid : List ValidUnit) (context : AuctionContext) : OpenRtb.BidRequest :=
  requestFor (impsOf valid context) (publisherOf valid) context

theorem bidRequest_of_no_imps (none : impsOf valid context = []) :
    (bidRequest valid context).outcome = .error .noValidImpressions := by
  rw [impsOf] at none
  rw [bidRequest, Traced.outcome_bind_of_ok (Traced.outcome_logAll _), none]
  rfl

theorem bidRequest_of_imps (some : impsOf valid context ≠ []) :
    (bidRequest valid context).outcome = .ok (requestOf valid context) := by
  rw [bidRequest, Traced.outcome_bind_of_ok (Traced.outcome_logAll _), requestOf]
  rw [impsOf] at some ⊢
  cases imps : valid.flatMap (·.imps context) with
  | nil => contradiction
  | cons imp rest =>
      by_cases both : context.app.isSome ∧ context.site.isSome
      · simp only [both, and_self, ↓reduceIte]
        rfl
      · simp only [both, ↓reduceIte]
        rfl

/-- Every impression that is requested has the code of an ad unit. -/
theorem exists_unit_of_mem_impsOf (ok : (validate batch.units).outcome = .ok valid) {imp : Imp}
    (mem : imp ∈ impsOf valid context) : ∃ unit ∈ batch.units, unit.code = imp.id := by
  obtain ⟨one, oneMem, made⟩ := List.mem_flatMap.mp mem
  refine ⟨one.unit, ?_, (ValidUnit.id_of_mem_imps made).symm⟩
  rw [← map_unit_of_validate ok]
  exact List.mem_map_of_mem oneMem

/-- There is no impression exactly if no ad unit declares anything that the partner serves. -/
theorem impsOf_eq_nil_iff (ok : (validate batch.units).outcome = .ok valid) :
    impsOf valid context = [] ↔ ∀ unit ∈ batch.units, ¬unit.DeclaresServed := by
  rw [impsOf, List.flatMap_eq_nil_iff, ← map_unit_of_validate ok, List.forall_mem_map]
  exact forall₂_congr fun one mem => ValidUnit.imps_eq_nil_iff (media_of_validate ok mem)

namespace Adapter

/-- What is posted for a payload. -/
def post (adapter : Adapter) (payload : OpenRtb.BidRequest) : OutboundRequest where
  uri := adapter.endpoint
  headers := requestHeaders
  payload

theorem requests_of_validate_error {e : AdapterError}
    (error : (validate batch.units).outcome = .error e) :
    (adapter.requests batch context).outcome = .error e :=
  Traced.outcome_bind_of_error error

theorem requests_of_no_imps (ok : (validate batch.units).outcome = .ok valid)
    (none : impsOf valid context = []) :
    (adapter.requests batch context).outcome = .error .noValidImpressions := by
  rw [requests, Traced.outcome_bind_of_ok ok,
    Traced.outcome_bind_of_error (bidRequest_of_no_imps none)]

theorem requests_of_imps (ok : (validate batch.units).outcome = .ok valid)
    (some : impsOf valid context ≠ []) :
    (adapter.requests batch context).outcome = .ok [adapter.post (requestOf valid context)] := by
  rw [requests, Traced.outcome_bind_of_ok ok, Traced.outcome_bind_of_ok (bidRequest_of_imps some),
    Traced.outcome_bind_of_ok (Traced.outcome_log _)]
  rfl

/-- One request is made, for all ad units, if they are valid and give some impression. -/
theorem requests_eq_ok_iff {requests : List OutboundRequest} :
    (adapter.requests batch context).outcome = .ok requests ↔
      ∃ valid, (validate batch.units).outcome = .ok valid ∧ impsOf valid context ≠ [] ∧
        requests = [adapter.post (requestOf valid context)] := by
  constructor
  · intro made
    cases validated : (validate batch.units).outcome with
    | error e => simp [requests_of_validate_error validated] at made
    | ok valid =>
        by_cases none : impsOf valid context = []
        · simp [requests_of_no_imps validated none] at made
        · rw [requests_of_imps validated none] at made
          exact ⟨valid, rfl, none, (Except.ok.inj made).symm⟩
  · rintro ⟨valid, validated, some, rfl⟩
    exact requests_of_imps validated some

end Adapter

/-! ## Accepted parameters -/

/-- An ad unit with parameters that are accepted. -/
def offer (code bidId : String) (mediaTypes : List MediaType) : AdUnit where
  bidderCode := bidderName
  bidId
  code
  mediaTypes
  params := some (.object [("cf", .text "300x250"), ("cp", .whole (.ofUInt64 512379)),
    ("ct", .whole (.ofUInt64 486653))])

theorem not_hasBadParams_offer (code bidId : String) (mediaTypes : List MediaType) :
    ¬(offer code bidId mediaTypes).HasBadParams := by
  rintro ⟨e, failed⟩
  have accepted : (offer "" "" []).partnerParams.isOk = true := by decide +kernel
  change (offer "" "" []).partnerParams = .error e at failed
  rw [failed] at accepted
  contradiction

end HeaderBidding
