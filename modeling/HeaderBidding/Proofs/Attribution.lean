import HeaderBidding.Proofs.Extraction
import HeaderBidding.Proofs.Impressions
import Mathlib

/-!
# Which bids are accepted, and to which ad units they go

What was sent is a list of impressions, but bids are looked up by the codes of the ad units.  The
two agree for an ad unit that gives an impression.  An ad unit that gives none still has its bids
accepted, and of ad units that share a code the first takes the bids of all.
-/

namespace HeaderBidding

open OpenRtb (BidRequest BidResponse Imp)

/-- The bid is for no impression of the payload. -/
def IsUnsent (payload : BidRequest) (bid : OpenRtb.Bid) : Prop :=
  ∀ imp ∈ payload.imp, imp.id ≠ bid.impid

/-- The response passes exactly if all its bids are for impressions that were sent, and it is the
first of the others that is refused. -/
def RefusesUnsent (batch : Batch) (payload : BidRequest) (response : BidResponse) : Prop :=
  ((∃ drafts, (Adapter.extractBids batch (.ofResponse response)).outcome = .ok drafts) ↔
      ∀ bid ∈ response.bids, ¬IsUnsent payload bid) ∧
    ∀ bid, IsFirst (IsUnsent payload) response.bids bid →
      (Adapter.extractBids batch (.ofResponse response)).outcome =
        .error (.unknownImpression bid.impid)

/-- The impressions of ad units, each with the ad unit that it was made for. -/
def originsOf (valid : List ValidUnit) (context : AuctionContext) : List (Imp × AdUnit) :=
  valid.flatMap fun one => (one.imps context).map fun imp => (imp, one.unit)

variable {adapter : Adapter} {batch : Batch} {context : AuctionContext} {valid : List ValidUnit}
  {requests : List OutboundRequest} {request : OutboundRequest} {response : BidResponse}

theorem map_fst_originsOf (valid : List ValidUnit) (context : AuctionContext) :
    (originsOf valid context).map Prod.fst = impsOf valid context := by
  simp [originsOf, impsOf, List.map_flatMap, Function.comp_def]

theorem id_of_mem_originsOf {origin : Imp × AdUnit} (mem : origin ∈ originsOf valid context) :
    origin.1.id = origin.2.code := by
  obtain ⟨one, -, made⟩ := List.mem_flatMap.mp mem
  obtain ⟨imp, impMem, rfl⟩ := List.mem_map.mp made
  exact ValidUnit.id_of_mem_imps impMem

theorem unit_of_mem_originsOf (validated : (validate batch.units).outcome = .ok valid)
    {origin : Imp × AdUnit} (mem : origin ∈ originsOf valid context) :
    origin.2 ∈ batch.units := by
  obtain ⟨one, oneMem, made⟩ := List.mem_flatMap.mp mem
  obtain ⟨imp, -, rfl⟩ := List.mem_map.mp made
  rw [← map_unit_of_validate validated]
  exact List.mem_map_of_mem oneMem

/-- What is sent comes from the ad units, in their order. -/
theorem requests_origins (made : (adapter.requests batch context).outcome = .ok requests)
    (sent : request ∈ requests) :
    ∃ valid, (validate batch.units).outcome = .ok valid ∧
      request.payload.imp = (originsOf valid context).map Prod.fst := by
  obtain ⟨valid, validated, -, rfl⟩ := Adapter.requests_eq_ok_iff.mp made
  obtain rfl := List.mem_singleton.mp sent
  exact ⟨valid, validated, (map_fst_originsOf valid context).symm⟩

/-! ## Bids for what was never sent -/

/-- Every impression that was sent has the code of an ad unit. -/
theorem isUnsent_of_isUnknown (made : (adapter.requests batch context).outcome = .ok requests)
    (sent : request ∈ requests) {bid : OpenRtb.Bid} (unknown : IsUnknown batch.units bid) :
    IsUnsent request.payload bid := by
  obtain ⟨valid, validated, -, rfl⟩ := Adapter.requests_eq_ok_iff.mp made
  obtain rfl := List.mem_singleton.mp sent
  intro imp mem same
  obtain ⟨unit, unitMem, code⟩ := exists_unit_of_mem_impsOf validated mem
  exact unknown unit unitMem (code.trans same)

theorem refusesUnsent_iff_first (made : (adapter.requests batch context).outcome = .ok requests)
    (sent : request ∈ requests) :
    RefusesUnsent batch request.payload response ↔
      ∀ bid, IsFirst (IsUnsent request.payload) response.bids bid →
        IsUnknown batch.units bid := by
  have carries : (Reply.ofResponse response).response = some response := rfl
  constructor
  · rintro ⟨-, refuses⟩ bid first
    obtain ⟨unknown, firstUnknown, same⟩ :=
      (Adapter.extractBids_eq_error_iff carries).mp (refuses bid first)
    rw [IsUnknown, AdapterError.unknownImpression.inj same]
    exact firstUnknown.holds
  · intro agrees
    have firstUnknown : ∀ bid, IsFirst (IsUnsent request.payload) response.bids bid →
        IsFirst (IsUnknown batch.units) response.bids bid := by
      intro bid first
      have unknown := agrees bid first
      obtain ⟨before, after, split, -, others⟩ := first
      exact ⟨before, after, split, unknown, fun other mem unknown =>
        others other mem (isUnsent_of_isUnknown made sent unknown)⟩
    constructor
    · rw [Adapter.extractBids_succeeds_iff carries]
      constructor
      · intro known bid mem unsent
        obtain ⟨first, isFirst⟩ := IsFirst.exists_iff.mpr ⟨bid, mem, unsent⟩
        exact known first isFirst.mem (agrees first isFirst)
      · exact fun sentAll bid mem unknown =>
          sentAll bid mem (isUnsent_of_isUnknown made sent unknown)
    · intro bid first
      exact (Adapter.extractBids_eq_error_iff carries).mpr ⟨bid, firstUnknown bid first, rfl⟩

/-- A response with a bid for each of some impressions. -/
def answer (impids : List String) : BidResponse where
  seatbid := [{ bid := impids.map fun impid => { impid } }]

/-- Bids for what was never sent are refused, but for those that name an ad unit of which nothing
was sent.  All of them are refused exactly if something was sent for every ad unit. -/
theorem refusesUnsent_iff (made : (adapter.requests batch context).outcome = .ok requests)
    (sent : request ∈ requests) :
    (∀ response, RefusesUnsent batch request.payload response ↔
        ∀ bid, IsFirst (IsUnsent request.payload) response.bids bid →
          ∀ unit ∈ batch.units, unit.code ≠ bid.impid) ∧
      ((∀ response, RefusesUnsent batch request.payload response) ↔
        ∀ unit ∈ batch.units, ∃ imp ∈ request.payload.imp, imp.id = unit.code) := by
  refine ⟨fun response => refusesUnsent_iff_first made sent, ?_, ?_⟩
  · intro refuses unit mem
    by_contra unsent
    have first : IsFirst (IsUnsent request.payload) (answer [unit.code]).bids
        { impid := unit.code } :=
      IsFirst.cons_iff.mpr (.inl ⟨rfl, fun imp impMem same => unsent ⟨imp, impMem, same⟩⟩)
    exact (refusesUnsent_iff_first made sent).mp (refuses _) _ first unit mem rfl
  · intro all response
    rw [refusesUnsent_iff_first made sent]
    intro bid first unit mem same
    obtain ⟨imp, impMem, sameId⟩ := all unit mem
    exact first.holds imp impMem (sameId.trans same)

/-- The impression that is sent for the banner of such an ad unit. -/
def offeredBanner (code : String) : Imp where
  id := code
  banner := some { w := some 300, h := some 250 }
  tagid := some "486653"

/-- What is sent for impressions of such ad units, if nothing else is known. -/
def offeredRequest (imps : List Imp) : OutboundRequest :=
  Adapter.post ⟨"http://localhost/bid"⟩
    { imp := imps, auctionType := some firstPrice }

theorem refusesUnsent_iff_banner :
    (Adapter.requests ⟨"http://localhost/bid"⟩
        { units := [offer "slot1" "a" [.banner]] } {}).outcome =
        .ok [offeredRequest [offeredBanner "slot1"]] ∧
      ∀ response, RefusesUnsent { units := [offer "slot1" "a" [.banner]] }
        (offeredRequest [offeredBanner "slot1"]).payload response := by
  have made : (Adapter.requests ⟨"http://localhost/bid"⟩
      { units := [offer "slot1" "a" [.banner]] } {}).outcome =
        .ok [offeredRequest [offeredBanner "slot1"]] := by
    cbv
  refine ⟨made, (refusesUnsent_iff made List.mem_cons_self).2.mpr ?_⟩
  simp [offeredRequest, offeredBanner, offer, Adapter.post]

/-- Nothing is sent for an ad unit with native media alone, but a bid for it is accepted. -/
theorem not_refusesUnsent_native :
    (Adapter.requests ⟨"http://localhost/bid"⟩
        { units := [offer "slot1" "a" [.banner], offer "slot2" "b" [.native]] } {}).outcome =
        .ok [offeredRequest [offeredBanner "slot1"]] ∧
      ¬RefusesUnsent { units := [offer "slot1" "a" [.banner], offer "slot2" "b" [.native]] }
        (offeredRequest [offeredBanner "slot1"]).payload (answer ["slot2"]) := by
  refine ⟨by cbv, fun refuses => ?_⟩
  have carries : (Reply.ofResponse (answer ["slot2"])).response = some (answer ["slot2"]) := rfl
  have sentAll := refuses.1.mp <| (Adapter.extractBids_succeeds_iff carries).mpr <| by
    simp [answer, BidResponse.bids, IsUnknown, offer]
  simp [answer, BidResponse.bids, IsUnsent, offeredRequest, offeredBanner, Adapter.post] at sentAll

/-! ## Ad units that share a code -/

/-- The draft names the bidder and the bid of an ad unit. -/
def Draft.IsFor (draft : Draft) (unit : AdUnit) : Prop :=
  draft.bidder = some unit.bidderCode ∧ draft.bidId = some unit.bidId

theorem eq_of_isFirst_code {units : List AdUnit} {first unit : AdUnit}
    (distinct : (units.map (·.code)).Nodup) (isFirst : IsFirst (·.code = unit.code) units first)
    (mem : unit ∈ units) : first = unit :=
  List.inj_on_of_nodup_map distinct isFirst.mem mem isFirst.holds

/-- A draft from the first ad unit with a code is for another ad unit with this code exactly if
the two say the same. -/
theorem isFor_iff {units : List AdUnit} {first unit : AdUnit} {bid : OpenRtb.Bid}
    (found : unitFor? units unit.code = some first) :
    (Draft.ofBid first bid).IsFor unit ↔
      ∀ first, IsFirst (·.code = unit.code) units first →
        first.bidderCode = unit.bidderCode ∧ first.bidId = unit.bidId := by
  simp only [← unitFor?_eq_some_iff, found, Option.some.injEq, forall_eq']
  simp [Draft.IsFor, Draft.ofBid]

theorem forall₂_iff_forall {α β : Type} {r : α → β → Prop} {p : α → Prop} {as : List α}
    {bs : List β} (pairs : List.Forall₂ (fun a b => r a b ↔ p a) as bs) :
    List.Forall₂ r as bs ↔ ∀ a ∈ as, p a := by
  induction pairs with
  | nil => simp
  | cons head _ ih => simp [head, ih]

/-- Bids that answer the impressions of a request one by one go each to the first ad unit with the
code of the ad unit that the impression was made for.  They are attributed to these very ad units
exactly if each of them says the same as the first one with its code, as it does where no two ad
units share a code. -/
theorem extractBids_origins (made : (adapter.requests batch context).outcome = .ok requests)
    (sent : request ∈ requests) :
    ∃ valid, (validate batch.units).outcome = .ok valid ∧
      request.payload.imp = (originsOf valid context).map Prod.fst ∧
      ∀ response : BidResponse,
        response.bids.map (·.impid) = request.payload.imp.map (·.id) →
        ∃ drafts, (Adapter.extractBids batch (.ofResponse response)).outcome = .ok drafts ∧
          List.Forall₂ (fun origin draft => ∃ first,
            IsFirst (·.code = origin.2.code) batch.units first ∧ draft.IsFor first)
            (originsOf valid context) drafts ∧
          (List.Forall₂ (fun origin draft => draft.IsFor origin.2)
              (originsOf valid context) drafts ↔
            ∀ origin ∈ originsOf valid context, ∀ first,
              IsFirst (·.code = origin.2.code) batch.units first →
              first.bidderCode = origin.2.bidderCode ∧ first.bidId = origin.2.bidId) ∧
          ((batch.units.map (·.code)).Nodup →
            List.Forall₂ (fun origin draft => draft.IsFor origin.2)
              (originsOf valid context) drafts) := by
  obtain ⟨valid, validated, imps⟩ := requests_origins made sent
  refine ⟨valid, validated, imps, fun response answers => ?_⟩
  have each : List.Forall₂ (fun origin bid => bid.impid = origin.2.code)
      (originsOf valid context) response.bids := by
    have codes : List.Forall₂ Eq (response.bids.map (·.impid))
        ((originsOf valid context).map (·.2.code)) := by
      rw [List.forall₂_eq_eq_eq, answers, imps, List.map_map]
      exact List.map_congr_left fun origin mem => id_of_mem_originsOf mem
    exact (List.forall₂_map_right_iff.mp (List.forall₂_map_left_iff.mp codes)).flip
  have known : ∀ origin ∈ originsOf valid context, ∀ bid : OpenRtb.Bid,
      bid.impid = origin.2.code → ∃ unit ∈ batch.units, unit.code = bid.impid :=
    fun origin mem bid same => ⟨origin.2, unit_of_mem_originsOf validated mem, same.symm⟩
  have carries : (Reply.ofResponse response).response = some response := rfl
  obtain ⟨drafts, extracted, fit⟩ := Adapter.extractBids_of_answers carries each known
  have own : List.Forall₂ (fun origin draft => draft.IsFor origin.2) (originsOf valid context)
      drafts ↔ ∀ origin ∈ originsOf valid context, ∀ first,
        IsFirst (·.code = origin.2.code) batch.units first →
        first.bidderCode = origin.2.bidderCode ∧ first.bidId = origin.2.bidId := by
    refine forall₂_iff_forall (fit.imp ?_)
    rintro origin draft ⟨bid, first, same, found, rfl⟩
    rw [same] at found
    exact isFor_iff found
  refine ⟨drafts, extracted, fit.imp ?_, own, fun distinct => own.mpr ?_⟩
  · rintro origin draft ⟨bid, first, same, found, rfl⟩
    rw [same] at found
    exact ⟨first, unitFor?_eq_some_iff.mp found, rfl, rfl⟩
  · intro origin mem first isFirst
    obtain rfl := eq_of_isFirst_code distinct isFirst (unit_of_mem_originsOf validated mem)
    exact ⟨rfl, rfl⟩

/-- Two ad units that share a code. -/
def sharedCode : Batch where
  units := [offer "slot1" "a" [.banner], offer "slot1" "b" [.banner]]

theorem extractBids_origins_sharedCode :
    (Adapter.requests ⟨"http://localhost/bid"⟩ sharedCode {}).outcome =
        .ok [offeredRequest [offeredBanner "slot1", offeredBanner "slot1"]] ∧
      ∃ drafts, (Adapter.extractBids sharedCode (.ofResponse (answer ["slot1", "slot1"]))).outcome =
        .ok drafts := by
  have made : (Adapter.requests ⟨"http://localhost/bid"⟩ sharedCode {}).outcome =
      .ok [offeredRequest [offeredBanner "slot1", offeredBanner "slot1"]] := by
    cbv
  obtain ⟨_, -, -, extracted⟩ := extractBids_origins made List.mem_cons_self
  obtain ⟨drafts, ok, -⟩ := extracted (answer ["slot1", "slot1"]) rfl
  exact ⟨made, drafts, ok⟩

/-- The bid for the second of two ad units that share a code goes to the first of them. -/
theorem extractBids_second_of_sharedCode :
    (Adapter.requests ⟨"http://localhost/bid"⟩ sharedCode {}).outcome =
        .ok [offeredRequest [offeredBanner "slot1", offeredBanner "slot1"]] ∧
      (validate sharedCode.units).outcome.map
        (fun valid => (originsOf valid {}).map (·.2.bidId)) = .ok ["a", "b"] ∧
      (Adapter.extractBids sharedCode (.ofResponse (answer ["slot1", "slot1"]))).outcome.map
        (List.map Draft.bidId) = .ok [some "a", some "a"] := by
  refine ⟨?_, ?_, ?_⟩ <;> cbv

end HeaderBidding
