import HeaderBidding.Proofs.Extraction

/-!
# Drafts that are completed

What the partner does not say of a bid is set by the caller, in any order and as often as it likes.
What the partner says stays as it is, and each of the other members holds what it was set to last.
-/

namespace HeaderBidding.Draft

variable {β : Type} {draft : Draft}

/-! ## What was set last -/

namespace Completion

/-- The deal that is set. -/
def dealId? : Completion → Option (Option String)
  | dealId id => some id
  | _ => none

/-- The kind of media that is set. -/
def mediaType? : Completion → Option (Option MediaType)
  | mediaType media => some media
  | _ => none

/-- The response time that is set. -/
def responseTimeMs? : Completion → Option (Option UInt64)
  | responseTimeMs ms => some ms
  | _ => none

/-- The targeting that is set. -/
def targeting? : Completion → Option (Option (List (String × String)))
  | targeting entries => some entries
  | _ => none

/-- What a member is set to last, if it is set at all. -/
def last? (value? : Completion → Option β) (completions : List Completion) : Option β :=
  (completions.filterMap value?).getLast?

/-- What a member is left with: what it is set to last, or no value if it is not set. -/
def final (value? : Completion → Option (Option β)) (completions : List Completion) : Option β :=
  (last? value? completions).getD none

/-- Both leave each member with the same. -/
structure AgreeAtLast (completions others : List Completion) : Prop where
  dealId : final dealId? completions = final dealId? others
  mediaType : final mediaType? completions = final mediaType? others
  responseTimeMs : final responseTimeMs? completions = final responseTimeMs? others
  targeting : final targeting? completions = final targeting? others

theorem last?_cons (value? : Completion → Option β) (completion : Completion)
    (completions : List Completion) :
    last? value? (completion :: completions) =
      (last? value? completions).or (value? completion) := by
  rw [last?, last?, List.filterMap_cons]
  cases value? completion with
  | none => simp
  | some value => cases h : (completions.filterMap value?).getLast? <;> simp [List.getLast?_cons, h]

end Completion

open Completion

/-! ## Sequences of completions -/

/-- The draft with members set one after the other. -/
def completeAll (draft : Draft) (completions : List Completion) : Draft :=
  completions.foldl complete draft

/-- What a draft says without what is left to the caller. -/
def offered (draft : Draft) : Draft :=
  { draft with dealId := none, mediaType := none, responseTimeMs := none, targeting := none }

theorem offered_complete (draft : Draft) (completion : Completion) :
    (draft.complete completion).offered = draft.offered := by
  cases completion <;> rfl

theorem offered_completeAll (draft : Draft) (completions : List Completion) :
    (draft.completeAll completions).offered = draft.offered := by
  induction completions generalizing draft with
  | nil => rfl
  | cons completion completions ih =>
      exact (ih (draft.complete completion)).trans (offered_complete draft completion)

/-- If each completion leaves a member alone unless it sets it, the member is left alone until it is
set, and then holds what was set last. -/
theorem member_completeAll (member : Draft → Option β) (value? : Completion → Option β)
    (step : ∀ draft completion,
      member (complete draft completion) = (value? completion).or (member draft))
    (draft : Draft) (completions : List Completion) :
    member (draft.completeAll completions) = (last? value? completions).or (member draft) := by
  induction completions generalizing draft with
  | nil => rfl
  | cons completion completions ih =>
      calc member ((draft.complete completion).completeAll completions)
          = (last? value? completions).or (member (draft.complete completion)) := ih _
        _ = ((last? value? completions).or (value? completion)).or (member draft) := by
            rw [step, Option.or_assoc]
        _ = (last? value? (completion :: completions)).or (member draft) := by
            rw [last?_cons]

/-- Each of the four members holds what it was set to last, and nothing else has changed. -/
theorem completeAll_eq (draft : Draft) (completions : List Completion) :
    draft.completeAll completions =
      { draft with
        dealId := (last? dealId? completions).or draft.dealId
        mediaType := (last? mediaType? completions).or draft.mediaType
        responseTimeMs := (last? responseTimeMs? completions).or draft.responseTimeMs
        targeting := (last? targeting? completions).or draft.targeting } := by
  have deal := member_completeAll (·.dealId) dealId?
    (fun _ completion => by cases completion <;> rfl) draft completions
  have media := member_completeAll (·.mediaType) mediaType?
    (fun _ completion => by cases completion <;> rfl) draft completions
  have time := member_completeAll (·.responseTimeMs) responseTimeMs?
    (fun _ completion => by cases completion <;> rfl) draft completions
  have entries := member_completeAll (·.targeting) targeting?
    (fun _ completion => by cases completion <;> rfl) draft completions
  have offered := offered_completeAll draft completions
  rw [← deal, ← media, ← time, ← entries]
  exact congrArg (fun rest : Draft =>
    { rest with
      dealId := (draft.completeAll completions).dealId
      mediaType := (draft.completeAll completions).mediaType
      responseTimeMs := (draft.completeAll completions).responseTimeMs
      targeting := (draft.completeAll completions).targeting }) offered

/-! ## Extracted drafts -/

variable {units : List AdUnit} {response : Option OpenRtb.BidResponse} {drafts : List Draft}

/-- All that is not left to the caller has been set in the draft, and the bid says the same. -/
structure SaysOffer (draft : Draft) (bid : Bid) : Prop where
  bidder : draft.bidder = some bid.bidder
  bidId : draft.bidId = some bid.bidId
  code : draft.code = some bid.code
  price : draft.price = some bid.price
  adm : draft.adm = some bid.adm
  creativeId : draft.creativeId = some bid.creativeId
  width : draft.width = some bid.width
  height : draft.height = some bid.height

theorem exists_eq_ofBid (extracted : (extract units response).outcome = .ok drafts)
    (mem : draft ∈ drafts) : ∃ unit bid, draft = ofBid unit bid := by
  rw [extract_eq_each, Traced.each_eq_ok_iff, List.forall₂_iff_get] at extracted
  obtain ⟨length, each⟩ := extracted
  obtain ⟨place, bound, rfl⟩ := List.getElem_of_mem mem
  obtain ⟨unit, -, same⟩ := draftFor_eq_ok_iff.mp (each place (length ▸ bound) bound)
  exact ⟨unit, _, same⟩

theorem unset_of_extract (extracted : (extract units response).outcome = .ok drafts)
    (mem : draft ∈ drafts) :
    draft.dealId = none ∧ draft.mediaType = none ∧ draft.responseTimeMs = none ∧
      draft.targeting = none := by
  obtain ⟨unit, bid, rfl⟩ := exists_eq_ofBid extracted mem
  exact ⟨rfl, rfl, rfl, rfl⟩

theorem saysOffer_build (extracted : (extract units response).outcome = .ok drafts)
    (mem : draft ∈ drafts) : draft.SaysOffer draft.build := by
  obtain ⟨unit, bid, rfl⟩ := exists_eq_ofBid extracted mem
  exact ⟨rfl, rfl, rfl, rfl, rfl, rfl, rfl, rfl⟩

/-- However an extracted draft is completed, each member that is left to the caller holds what it
was set to last, and is unset if it was never set.  Nothing else changes, neither in the draft nor
in the bid that is built of it, which says what the draft does.  So the bid depends on what was set
last alone. -/
theorem build_completeAll (extracted : (extract units response).outcome = .ok drafts)
    (mem : draft ∈ drafts) :
    (∀ completions,
      draft.completeAll completions =
          { draft with
            dealId := last? dealId? completions
            mediaType := last? mediaType? completions
            responseTimeMs := last? responseTimeMs? completions
            targeting := last? targeting? completions } ∧
        (draft.completeAll completions).build =
          { draft.build with
            dealId := final dealId? completions
            mediaType := final mediaType? completions
            responseTimeMs := final responseTimeMs? completions
            targeting := final targeting? completions } ∧
        draft.SaysOffer (draft.completeAll completions).build) ∧
      ∀ completions others, AgreeAtLast completions others →
        (draft.completeAll completions).build = (draft.completeAll others).build := by
  obtain ⟨dealId, mediaType, responseTimeMs, targeting⟩ := unset_of_extract extracted mem
  have completed (completions : List Completion) := completeAll_eq draft completions
  simp only [dealId, mediaType, responseTimeMs, targeting, Option.or_none] at completed
  have built (completions : List Completion) : (draft.completeAll completions).build =
      { draft.build with
        dealId := final dealId? completions
        mediaType := final mediaType? completions
        responseTimeMs := final responseTimeMs? completions
        targeting := final targeting? completions } := by
    rw [completed]
    rfl
  have offer := saysOffer_build extracted mem
  have kept (completions : List Completion) :
      draft.SaysOffer (draft.completeAll completions).build := by
    rw [built]
    exact ⟨offer.bidder, offer.bidId, offer.code, offer.price, offer.adm, offer.creativeId,
      offer.width, offer.height⟩
  refine ⟨fun completions => ⟨completed completions, built completions, kept completions⟩, ?_⟩
  intro completions others agree
  rw [built, built, agree.dealId, agree.mediaType, agree.responseTimeMs, agree.targeting]

/-- A draft whose deal is set and taken back, and whose response time is set twice. -/
theorem build_completeAll_twice :
    let units : List AdUnit := [{ bidderCode := "pulsepoint", bidId := "2", code := "b" }]
    let bid : OpenRtb.Bid := { impid := "b", price := 2.5, crid := some "creative", w := some 300 }
    let completions : List Completion :=
      [.dealId (some "deal"), .responseTimeMs (some 7), .targeting (some [("hb_pb", "1.50")]),
        .dealId none, .responseTimeMs (some 8)]
    ∃ draft, (extract units (some { seatbid := [{ bid := [bid] }] })).outcome = .ok [draft] ∧
      (draft.completeAll completions).dealId = some none ∧
      (draft.completeAll completions).mediaType = none ∧
      (draft.completeAll completions).build =
        { bidder := "pulsepoint", bidId := "2", code := "b", price := 2.5,
          creativeId := some "creative", width := some 300, responseTimeMs := some 8,
          targeting := some [("hb_pb", "1.50")] } ∧
      draft.SaysOffer (draft.completeAll completions).build := by
  intro units bid completions
  have extracted : (extract units (some { seatbid := [{ bid := [bid] }] })).outcome =
      .ok [ofBid { bidderCode := "pulsepoint", bidId := "2", code := "b" } bid] := by
    rfl
  obtain ⟨completed, built, offer⟩ :=
    (build_completeAll extracted List.mem_cons_self).1 completions
  refine ⟨_, extracted, ?_, ?_, ?_, offer⟩
  · rw [completed]
    rfl
  · rw [completed]
    rfl
  · rw [built]
    rfl

end HeaderBidding.Draft
