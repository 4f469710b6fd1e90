import HeaderBidding.Adapter
import HeaderBidding.Proofs.Trace

/-!
# Which bids are extracted

A bid is attributed to the first ad unit with the code that it names.  The drafts of a response
stand in the order of its bids, one for each, or the first bid that names no ad unit is refused.
-/

namespace HeaderBidding

open OpenRtb (BidResponse)

variable {units : List AdUnit} {unit : AdUnit} {code : String} {bid : OpenRtb.Bid} {draft : Draft}

/-! ## Single bids -/

theorem unitFor?_eq_none_iff : unitFor? units code = none ↔ ∀ unit ∈ units, unit.code ≠ code := by
  simp [unitFor?]

/-- The ad unit for a code is the first that has it. -/
theorem unitFor?_eq_some_iff :
    unitFor? units code = some unit ↔ IsFirst (·.code = code) units unit := by
  rw [unitFor?, List.find?_eq_some_iff_append]
  constructor
  · rintro ⟨holds, before, after, split, others⟩
    exact ⟨before, after, split, by simpa using holds, by simpa using others⟩
  · rintro ⟨before, after, split, holds, others⟩
    exact ⟨by simpa using holds, before, after, split, by simpa using others⟩

theorem unitFor?_isSome_iff :
    (∃ unit, unitFor? units code = some unit) ↔ ∃ unit ∈ units, unit.code = code := by
  simp only [unitFor?_eq_some_iff, IsFirst.exists_iff]

theorem draftFor_eq_ok_iff :
    (draftFor units bid).outcome = .ok draft ↔
      ∃ unit, unitFor? units bid.impid = some unit ∧ draft = Draft.ofBid unit bid := by
  rw [draftFor]
  cases unitFor? units bid.impid with
  | some unit => simp [eq_comm]
  | none =>
      rw [Traced.outcome_bind_of_ok (Traced.outcome_log _)]
      simp

theorem draftFor_eq_error_iff {e : AdapterError} :
    (draftFor units bid).outcome = .error e ↔
      (∀ unit ∈ units, unit.code ≠ bid.impid) ∧ e = .unknownImpression bid.impid := by
  rw [← unitFor?_eq_none_iff, draftFor]
  cases unitFor? units bid.impid with
  | some unit => simp
  | none =>
      rw [Traced.outcome_bind_of_ok (Traced.outcome_log _)]
      simp [eq_comm]

theorem draftFor_succeeds_iff :
    (∃ draft, (draftFor units bid).outcome = .ok draft) ↔ ∃ unit ∈ units, unit.code = bid.impid := by
  simp only [draftFor_eq_ok_iff, ← unitFor?_isSome_iff, exists_comm (α := Draft), exists_and_left,
    exists_eq, and_true]

/-! ## All bids of a response -/

theorem draftsFor_eq_each (units : List AdUnit) (bids : List OpenRtb.Bid) :
    draftsFor units bids = Traced.each (draftFor units) bids := by
  induction bids with
  | nil => rfl
  | cons bid bids ih => rw [draftsFor, Traced.each, ih]

/-- The bid is for none of the ad units. -/
def IsUnknown (units : List AdUnit) (bid : OpenRtb.Bid) : Prop :=
  ∀ unit ∈ units, unit.code ≠ bid.impid

theorem not_isUnknown_iff : ¬IsUnknown units bid ↔ ∃ unit ∈ units, unit.code = bid.impid := by
  simp [IsUnknown]

theorem draftFor_fails_iff :
    (∃ e, (draftFor units bid).outcome = .error e) ↔ IsUnknown units bid := by
  simp only [draftFor_eq_error_iff, exists_and_left, exists_eq, and_true, IsUnknown]

namespace Adapter

variable {batch : Batch} {reply : Reply} {response : BidResponse}

theorem extractBids_of_response (carries : reply.response = some response) :
    extractBids batch reply = Traced.each (draftFor batch.units) response.bids := by
  rw [extractBids, carries, extract, draftsFor_eq_each]

/-- There is one draft for each bid of the response, in their order. -/
theorem extractBids_eq_ok_iff (carries : reply.response = some response) {drafts : List Draft} :
    (extractBids batch reply).outcome = .ok drafts ↔
      List.Forall₂ (fun bid draft => ∃ unit, unitFor? batch.units bid.impid = some unit ∧
        draft = Draft.ofBid unit bid) response.bids drafts := by
  rw [extractBids_of_response carries, Traced.each_eq_ok_iff]
  simp only [draftFor_eq_ok_iff]

theorem extractBids_succeeds_iff (carries : reply.response = some response) :
    (∃ drafts, (extractBids batch reply).outcome = .ok drafts) ↔
      ∀ bid ∈ response.bids, ¬IsUnknown batch.units bid := by
  rw [extractBids_of_response carries, Traced.each_succeeds_iff]
  exact forall₂_congr fun bid _ => draftFor_succeeds_iff.trans not_isUnknown_iff.symm

/-- The first bid for none of the ad units is refused, and with it the response. -/
theorem extractBids_eq_error_iff (carries : reply.response = some response) {e : AdapterError} :
    (extractBids batch reply).outcome = .error e ↔
      ∃ bid, IsFirst (IsUnknown batch.units) response.bids bid ∧
        e = .unknownImpression bid.impid := by
  rw [extractBids_of_response carries, Traced.each_eq_error_iff]
  simp only [draftFor_fails_iff]
  refine exists_congr fun bid => and_congr_right fun first => ?_
  rw [draftFor_eq_error_iff]
  exact and_iff_right first.holds

/-- A response whose bids answer some items one by one gives a draft for each item, from the bid
that answers it and the ad unit that this bid names. -/
theorem extractBids_of_answers (carries : reply.response = some response) {α : Type}
    {items : List α} {answers : α → OpenRtb.Bid → Prop}
    (each : List.Forall₂ answers items response.bids)
    (known : ∀ item ∈ items, ∀ bid, answers item bid →
      ∃ unit ∈ batch.units, unit.code = bid.impid) :
    ∃ drafts, (extractBids batch reply).outcome = .ok drafts ∧
      List.Forall₂ (fun item draft => ∃ bid unit, answers item bid ∧
        unitFor? batch.units bid.impid = some unit ∧ draft = Draft.ofBid unit bid)
        items drafts := by
  simp only [extractBids_eq_ok_iff carries]
  generalize response.bids = bids at each
  induction each with
  | nil => exact ⟨[], .nil, .nil⟩
  | @cons item bid items bids first others ih =>
      obtain ⟨knownFirst, knownOthers⟩ := List.forall_mem_cons.mp known
      obtain ⟨drafts, made, fit⟩ := ih knownOthers
      obtain ⟨unit, found⟩ := unitFor?_isSome_iff.mpr (knownFirst bid first)
      refine ⟨Draft.ofBid unit bid :: drafts, .cons ⟨unit, found, rfl⟩ made, .cons ?_ fit⟩
      exact ⟨bid, unit, first, found, rfl⟩

end Adapter

/-! ## What is drafted -/

/-- The bids of a response, seat by seat.  There are none if there is no response. -/
def bidsIn (response : Option BidResponse) : List OpenRtb.Bid :=
  response.elim [] fun response => response.seatbid.flatMap (·.bid)

/-- The draft says what the bid says, of the first ad unit with the code that the bid names.  What
the partner does not say has not been set. -/
structure IsDraftOf (units : List AdUnit) (bid : OpenRtb.Bid) (draft : Draft) : Prop where
  built : ∃ unit, IsFirst (·.code = bid.impid) units unit ∧ draft.build =
    { bidder := unit.bidderCode, bidId := unit.bidId, code := bid.impid, price := bid.price,
      adm := bid.adm, creativeId := bid.crid, width := bid.w, height := bid.h, dealId := none,
      mediaType := none, responseTimeMs := none, targeting := none }
  unset : draft.dealId = none ∧ draft.mediaType = none ∧ draft.responseTimeMs = none ∧
    draft.targeting = none

theorem isDraftOf_of_draftFor (drafted : (draftFor units bid).outcome = .ok draft) :
    IsDraftOf units bid draft := by
  obtain ⟨unit, found, rfl⟩ := draftFor_eq_ok_iff.mp drafted
  exact ⟨⟨unit, unitFor?_eq_some_iff.mp found, rfl⟩, rfl, rfl, rfl, rfl⟩

theorem extract_eq_each (units : List AdUnit) (response : Option BidResponse) :
    extract units response = Traced.each (draftFor units) (bidsIn response) := by
  cases response with
  | none => rfl
  | some response => exact draftsFor_eq_each units response.bids

/-- If every bid names an ad unit, there is a draft for each in their order.  Otherwise the first
bid that names none is refused, whatever the others are. -/
theorem extract_outcome (units : List AdUnit) (response : Option BidResponse) :
    ((∀ bid ∈ bidsIn response, ∃ unit ∈ units, unit.code = bid.impid) →
        ∃ drafts, (extract units response).outcome = .ok drafts ∧
          List.Forall₂ (IsDraftOf units) (bidsIn response) drafts) ∧
      ((¬∀ bid ∈ bidsIn response, ∃ unit ∈ units, unit.code = bid.impid) →
        ∃ bid, IsFirst (∀ unit ∈ units, unit.code ≠ ·.impid) (bidsIn response) bid ∧
          (extract units response).outcome = .error (.unknownImpression bid.impid)) := by
  rw [extract_eq_each]
  constructor
  · intro known
    obtain ⟨drafts, made⟩ :=
      Traced.each_succeeds_iff.mpr fun bid mem => draftFor_succeeds_iff.mpr (known bid mem)
    exact ⟨drafts, made, (Traced.each_eq_ok_iff.mp made).imp fun _ _ => isDraftOf_of_draftFor⟩
  · intro unknown
    obtain ⟨bid, first⟩ : ∃ bid, IsFirst (IsUnknown units) (bidsIn response) bid := by
      rw [IsFirst.exists_iff]
      simpa [IsUnknown] using unknown
    refine ⟨bid, first, Traced.each_eq_error_iff.mpr ⟨bid, ?_, ?_⟩⟩
    · simpa only [draftFor_fails_iff] using first
    · exact draftFor_eq_error_iff.mpr ⟨first.holds, rfl⟩

/-- Three ad units, of which the first and the last share a code. -/
def sharingUnits : List AdUnit :=
  [{ bidId := "1", code := "a" }, { bidId := "2", code := "b" }, { bidId := "3", code := "a" }]

/-- A response whose seats bid for the given impressions. -/
def seatsFor (seats : List (List String)) : BidResponse where
  seatbid := seats.map fun impids => { bid := impids.map fun impid => { impid } }

theorem extract_outcome_seats :
    (∀ bid ∈ bidsIn (some (seatsFor [["b", "a"], [], ["a"]])),
        ∃ unit ∈ sharingUnits, unit.code = bid.impid) ∧
      (∃ drafts, (extract sharingUnits (some (seatsFor [["b", "a"], [], ["a"]]))).outcome =
          .ok drafts ∧
        List.Forall₂ (IsDraftOf sharingUnits) (bidsIn (some (seatsFor [["b", "a"], [], ["a"]])))
          drafts) ∧
      (¬∀ bid ∈ bidsIn (some (seatsFor [[], ["a", "c", "d"]])),
        ∃ unit ∈ sharingUnits, unit.code = bid.impid) ∧
      ∃ bid, IsFirst (∀ unit ∈ sharingUnits, unit.code ≠ ·.impid)
          (bidsIn (some (seatsFor [[], ["a", "c", "d"]]))) bid ∧
        (extract sharingUnits (some (seatsFor [[], ["a", "c", "d"]]))).outcome =
          .error (.unknownImpression bid.impid) := by
  have known : ∀ bid ∈ bidsIn (some (seatsFor [["b", "a"], [], ["a"]])),
      ∃ unit ∈ sharingUnits, unit.code = bid.impid := by
    simp [bidsIn, seatsFor, sharingUnits]
  have unknown : ¬∀ bid ∈ bidsIn (some (seatsFor [[], ["a", "c", "d"]])),
      ∃ unit ∈ sharingUnits, unit.code = bid.impid := by
    simp [bidsIn, seatsFor, sharingUnits]
  exact ⟨known, (extract_outcome _ _).1 known, unknown, (extract_outcome _ _).2 unknown⟩

end HeaderBidding
