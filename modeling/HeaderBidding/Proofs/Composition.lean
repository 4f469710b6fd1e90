import HeaderBidding.Proofs.Envelope
import HeaderBidding.Proofs.Offers
import HeaderBidding.Proofs.RequestOutcome

/-!
# Ad units side by side

Two lists of ad units behind each other are validated exactly if both are, and their impressions
stand behind each other.  Where they are refused, the media of both lists come before the parameters
of either.  Ad units in another order give the same blocks of impressions in that order, and perhaps
another publisher, but nothing else.
-/

namespace HeaderBidding

open OpenRtb (BidRequest Imp)

namespace IsFirst

variable {α : Type} {p : α → Prop} {items : List α} {a : α}

theorem append_left (first : IsFirst p items a) (others : List α) :
    IsFirst p (items ++ others) a := by
  obtain ⟨before, after, rfl, holds, fails⟩ := first
  exact ⟨before, after ++ others, by simp, holds, fails⟩

theorem append_right {others : List α} (none : ∀ b ∈ others, ¬p b) (first : IsFirst p items a) :
    IsFirst p (others ++ items) a := by
  obtain ⟨before, after, rfl, holds, fails⟩ := first
  exact ⟨others ++ before, after, by simp, holds, List.forall_mem_append.mpr ⟨none, fails⟩⟩

end IsFirst

/-! ## Faults -/

/-- Some ad unit declares video and lacks the data for it. -/
def FailsMedia (units : List AdUnit) : Prop :=
  ∃ unit ∈ units, unit.LacksVideoData

/-- What ad units are refused for. -/
inductive IsFault (units : List AdUnit) : AdapterError → Prop
  | media {unit : AdUnit} (first : IsFirst AdUnit.LacksVideoData units unit) :
      IsFault units (.videoWithoutData unit.code)
  | params {unit : AdUnit} {reason : ParamsError} (media : ¬FailsMedia units)
      (first : IsFirst AdUnit.HasBadParams units unit)
      (bad : unit.partnerParams = .error reason) : IsFault units (.params reason)

/-- Which of two lists of ad units is the one whose error is that of both. -/
inductive IsFaultOf (first second : List AdUnit) (e : AdapterError) : Prop
  | firstMedia (lacks : FailsMedia first) (failed : (validate first).outcome = .error e)
  | secondMedia (media : ¬FailsMedia first) (lacks : FailsMedia second)
      (failed : (validate second).outcome = .error e)
  | firstParams (media : ¬FailsMedia first) (media' : ¬FailsMedia second)
      (failed : (validate first).outcome = .error e)
  | secondParams (media : ¬FailsMedia first) (media' : ¬FailsMedia second)
      (passed : ∃ valid, (validate first).outcome = .ok valid)
      (failed : (validate second).outcome = .error e)

variable {units first second others : List AdUnit} {valid one two : List ValidUnit}
  {context : AuctionContext} {e : AdapterError} {imps : List Imp}

theorem failsMedia_append :
    FailsMedia (first ++ second) ↔ FailsMedia first ∨ FailsMedia second := by
  simp [FailsMedia, or_and_right, exists_or]

theorem validate_eq_error_iff : (validate units).outcome = .error e ↔ IsFault units e := by
  constructor
  · intro failed
    rcases AdUnit.exists_first_fault units with ⟨unit, lacks⟩ | ⟨media, ⟨unit, bad⟩ | good⟩
    · rw [validate_of_lacks_video lacks] at failed
      obtain rfl := Except.error.inj failed
      exact .media lacks
    · obtain ⟨reason, rejected⟩ := bad.holds
      rw [validate_of_bad_params media bad rejected] at failed
      obtain rfl := Except.error.inj failed
      exact .params (by simpa [FailsMedia] using media) bad rejected
    · obtain ⟨valid, passed⟩ := validate_of_no_fault media good
      rw [passed] at failed
      contradiction
  · rintro (lacks | ⟨media, bad, rejected⟩)
    · exact validate_of_lacks_video lacks
    · exact validate_of_bad_params (by simpa [FailsMedia] using media) bad rejected

theorem exists_error_of_failsMedia (lacks : FailsMedia units) :
    ∃ e, (validate units).outcome = .error e := by
  obtain ⟨unit, isFirst⟩ := IsFirst.exists_iff.mpr lacks
  exact ⟨_, validate_of_lacks_video isFirst⟩

/-! ## Two lists -/

theorem validate_append (passed : (validate first).outcome = .ok one)
    (passed' : (validate second).outcome = .ok two) :
    (validate (first ++ second)).outcome = .ok (one ++ two) := by
  obtain ⟨media, pairs⟩ := validate_eq_ok_iff.mp passed
  obtain ⟨media', pairs'⟩ := validate_eq_ok_iff.mp passed'
  exact validate_eq_ok_iff.mpr
    ⟨List.forall_mem_append.mpr ⟨media, media'⟩, List.rel_append pairs pairs'⟩

theorem validate_append_succeeds_iff :
    (∃ valid, (validate (first ++ second)).outcome = .ok valid) ↔
      (∃ one, (validate first).outcome = .ok one) ∧ ∃ two, (validate second).outcome = .ok two := by
  simp only [validate_succeeds_iff, List.forall_mem_append]

theorem IsFaultOf.validate_append (fault : IsFaultOf first second e) :
    (validate (first ++ second)).outcome = .error e := by
  rw [validate_eq_error_iff]
  cases fault with
  | firstMedia lacks failed =>
      cases validate_eq_error_iff.mp failed with
      | media isFirst => exact .media (isFirst.append_left second)
      | params media => contradiction
  | secondMedia media lacks failed =>
      cases validate_eq_error_iff.mp failed with
      | media isFirst =>
          exact .media (isFirst.append_right fun unit mem lacks => media ⟨unit, mem, lacks⟩)
      | params media' => contradiction
  | firstParams media media' failed =>
      have none : ¬FailsMedia (first ++ second) := by
        simp [failsMedia_append, media, media']
      cases validate_eq_error_iff.mp failed with
      | media isFirst => exact absurd ⟨_, isFirst.mem, isFirst.holds⟩ media
      | params _ isFirst bad => exact .params none (isFirst.append_left second) bad
  | secondParams media media' passed failed =>
      have none : ¬FailsMedia (first ++ second) := by
        simp [failsMedia_append, media, media']
      cases validate_eq_error_iff.mp failed with
      | media isFirst => exact absurd ⟨_, isFirst.mem, isFirst.holds⟩ media'
      | params _ isFirst bad =>
          refine .params none (isFirst.append_right fun unit mem rejected => ?_) bad
          obtain ⟨-, params, accepted⟩ := validate_succeeds_iff.mp passed unit mem
          obtain ⟨reason, rejected⟩ := rejected
          rw [accepted] at rejected
          contradiction

/-- The error of two lists is that of the one whose fault comes first, where media come before
parameters. -/
theorem validate_append_eq_error_iff :
    (validate (first ++ second)).outcome = .error e ↔ IsFaultOf first second e := by
  refine ⟨fun failed => ?_, IsFaultOf.validate_append⟩
  have decided : ∃ e', IsFaultOf first second e' := by
    by_cases lacks : FailsMedia first
    · obtain ⟨e', failed'⟩ := exists_error_of_failsMedia lacks
      exact ⟨e', .firstMedia lacks failed'⟩
    by_cases lacks' : FailsMedia second
    · obtain ⟨e', failed'⟩ := exists_error_of_failsMedia lacks'
      exact ⟨e', .secondMedia lacks lacks' failed'⟩
    cases outcome : (validate first).outcome with
    | error e' => exact ⟨e', .firstParams lacks lacks' outcome⟩
    | ok one =>
        cases outcome' : (validate second).outcome with
        | error e' => exact ⟨e', .secondParams lacks lacks' ⟨one, outcome⟩ outcome'⟩
        | ok two =>
            rw [HeaderBidding.validate_append outcome outcome'] at failed
            contradiction
  obtain ⟨e', fault⟩ := decided
  obtain rfl := Except.error.inj (fault.validate_append.symm.trans failed)
  exact fault

/-! ## What is requested -/

/-- The impressions that are requested for validated ad units: those of their request, or none if
there is nothing to request. -/
inductive IsRequested (valid : List ValidUnit) (context : AuctionContext) : List Imp → Prop
  | made {payload : BidRequest} (made : (bidRequest valid context).outcome = .ok payload) :
      IsRequested valid context payload.imp
  | nothing (refused : (bidRequest valid context).outcome = .error .noValidImpressions) :
      IsRequested valid context []

theorem isRequested_impsOf (valid : List ValidUnit) (context : AuctionContext) :
    IsRequested valid context (impsOf valid context) := by
  by_cases none : impsOf valid context = []
  · rw [none]
    exact .nothing (bidRequest_of_no_imps none)
  · exact .made (bidRequest_of_imps none)

theorem bidRequest_refused_iff :
    (bidRequest valid context).outcome = .error .noValidImpressions ↔
      impsOf valid context = [] := by
  refine ⟨fun refused => ?_, bidRequest_of_no_imps⟩
  by_contra some
  rw [bidRequest_of_imps some] at refused
  contradiction

theorem impsOf_append (one two : List ValidUnit) (context : AuctionContext) :
    impsOf (one ++ two) context = impsOf one context ++ impsOf two context :=
  List.flatMap_append

/-- A request that is made for validated ad units is published by the last of them. -/
theorem isPublishedBy_of_bidRequest {last : AdUnit}
    (validated : (validate units).outcome = .ok valid) (isLast : units.getLast? = some last) :
    ∃ params, last.partnerParams = .ok params ∧
      ∀ payload, (bidRequest valid context).outcome = .ok payload →
        IsPublishedBy context { id := some params.publisherId } payload := by
  obtain ⟨params, accepted, publisher⟩ := publisherOf_of_getLast? validated isLast
  refine ⟨params, accepted, fun payload made => ?_⟩
  have some : impsOf valid context ≠ [] := by
    intro none
    rw [bidRequest_of_no_imps none] at made
    contradiction
  rw [bidRequest_of_imps some] at made
  obtain rfl := Except.ok.inj made
  rw [← publisher]
  exact isPublishedBy_requestFor _ _ _

/-- What is requested for two lists of valid ad units behind each other, the second of which stands
for the ad units `second`. -/
structure IsJoint (context : AuctionContext) (second : List AdUnit) (one two : List ValidUnit) :
    Prop where
  imps : ∃ imps imps', IsRequested one context imps ∧ IsRequested two context imps' ∧
    IsRequested (one ++ two) context (imps ++ imps')
  nothing : (bidRequest (one ++ two) context).outcome = .error .noValidImpressions ↔
    (bidRequest one context).outcome = .error .noValidImpressions ∧
      (bidRequest two context).outcome = .error .noValidImpressions
  publisher : ∀ last, second.getLast? = some last →
    ∃ params, last.partnerParams = .ok params ∧
      ∀ payload, (bidRequest (one ++ two) context).outcome = .ok payload →
        IsPublishedBy context { id := some params.publisherId } payload

theorem isJoint_of_validate (passed : (validate first).outcome = .ok one)
    (passed' : (validate second).outcome = .ok two) : IsJoint context second one two where
  imps := by
    refine ⟨_, _, isRequested_impsOf one context, isRequested_impsOf two context, ?_⟩
    rw [← impsOf_append]
    exact isRequested_impsOf (one ++ two) context
  nothing := by
    simp only [bidRequest_refused_iff, impsOf_append, List.append_eq_nil_iff]
  publisher last isLast := by
    have isLast' : (first ++ second).getLast? = some last := by
      rw [List.getLast?_append, isLast, Option.some_or]
    exact isPublishedBy_of_bidRequest (validate_append passed passed') isLast'

/-! ## Another order -/

/-- The request with another publisher id, wherever it names a publisher. -/
def OpenRtb.BidRequest.withPublisherId (payload : BidRequest) (id : Option String) : BidRequest :=
  { payload with
    app := payload.app.map fun app =>
      { app with publisher := app.publisher.map fun publisher => { publisher with id } }
    site := payload.site.map fun site =>
      { site with publisher := site.publisher.map fun publisher => { publisher with id } } }

/-- Two payloads for the same ad units in two orders: the blocks of impressions stand in the order
of the ad units, and nothing else differs but perhaps the id of the publisher. -/
structure IsReordering (context : AuctionContext) (units others : List AdUnit)
    (payload payload' : BidRequest) : Prop where
  blocks : ∃ blocks blocks', List.Forall₂ (IsBlockOf context) units blocks ∧
    List.Forall₂ (IsBlockOf context) others blocks' ∧ blocks.Perm blocks' ∧
    payload.imp = blocks.flatten ∧ payload'.imp = blocks'.flatten
  others : ∃ id, payload' = { payload.withPublisherId id with imp := payload'.imp }

/-- What comes of the same ad units in two orders: two payloads, or both times nothing that could be
requested. -/
inductive AreReordered (context : AuctionContext) (units others : List AdUnit) :
    Except AdapterError BidRequest → Except AdapterError BidRequest → Prop
  | made {payload payload' : BidRequest}
      (reordering : IsReordering context units others payload payload') :
      AreReordered context units others (.ok payload) (.ok payload')
  | nothing : AreReordered context units others (.error .noValidImpressions)
      (.error .noValidImpressions)

theorem requestOf_eq_withPublisherId (valid valid' : List ValidUnit) (context : AuctionContext) :
    requestOf valid' context =
      { (requestOf valid context).withPublisherId (publisherOf valid').id with
        imp := impsOf valid' context } := by
  cases app : context.app <;> cases site : context.site <;>
    simp [requestOf, requestFor, AuctionContext.appFor, AuctionContext.siteFor,
      BidRequest.withPublisherId, publisherOf, app, site]

/-- Ad units in another order are validated as well, each to the same. -/
theorem exists_validate_of_perm (perm : units.Perm others)
    (validated : (validate units).outcome = .ok valid) :
    ∃ valid', (validate others).outcome = .ok valid' ∧ valid.Perm valid' := by
  obtain ⟨media, pairs⟩ := validate_eq_ok_iff.mp validated
  obtain ⟨valid', pairs', perm'⟩ := List.perm_comp_forall₂ perm.symm pairs
  refine ⟨valid', validate_eq_ok_iff.mpr ⟨fun unit mem => ?_, pairs'⟩, perm'.symm⟩
  exact media unit (perm.mem_iff.mpr mem)

theorem isReordering_requestOf {valid' : List ValidUnit}
    (validated : (validate units).outcome = .ok valid)
    (validated' : (validate others).outcome = .ok valid') (perm : valid.Perm valid') :
    IsReordering context units others (requestOf valid context) (requestOf valid' context) where
  blocks := ⟨_, _, forall₂_isBlockOf validated, forall₂_isBlockOf validated',
    perm.map _, List.flatMap_def, List.flatMap_def⟩
  others := ⟨_, requestOf_eq_withPublisherId valid valid' context⟩

theorem areReordered_bidRequest {valid' : List ValidUnit}
    (validated : (validate units).outcome = .ok valid)
    (validated' : (validate others).outcome = .ok valid') (perm : valid.Perm valid') :
    AreReordered context units others (bidRequest valid context).outcome
      (bidRequest valid' context).outcome := by
  have imps : (impsOf valid context).Perm (impsOf valid' context) := perm.flatMap_right _
  by_cases none : impsOf valid context = []
  · have none' : impsOf valid' context = [] := by
      rw [none] at imps
      exact imps.nil_eq.symm
    rw [bidRequest_of_no_imps none, bidRequest_of_no_imps none']
    exact .nothing
  · have some : impsOf valid' context ≠ [] := fun none' => by
      rw [none'] at imps
      exact none imps.eq_nil
    rw [bidRequest_of_imps none, bidRequest_of_imps some]
    exact .made (isReordering_requestOf validated validated' perm)

/-! ## Both together -/

/-- Ad units behind each other pass exactly if both lists do, with what comes of the one behind what
comes of the other, and are refused for what one of them is refused for.  Ad units in another order
give the same blocks of impressions in that order, and nothing else changes but the publisher. -/
theorem batches_compose (first second : List AdUnit) (context : AuctionContext) :
    ((∃ valid, (validate (first ++ second)).outcome = .ok valid) ↔
        (∃ one, (validate first).outcome = .ok one) ∧
          ∃ two, (validate second).outcome = .ok two) ∧
      (∀ one two, (validate first).outcome = .ok one → (validate second).outcome = .ok two →
        (validate (first ++ second)).outcome = .ok (one ++ two) ∧
          IsJoint context second one two) ∧
      (∀ e, (validate (first ++ second)).outcome = .error e ↔ IsFaultOf first second e) ∧
      ∀ units others valid, units.Perm others → (validate units).outcome = .ok valid →
        ∃ valid', (validate others).outcome = .ok valid' ∧ valid.Perm valid' ∧
          AreReordered context units others (bidRequest valid context).outcome
            (bidRequest valid' context).outcome := by
  refine ⟨validate_append_succeeds_iff, fun one two passed passed' => ?_,
    fun e => validate_append_eq_error_iff, fun units others valid perm validated => ?_⟩
  · exact ⟨validate_append passed passed', isJoint_of_validate passed passed'⟩
  · obtain ⟨valid', validated', perm'⟩ := exists_validate_of_perm perm validated
    exact ⟨valid', validated', perm', areReordered_bidRequest validated validated' perm'⟩

/-- Behind each other the two ad units pass.  If the first had no parameters and the second declared
video instead, they would be refused for what the second lacks. -/
theorem batches_compose_twoPublishers :
    (validate ([bannerOfTwo.unit] ++ [nativeOfTwo.unit])).outcome =
        .ok ([bannerOfTwo] ++ [nativeOfTwo]) ∧
      IsJoint appAndSite [nativeOfTwo.unit] [bannerOfTwo] [nativeOfTwo] ∧
      (validate ([{ bannerOfTwo.unit with params := none }] ++
        [{ nativeOfTwo.unit with mediaTypes := [.video] }])).outcome =
          .error (.videoWithoutData "slot2") := by
  obtain ⟨-, joint, -⟩ := batches_compose [bannerOfTwo.unit] [nativeOfTwo.unit] appAndSite
  obtain ⟨passed, together⟩ := joint [bannerOfTwo] [nativeOfTwo] (by cbv) (by cbv)
  obtain ⟨-, -, refused, -⟩ := batches_compose [{ bannerOfTwo.unit with params := none }]
    [{ nativeOfTwo.unit with mediaTypes := [.video] }] appAndSite
  have media : ¬FailsMedia [{ bannerOfTwo.unit with params := none }] := by
    simp [FailsMedia, AdUnit.LacksVideoData, bannerOfTwo, offer]
  have lacks : FailsMedia [{ nativeOfTwo.unit with mediaTypes := [.video] }] :=
    ⟨_, List.mem_cons_self, by simp [AdUnit.LacksVideoData, nativeOfTwo, offer]⟩
  exact ⟨passed, together, (refused _).mpr (.secondMedia media lacks (by cbv))⟩

end HeaderBidding
