import HeaderBidding.Proofs.Impressions

/-!
# What comes out of a batch

The outcome of a batch depends on its ad units alone.  Video data that is missing comes first, then
parameters that are bad, then the absence of anything to request; what is left is one request to
the endpoint of the adapter.
-/

namespace HeaderBidding

namespace AdUnit

variable {units : List AdUnit}

theorem partnerParams_of_not_bad {unit : AdUnit} (good : ¬unit.HasBadParams) :
    ∃ params, unit.partnerParams = .ok params := by
  cases outcome : unit.partnerParams with
  | ok params => exact ⟨params, rfl⟩
  | error reason => exact absurd ⟨reason, outcome⟩ good

/-- Every list of ad units has a first fault, by media or by parameters, or none at all. -/
theorem exists_first_fault (units : List AdUnit) :
    (∃ unit, IsFirst LacksVideoData units unit) ∨
      (∀ unit ∈ units, ¬unit.LacksVideoData) ∧
        ((∃ unit, IsFirst HasBadParams units unit) ∨ ∀ unit ∈ units, ¬unit.HasBadParams) := by
  simp only [IsFirst.exists_iff]
  by_cases lacks : ∃ unit ∈ units, unit.LacksVideoData
  · exact .inl lacks
  · refine .inr ⟨fun unit mem lacking => lacks ⟨unit, mem, lacking⟩, ?_⟩
    by_cases bad : ∃ unit ∈ units, unit.HasBadParams
    · exact .inl bad
    · exact .inr fun unit mem failing => bad ⟨unit, mem, failing⟩

end AdUnit

theorem validate_of_no_fault {units : List AdUnit} (media : ∀ unit ∈ units, ¬unit.LacksVideoData)
    (good : ∀ unit ∈ units, ¬unit.HasBadParams) :
    ∃ valid, (validate units).outcome = .ok valid :=
  validate_succeeds_iff.mpr fun unit mem =>
    ⟨media unit mem, AdUnit.partnerParams_of_not_bad (good unit mem)⟩

namespace Adapter

variable {endpoint : String} {adapter : Adapter} {batch : Batch} {context : AuctionContext}

theorem endpoint_of_ofEndpoint (accepted : (ofEndpoint endpoint).outcome = .ok adapter) :
    adapter.endpoint = endpoint := by
  obtain ⟨checked, ok, made⟩ := Traced.outcome_bind_eq_ok_iff.mp accepted
  obtain ⟨-, -, made⟩ := Traced.outcome_bind_eq_ok_iff.mp made
  obtain rfl := Except.ok.inj made
  rw [Traced.outcome_silent, checkEndpoint] at ok
  split at ok
  · contradiction
  · split at ok
    · exact (Except.ok.inj ok).symm
    · contradiction

/-! ## The cases -/

theorem requests_of_lacks_video {unit : AdUnit}
    (first : IsFirst AdUnit.LacksVideoData batch.units unit) :
    (adapter.requests batch context).outcome = .error (.videoWithoutData unit.code) :=
  requests_of_validate_error (validate_of_lacks_video first)

theorem requests_of_bad_params {unit : AdUnit} {reason : ParamsError}
    (media : ∀ unit ∈ batch.units, ¬unit.LacksVideoData)
    (first : IsFirst AdUnit.HasBadParams batch.units unit)
    (bad : unit.partnerParams = .error reason) :
    (adapter.requests batch context).outcome = .error (.params reason) :=
  requests_of_validate_error (validate_of_bad_params media first bad)

theorem requests_of_nothing_served (media : ∀ unit ∈ batch.units, ¬unit.LacksVideoData)
    (good : ∀ unit ∈ batch.units, ¬unit.HasBadParams)
    (nothing : ∀ unit ∈ batch.units, ¬unit.DeclaresServed) :
    (adapter.requests batch context).outcome = .error .noValidImpressions := by
  obtain ⟨valid, validated⟩ := validate_of_no_fault media good
  exact requests_of_no_imps validated ((impsOf_eq_nil_iff validated).mpr nothing)

theorem requests_of_served (media : ∀ unit ∈ batch.units, ¬unit.LacksVideoData)
    (good : ∀ unit ∈ batch.units, ¬unit.HasBadParams)
    (served : ∃ unit ∈ batch.units, unit.DeclaresServed) :
    ∃ payload, (adapter.requests batch context).outcome = .ok [adapter.post payload] := by
  obtain ⟨valid, validated⟩ := validate_of_no_fault media good
  obtain ⟨unit, mem, declares⟩ := served
  refine ⟨requestOf valid context, requests_of_imps validated fun none => ?_⟩
  exact (impsOf_eq_nil_iff validated).mp none unit mem declares

/-- A failure is that of a fault of some ad unit, or there is no fault and nothing to request. -/
theorem requests_error {e : AdapterError}
    (error : (adapter.requests batch context).outcome = .error e) :
    (e.kind = .configuration ∧ ∃ unit ∈ batch.units, e = .videoWithoutData unit.code ∨
        ∃ reason, unit.partnerParams = .error reason ∧ e = .params reason) ∨
      (e.kind = .emptyRequest ∧ e = .noValidImpressions ∧
        ∀ unit ∈ batch.units,
          ¬unit.LacksVideoData ∧ ¬unit.HasBadParams ∧ ¬unit.DeclaresServed) := by
  rcases AdUnit.exists_first_fault batch.units with
    ⟨unit, lacks⟩ | ⟨media, ⟨unit, bad⟩ | good⟩
  · rw [requests_of_lacks_video lacks] at error
    obtain rfl := Except.error.inj error
    exact .inl ⟨rfl, unit, lacks.mem, .inl rfl⟩
  · obtain ⟨reason, failed⟩ := bad.holds
    rw [requests_of_bad_params media bad failed] at error
    obtain rfl := Except.error.inj error
    exact .inl ⟨rfl, unit, bad.mem, .inr ⟨reason, failed, rfl⟩⟩
  · by_cases served : ∃ unit ∈ batch.units, unit.DeclaresServed
    · have made : ∃ payload,
          (adapter.requests batch context).outcome = .ok [adapter.post payload] :=
        requests_of_served media good served
      obtain ⟨payload, made⟩ := made
      rw [made] at error
      contradiction
    · have nothing : ∀ unit ∈ batch.units, ¬unit.DeclaresServed :=
        fun unit mem declares => served ⟨unit, mem, declares⟩
      rw [requests_of_nothing_served media good nothing] at error
      obtain rfl := Except.error.inj error
      exact .inr ⟨rfl, rfl, fun unit mem => ⟨media unit mem, good unit mem, nothing unit mem⟩⟩

/-- The outcome of a batch for an adapter whose endpoint is accepted: the first ad unit without the
video data it needs decides, then the first one with bad parameters, then whether any ad unit
declares something that the partner serves; the one request goes to the endpoint as it was given. -/
theorem requests_outcome (accepted : (ofEndpoint endpoint).outcome = .ok adapter) (batch : Batch)
    (context : AuctionContext) :
    ((∃ unit ∈ batch.units, unit.LacksVideoData) →
        ∃ unit, IsFirst AdUnit.LacksVideoData batch.units unit ∧
          (adapter.requests batch context).outcome = .error (.videoWithoutData unit.code)) ∧
      ((∀ unit ∈ batch.units, ¬unit.LacksVideoData) →
        ((∃ unit ∈ batch.units, unit.HasBadParams) →
          ∃ unit reason, IsFirst AdUnit.HasBadParams batch.units unit ∧
            unit.partnerParams = .error reason ∧
            (adapter.requests batch context).outcome = .error (.params reason)) ∧
        ((∀ unit ∈ batch.units, ¬unit.HasBadParams) →
          ((∀ unit ∈ batch.units, ¬unit.DeclaresServed) →
            (adapter.requests batch context).outcome = .error .noValidImpressions) ∧
          ((∃ unit ∈ batch.units, unit.DeclaresServed) →
            ∃ request, (adapter.requests batch context).outcome = .ok [request] ∧
              request.uri = endpoint))) ∧
      ∀ e, (adapter.requests batch context).outcome = .error e →
        (e.kind = .configuration ∧ ∃ unit ∈ batch.units, e = .videoWithoutData unit.code ∨
            ∃ reason, unit.partnerParams = .error reason ∧ e = .params reason) ∨
          (e.kind = .emptyRequest ∧ e = .noValidImpressions ∧
            ∀ unit ∈ batch.units,
              ¬unit.LacksVideoData ∧ ¬unit.HasBadParams ∧ ¬unit.DeclaresServed) := by
  refine ⟨?_, fun media => ⟨?_, fun good => ⟨?_, ?_⟩⟩, ?_⟩
  · intro lacking
    obtain ⟨unit, first⟩ := IsFirst.exists_iff.mpr lacking
    exact ⟨unit, first, requests_of_lacks_video first⟩
  · intro failing
    obtain ⟨unit, first⟩ := IsFirst.exists_iff.mpr failing
    obtain ⟨reason, bad⟩ := first.holds
    exact ⟨unit, reason, first, bad, requests_of_bad_params media first bad⟩
  · exact requests_of_nothing_served media good
  · intro served
    obtain ⟨payload, made⟩ := requests_of_served media good served
    exact ⟨_, made, endpoint_of_ofEndpoint accepted⟩
  · exact fun e => requests_error

/-- An ad unit without parameters. -/
def blankUnit (code : String) (mediaTypes : List MediaType) : AdUnit where
  code
  mediaTypes

theorem hasBadParams_blankUnit (code : String) (mediaTypes : List MediaType) :
    (blankUnit code mediaTypes).HasBadParams :=
  ⟨.missingParams, rfl⟩

/-- Batches of good and bad ad units, one for each case.  What is missing of a video counts before
parameters that come first, and of these the first count. -/
theorem requests_outcome_localhost :
    let adapter : Adapter := ⟨"http://localhost/bid"⟩
    let context : AuctionContext := { tid := "auction", timeoutMillis := some 250 }
    let good := offer "slot1" "a" [.banner, .native]
    let native := offer "slot2" "b" [.native, .audio]
    let bad := blankUnit "slot3" [.banner]
    let lacking := offer "slot4" "d" [.banner, .video]
    (ofEndpoint "http://localhost/bid").outcome = .ok adapter ∧
      (adapter.requests { units := [good, bad, lacking, blankUnit "slot5" [.video]] }
        context).outcome = .error (.videoWithoutData "slot4") ∧
      (adapter.requests { units := [good, native, bad] } context).outcome =
        .error (.params .missingParams) ∧
      (adapter.requests { units := [native, native] } context).outcome =
        .error .noValidImpressions ∧
      ∃ request, (adapter.requests { units := [native, good] } context).outcome = .ok [request] ∧
        request.uri = "http://localhost/bid" := by
  intro adapter context good native bad lacking
  have accepted : (ofEndpoint "http://localhost/bid").outcome = .ok adapter := by
    decide +kernel
  have outcome (units : List AdUnit) := requests_outcome accepted { units } context
  have badParams : bad.HasBadParams := hasBadParams_blankUnit "slot3" [.banner]
  have goodParams : ¬good.HasBadParams := not_hasBadParams_offer _ _ _
  have nativeParams : ¬native.HasBadParams := not_hasBadParams_offer _ _ _
  have lacks : lacking.LacksVideoData := by simp [AdUnit.LacksVideoData, lacking, offer]
  have goodMedia : ¬good.LacksVideoData := by simp [AdUnit.LacksVideoData, good, offer]
  have nativeMedia : ¬native.LacksVideoData := by simp [AdUnit.LacksVideoData, native, offer]
  have badMedia : ¬bad.LacksVideoData := by simp [AdUnit.LacksVideoData, bad, blankUnit]
  have served : good.DeclaresServed := by simp [AdUnit.DeclaresServed, good, offer]
  have unserved : ¬native.DeclaresServed := by simp [AdUnit.DeclaresServed, native, offer]
  refine ⟨accepted, ?_, ?_, ?_, ?_⟩
  · obtain ⟨unit, first, failed⟩ :=
      (outcome [good, bad, lacking, blankUnit "slot5" [.video]]).1 ⟨lacking, by simp, lacks⟩
    rw [IsFirst.cons_of_neg goodMedia, IsFirst.cons_of_neg badMedia, IsFirst.cons_of_pos lacks]
      at first
    rwa [← first] at failed
  · obtain ⟨unit, reason, first, rejected, failed⟩ :=
      ((outcome [good, native, bad]).2.1 (by simp [goodMedia, nativeMedia, badMedia])).1
        ⟨bad, by simp, badParams⟩
    rw [IsFirst.cons_of_neg goodParams, IsFirst.cons_of_neg nativeParams,
      IsFirst.cons_of_pos badParams] at first
    rw [← first] at rejected
    obtain rfl : reason = .missingParams := (Except.error.inj rejected).symm
    exact failed
  · exact (((outcome [native, native]).2.1 (by simp [nativeMedia])).2
      (by simp [nativeParams])).1 (by simp [unserved])
  · exact (((outcome [native, good]).2.1 (by simp [nativeMedia, goodMedia])).2
      (by simp [nativeParams, goodParams])).2 ⟨good, by simp, served⟩

end Adapter

end HeaderBidding
