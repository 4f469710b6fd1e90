import HeaderBidding.Impressions
import HeaderBidding.Proofs.Trace

/-!
# Which ad units are valid

Ad units are checked in two passes, first their media and then their parameters.  A batch is valid
exactly if every ad unit passes both; otherwise the first pass that some ad unit fails decides, and
in it the first ad unit that fails.
-/

namespace HeaderBidding

open OpenRtb (Imp Format)

namespace AdUnit

/-- The ad unit declares video and has no video parameters that name a type. -/
def LacksVideoData (unit : AdUnit) : Prop :=
  .video ∈ unit.mediaTypes ∧ ∀ video, unit.video = some video → video.mimes = []

/-- The ad unit declares a kind of media that the partner serves. -/
def DeclaresServed (unit : AdUnit) : Prop :=
  .banner ∈ unit.mediaTypes ∨ .video ∈ unit.mediaTypes

/-- The parameters of the ad unit are rejected. -/
def HasBadParams (unit : AdUnit) : Prop :=
  ∃ e, unit.partnerParams = .error e

variable {unit : AdUnit}

theorem hasVideoData_eq_false_iff :
    unit.hasVideoData = false ↔ ∀ video, unit.video = some video → video.mimes = [] := by
  cases h : unit.video <;> simp [hasVideoData, h]

theorem checkMedia_of_lacks (lacks : unit.LacksVideoData) :
    unit.checkMedia.outcome = .error (.videoWithoutData unit.code) := by
  rw [checkMedia, if_pos ⟨lacks.1, hasVideoData_eq_false_iff.mpr lacks.2⟩]
  exact Traced.outcome_bind_of_ok (Traced.outcome_log _)

theorem checkMedia_of_not_lacks (present : ¬unit.LacksVideoData) :
    unit.checkMedia.outcome = .ok () := by
  rw [checkMedia, if_neg fun bad => present ⟨bad.1, hasVideoData_eq_false_iff.mp bad.2⟩]
  rfl

theorem checkMedia_eq_ok_iff : unit.checkMedia.outcome = .ok () ↔ ¬unit.LacksVideoData := by
  by_cases lacks : unit.LacksVideoData
  · simp [checkMedia_of_lacks lacks, lacks]
  · simp [checkMedia_of_not_lacks lacks, lacks]

theorem checkMedia_eq_error_iff {e : AdapterError} :
    unit.checkMedia.outcome = .error e ↔
      unit.LacksVideoData ∧ e = .videoWithoutData unit.code := by
  by_cases lacks : unit.LacksVideoData
  · simp [checkMedia_of_lacks lacks, lacks, eq_comm]
  · simp [checkMedia_of_not_lacks lacks, lacks]

theorem checkParams_eq_ok_iff {valid : ValidUnit} :
    unit.checkParams.outcome = .ok valid ↔
      valid.unit = unit ∧ unit.partnerParams = .ok valid.params := by
  unfold checkParams
  cases unit.partnerParams with
  | ok params =>
      rcases valid with ⟨validUnit, validParams⟩
      simp [eq_comm]
  | error e =>
      rw [Traced.outcome_bind_of_ok (Traced.outcome_log _)]
      simp

theorem checkParams_eq_error_iff {e : AdapterError} :
    unit.checkParams.outcome = .error e ↔
      ∃ reason, unit.partnerParams = .error reason ∧ e = .params reason := by
  unfold checkParams
  cases unit.partnerParams with
  | ok params => simp
  | error reason =>
      rw [Traced.outcome_bind_of_ok (Traced.outcome_log _)]
      simp [eq_comm]

theorem checkMedia_fails_iff :
    (∃ e, unit.checkMedia.outcome = .error e) ↔ unit.LacksVideoData := by
  simp [checkMedia_eq_error_iff]

theorem checkParams_fails_iff :
    (∃ e, unit.checkParams.outcome = .error e) ↔ unit.HasBadParams := by
  simp [checkParams_eq_error_iff, HasBadParams]

end AdUnit

/-! ## Both passes -/

theorem checkAll_eq_each {α : Type} (check : AdUnit → Traced AdapterError α)
    (units : List AdUnit) : checkAll check units = Traced.each check units := by
  induction units with
  | nil => rfl
  | cons unit units ih =>
      rw [checkAll, Traced.each, ih]

variable {units : List AdUnit} {valid : List ValidUnit}

theorem media_pass_succeeds_iff :
    (∃ passed, (checkAll AdUnit.checkMedia units).outcome = .ok passed) ↔
      ∀ unit ∈ units, ¬unit.LacksVideoData := by
  rw [checkAll_eq_each, Traced.each_succeeds_iff]
  refine forall₂_congr fun unit _ => ?_
  rw [← AdUnit.checkMedia_eq_ok_iff]
  exact ⟨fun ⟨_, passes⟩ => passes, fun passes => ⟨(), passes⟩⟩

/-- Ad units are validated exactly if every one has the video data it needs and parameters that
are accepted; each of them keeps its place. -/
theorem validate_eq_ok_iff :
    (validate units).outcome = .ok valid ↔
      (∀ unit ∈ units, ¬unit.LacksVideoData) ∧
        List.Forall₂ (fun unit one => one.unit = unit ∧ unit.partnerParams = .ok one.params)
          units valid := by
  rw [validate, Traced.outcome_bind_eq_ok_iff, ← media_pass_succeeds_iff]
  refine exists_and_right.trans (and_congr_right fun _ => ?_)
  simp only [checkAll_eq_each, Traced.each_eq_ok_iff, AdUnit.checkParams_eq_ok_iff]

theorem validate_succeeds_iff :
    (∃ valid, (validate units).outcome = .ok valid) ↔
      ∀ unit ∈ units, ¬unit.LacksVideoData ∧ ∃ params, unit.partnerParams = .ok params := by
  have second : (∃ valid, (checkAll AdUnit.checkParams units).outcome = .ok valid) ↔
      ∀ unit ∈ units, ∃ params, unit.partnerParams = .ok params := by
    simp only [checkAll_eq_each, Traced.each_succeeds_iff, AdUnit.checkParams_eq_ok_iff]
    refine forall₂_congr fun unit _ => ?_
    constructor
    · rintro ⟨one, -, ok⟩
      exact ⟨one.params, ok⟩
    · rintro ⟨params, ok⟩
      exact ⟨⟨unit, params⟩, rfl, ok⟩
  simp only [forall_and, ← media_pass_succeeds_iff, ← second]
  rw [validate]
  simp only [Traced.outcome_bind_eq_ok_iff, exists_and_right, exists_and_left]

/-- The first ad unit without the video data it needs decides, whatever the parameters are. -/
theorem validate_of_lacks_video {unit : AdUnit}
    (first : IsFirst AdUnit.LacksVideoData units unit) :
    (validate units).outcome = .error (.videoWithoutData unit.code) := by
  apply Traced.outcome_bind_of_error
  simp only [checkAll_eq_each, Traced.each_eq_error_iff, AdUnit.checkMedia_fails_iff]
  exact ⟨unit, first, AdUnit.checkMedia_of_lacks first.holds⟩

/-- Where all ad units have the video data they need, the first one with bad parameters decides. -/
theorem validate_of_bad_params {unit : AdUnit} {reason : ParamsError}
    (media : ∀ unit ∈ units, ¬unit.LacksVideoData)
    (first : IsFirst AdUnit.HasBadParams units unit)
    (bad : unit.partnerParams = .error reason) :
    (validate units).outcome = .error (.params reason) := by
  obtain ⟨passed, passes⟩ := media_pass_succeeds_iff.mpr media
  rw [validate, Traced.outcome_bind_of_ok passes]
  simp only [checkAll_eq_each, Traced.each_eq_error_iff, AdUnit.checkParams_fails_iff]
  exact ⟨unit, first, AdUnit.checkParams_eq_error_iff.mpr ⟨reason, bad, rfl⟩⟩

/-- Validation loses no ad unit and moves none. -/
theorem map_unit_of_validate (ok : (validate units).outcome = .ok valid) :
    valid.map ValidUnit.unit = units := by
  have pairs := (validate_eq_ok_iff.mp ok).2
  clear ok
  induction pairs with
  | nil => rfl
  | cons first _ ih => rw [List.map_cons, first.1, ih]

theorem media_of_validate (ok : (validate units).outcome = .ok valid) {one : ValidUnit}
    (mem : one ∈ valid) : ¬one.unit.LacksVideoData := by
  apply (validate_eq_ok_iff.mp ok).1
  rw [← map_unit_of_validate ok]
  exact List.mem_map_of_mem mem

theorem params_of_validate (ok : (validate units).outcome = .ok valid) {one : ValidUnit}
    (mem : one ∈ valid) : one.unit.partnerParams = .ok one.params := by
  have pairs := (validate_eq_ok_iff.mp ok).2
  rw [← map_unit_of_validate ok, List.forall₂_map_left_iff, List.forall₂_same] at pairs
  exact (pairs one mem).2

end HeaderBidding
