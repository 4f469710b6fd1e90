import HeaderBidding.Proofs.Extraction
import HeaderBidding.Proofs.Validation

/-!
# What is logged of rejections

Ad units that are valid and bids that can all be attributed leave nothing in the log.  A rejection
leaves one event there, however much else is wrong: it names the ad unit or the impression for which
everything is rejected.
-/

namespace HeaderBidding

open OpenRtb (BidResponse)

/-! ## Events on the way -/

namespace Traced

variable {ε α β : Type} {a : Traced ε α} {next : α → Traced ε β} {step : α → Traced ε β}
  {items : List α} {e : ε}

theorem events_bind_of_ok {value : α} (ok : a.outcome = .ok value) :
    (a >>= next).events = a.events ++ (next value).events := by
  simp only [bind, andThen, ok]

theorem events_bind_of_error (error : a.outcome = .error e) : (a >>= next).events = a.events := by
  simp only [bind, andThen, error]

/-- A step that succeeds logs nothing. -/
def IsQuiet (step : α → Traced ε β) : Prop :=
  ∀ a b, (step a).outcome = .ok b → (step a).events = []

theorem events_each_of_ok (quiet : IsQuiet step) {results : List β}
    (ok : (each step items).outcome = .ok results) : (each step items).events = [] := by
  induction items generalizing results with
  | nil => rfl
  | cons a items ih =>
      obtain ⟨b, first, rest⟩ := outcome_bind_eq_ok_iff.mp ok
      obtain ⟨others, rest, -⟩ := outcome_bind_eq_ok_iff.mp rest
      rw [each, events_bind_of_ok first, events_bind_of_ok rest, quiet a b first, ih rest]
      rfl

/-- The steps in front of the first that fails log nothing, and those behind it are not taken. -/
theorem events_each_of_first (quiet : IsQuiet step) {a : α}
    (first : IsFirst (fun a => ∃ e, (step a).outcome = .error e) items a) :
    (each step items).events = (step a).events := by
  induction items with
  | nil => exact absurd first (by simp)
  | cons b items ih =>
      obtain ⟨rfl, e, fails⟩ | ⟨passes, first⟩ := IsFirst.cons_iff.mp first
      · rw [each, events_bind_of_error fails]
      · cases taken : (step b).outcome with
        | error e => exact absurd ⟨e, taken⟩ passes
        | ok value =>
            obtain ⟨e, fails⟩ := first.holds
            have failed : (each step items).outcome = .error e :=
              each_eq_error_iff.mpr ⟨a, first, fails⟩
            rw [each, events_bind_of_ok taken, events_bind_of_error failed, quiet b value taken,
              ih first, List.nil_append]

/-- What is logged of a failure is what the first step that fails logs. -/
theorem each_fails (quiet : IsQuiet step) (failed : (each step items).outcome = .error e) :
    ∃ a, IsFirst (fun a => ∃ e, (step a).outcome = .error e) items a ∧
      (step a).outcome = .error e ∧ (each step items).events = (step a).events := by
  obtain ⟨a, first, fails⟩ := each_eq_error_iff.mp failed
  exact ⟨a, first, fails, events_each_of_first quiet first⟩

end Traced

/-! ## Single ad units and bids -/

namespace AdUnit

variable {unit : AdUnit}

theorem isQuiet_checkMedia : Traced.IsQuiet checkMedia := by
  intro unit _ passes
  have present := checkMedia_eq_ok_iff.mp passes
  rw [checkMedia, if_neg fun bad => present ⟨bad.1, hasVideoData_eq_false_iff.mp bad.2⟩]
  rfl

theorem events_checkMedia_of_lacks (lacks : unit.LacksVideoData) :
    unit.checkMedia.events = [.videoWithoutData unit.code] := by
  rw [checkMedia, if_pos ⟨lacks.1, hasVideoData_eq_false_iff.mpr lacks.2⟩]
  rfl

theorem isQuiet_checkParams : Traced.IsQuiet checkParams := by
  intro unit valid passes
  rw [checkParams, (checkParams_eq_ok_iff.mp passes).2]
  rfl

theorem events_checkParams_of_error {reason : ParamsError}
    (bad : unit.partnerParams = .error reason) :
    unit.checkParams.events = [.paramsRejected unit.code reason] := by
  rw [checkParams, bad]
  rfl

end AdUnit

theorem isQuiet_draftFor (units : List AdUnit) : Traced.IsQuiet (draftFor units) := by
  intro bid draft drafted
  obtain ⟨unit, found, -⟩ := draftFor_eq_ok_iff.mp drafted
  rw [draftFor, found]
  rfl

theorem events_draftFor_of_isUnknown {units : List AdUnit} {bid : OpenRtb.Bid}
    (unknown : IsUnknown units bid) :
    (draftFor units bid).events = [.unknownImpression bid.impid] := by
  rw [draftFor, unitFor?_eq_none_iff.mpr unknown]
  rfl

/-! ## Rejections -/

/-- The event is a warning about an ad unit. -/
structure Event.IsWarningOf (unit : AdUnit) (event : Event) : Prop where
  level : event.level = .warn
  unit : event.details.lookup "ad_unit_code" = some (.text unit.code)

/-- The event blames the first ad unit that fails the pass which decides, and the error is that of
this ad unit. -/
inductive IsRejectedFor (units : List AdUnit) (event : Event) : AdapterError → Prop
  | media {unit : AdUnit} (first : IsFirst AdUnit.LacksVideoData units unit)
    (warns : event.IsWarningOf unit) : IsRejectedFor units event (.videoWithoutData unit.code)
  | params {unit : AdUnit} {reason : ParamsError} (media : ∀ unit ∈ units, ¬unit.LacksVideoData)
    (first : IsFirst AdUnit.HasBadParams units unit) (bad : unit.partnerParams = .error reason)
    (warns : event.IsWarningOf unit)
    (message : event.details.lookup "error" = some (.text reason.message)) :
    IsRejectedFor units event (.params reason)

/-- The event is an error about an impression. -/
structure Event.IsErrorOf (impid : String) (event : Event) : Prop where
  level : event.level = .error
  impid : event.details.lookup "impid" = some (.text impid)

variable {units : List AdUnit} {e : AdapterError}

/-- Where all ad units have the video data they need, the first pass leaves nothing in the log. -/
theorem events_validate_of_media (media : ∀ unit ∈ units, ¬unit.LacksVideoData) :
    (validate units).events = (Traced.each AdUnit.checkParams units).events := by
  obtain ⟨passed, passes⟩ := media_pass_succeeds_iff.mpr media
  rw [validate, Traced.events_bind_of_ok passes]
  rw [checkAll_eq_each] at passes
  rw [checkAll_eq_each, checkAll_eq_each,
    Traced.events_each_of_ok AdUnit.isQuiet_checkMedia passes, List.nil_append]

theorem events_validate_of_ok {valid : List ValidUnit} (ok : (validate units).outcome = .ok valid) :
    (validate units).events = [] := by
  obtain ⟨passed, -, params⟩ := Traced.outcome_bind_eq_ok_iff.mp ok
  rw [checkAll_eq_each] at params
  rw [events_validate_of_media (validate_eq_ok_iff.mp ok).1,
    Traced.events_each_of_ok AdUnit.isQuiet_checkParams params]

theorem events_validate_of_lacks_video {unit : AdUnit}
    (first : IsFirst AdUnit.LacksVideoData units unit) :
    (validate units).events = [.videoWithoutData unit.code] := by
  have failing : IsFirst (fun unit => ∃ e, unit.checkMedia.outcome = .error e) units unit := by
    simpa only [AdUnit.checkMedia_fails_iff] using first
  have fails : (checkAll AdUnit.checkMedia units).outcome =
      .error (.videoWithoutData unit.code) := by
    rw [checkAll_eq_each, Traced.each_eq_error_iff]
    exact ⟨unit, failing, AdUnit.checkMedia_of_lacks first.holds⟩
  rw [validate, Traced.events_bind_of_error fails, checkAll_eq_each,
    Traced.events_each_of_first AdUnit.isQuiet_checkMedia failing,
    AdUnit.events_checkMedia_of_lacks first.holds]

/-- A rejection of ad units leaves one warning. -/
theorem exists_event_of_validate (failed : (validate units).outcome = .error e) :
    ∃ event, (validate units).events = [event] ∧ IsRejectedFor units event e := by
  by_cases media : ∀ unit ∈ units, ¬unit.LacksVideoData
  · obtain ⟨passed, passes⟩ := media_pass_succeeds_iff.mpr media
    rw [validate, Traced.outcome_bind_of_ok passes, checkAll_eq_each] at failed
    obtain ⟨unit, first, fails, events⟩ := Traced.each_fails AdUnit.isQuiet_checkParams failed
    obtain ⟨reason, bad, rfl⟩ := AdUnit.checkParams_eq_error_iff.mp fails
    refine ⟨.paramsRejected unit.code reason, ?_, .params media ?_ bad ⟨rfl, rfl⟩ rfl⟩
    · rw [events_validate_of_media media, events, AdUnit.events_checkParams_of_error bad]
    · simpa only [AdUnit.checkParams_fails_iff] using first
  · obtain ⟨unit, first⟩ : ∃ unit, IsFirst AdUnit.LacksVideoData units unit := by
      rw [IsFirst.exists_iff]
      simpa using media
    obtain rfl := Except.error.inj ((validate_of_lacks_video first).symm.trans failed)
    exact ⟨_, events_validate_of_lacks_video first, .media first ⟨rfl, rfl⟩⟩

/-- Valid ad units and bids that can all be attributed leave nothing in the log.  A rejection leaves
one event there: a warning about the first ad unit that fails the pass which decides, or an error
about the impression that is not known. -/
theorem rejections_logged_once (units : List AdUnit) (response : Option BidResponse) :
    (∀ valid, (validate units).outcome = .ok valid → (validate units).events = []) ∧
      (∀ e, (validate units).outcome = .error e →
        ∃ event, (validate units).events = [event] ∧ IsRejectedFor units event e) ∧
      (∀ drafts, (extract units response).outcome = .ok drafts →
        (extract units response).events = []) ∧
      ∀ e, (extract units response).outcome = .error e →
        ∃ event impid, (extract units response).events = [event] ∧ event.IsErrorOf impid ∧
          e = .unknownImpression impid := by
  refine ⟨fun _ => events_validate_of_ok, fun _ => exists_event_of_validate, fun drafts made => ?_,
    fun e failed => ?_⟩
  · rw [extract_eq_each] at made ⊢
    exact Traced.events_each_of_ok (isQuiet_draftFor units) made
  · rw [extract_eq_each] at failed ⊢
    obtain ⟨bid, first, fails, events⟩ := Traced.each_fails (isQuiet_draftFor units) failed
    obtain ⟨unknown, rfl⟩ := draftFor_eq_error_iff.mp fails
    refine ⟨.unknownImpression bid.impid, bid.impid, ?_, ⟨rfl, rfl⟩, rfl⟩
    rw [events, events_draftFor_of_isUnknown unknown]

/-- Three ad units without parameters, the last two of which also lack the video data they need. -/
def rejectedUnits : List AdUnit :=
  [{ code := "a" }, { code := "b", mediaTypes := [.video] },
    { code := "c", mediaTypes := [.video] }]

/-- All ad units and all bids are bad, and one of each is in the log. -/
theorem rejections_logged_once_allBad :
    (validate rejectedUnits).outcome = .error (.videoWithoutData "b") ∧
      (∃ event, (validate rejectedUnits).events = [event] ∧
        IsRejectedFor rejectedUnits event (.videoWithoutData "b")) ∧
      (extract rejectedUnits (some (seatsFor [["a", "d"], ["e"]]))).outcome =
        .error (.unknownImpression "d") ∧
      ∃ event, (extract rejectedUnits (some (seatsFor [["a", "d"], ["e"]]))).events = [event] ∧
        event.IsErrorOf "d" := by
  have rejected : (validate rejectedUnits).outcome = .error (.videoWithoutData "b") := by rfl
  have refused : (extract rejectedUnits (some (seatsFor [["a", "d"], ["e"]]))).outcome =
      .error (.unknownImpression "d") := by
    rfl
  obtain ⟨-, validated, -, extracted⟩ :=
    rejections_logged_once rejectedUnits (some (seatsFor [["a", "d"], ["e"]]))
  obtain ⟨event, impid, events, isError, same⟩ := extracted _ refused
  obtain rfl := AdapterError.unknownImpression.inj same
  exact ⟨rejected, validated _ rejected, refused, event, events, isError⟩

end HeaderBidding
