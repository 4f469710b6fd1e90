import HeaderBidding.Proofs.Envelope
import HeaderBidding.Proofs.Offers

/-!
# What the partner learns

Batches that look alike have the same outcome.  For this they need to agree on what is requested for
each ad unit and on the publisher of the last one.  All that they say beyond this stays with the
caller, and can be said in any other way.
-/

namespace HeaderBidding

/-! ## Ad units that look alike -/

/-- Apart from their parameters, the ad units agree on what is requested for them. -/
structure AdUnit.LooksLike (unit other : AdUnit) : Prop where
  code : unit.code = other.code
  instl : unit.instl = other.instl
  topframe : unit.topframe = other.topframe
  sizes : unit.sizes = other.sizes
  banner : .banner ∈ unit.mediaTypes ↔ .banner ∈ other.mediaTypes
  video : .video ∈ unit.mediaTypes ↔ .video ∈ other.mediaTypes
  videoData : .video ∈ unit.mediaTypes → unit.video = other.video

/-- The ad units agree on what is requested for them. -/
structure AdUnit.IsLike (unit other : AdUnit) : Prop extends unit.LooksLike other where
  params : ∀ params params', unit.partnerParams = .ok params → other.partnerParams = .ok params' →
    params.tagId = params'.tagId ∧ params.width = params'.width ∧ params.height = params'.height

/-- The last of some ad units and the last of others agree on the publisher. -/
def SamePublisher (units others : List AdUnit) : Prop :=
  ∀ last last', units.getLast? = some last → others.getLast? = some last' →
    ∀ params params', last.partnerParams = .ok params → last'.partnerParams = .ok params' →
      params.publisherId = params'.publisherId

variable {units others : List AdUnit} {valid valid' : List ValidUnit} {context : AuctionContext}
  {unit other : AdUnit} {params : PartnerParams} {one two : ValidUnit} {adapter : Adapter}
  {batch otherBatch : Batch}

namespace ValidUnit

theorem allowedMedia_congr (alike : unit.LooksLike other) :
    unit.allowedMedia = other.allowedMedia := by
  simp only [allowedMedia_eq, alike.banner, alike.video]

theorem video?_congr (alike : one.unit.LooksLike two.unit)
    (declares : .video ∈ one.unit.mediaTypes) : one.video? = two.video? := by
  simp only [video?, alike.videoData declares, alike.sizes]

/-- The same impressions are made for ad units that are alike. -/
theorem imps_congr (alike : one.unit.IsLike two.unit)
    (accepted : one.unit.partnerParams = .ok one.params)
    (accepted' : two.unit.partnerParams = .ok two.params) :
    one.imps context = two.imps context := by
  obtain ⟨tagId, width, height⟩ := alike.params _ _ accepted accepted'
  have base : one.impBase context = two.impBase context := by
    simp only [impBase, alike.code, alike.instl, tagId]
  have banner : one.banner = two.banner := by
    simp only [ValidUnit.banner, width, height, alike.sizes, alike.topframe]
  rw [imps, imps, ← allowedMedia_congr alike.toLooksLike]
  refine List.filterMap_congr fun media allowed => ?_
  cases media with
  | banner => simp only [imp?, base, banner]
  | video =>
      have declares := (mem_allowedMedia.mp allowed).2
      simp only [imp?, base, video?_congr alike.toLooksLike declares]
  | native | audio => rfl

end ValidUnit

theorem impsOf_congr (validated : (validate units).outcome = .ok valid)
    (validated' : (validate others).outcome = .ok valid')
    (alike : List.Forall₂ AdUnit.IsLike units others) :
    impsOf valid context = impsOf valid' context := by
  rw [← map_unit_of_validate validated, ← map_unit_of_validate validated',
    List.forall₂_map_left_iff, List.forall₂_map_right_iff, List.forall₂_iff_zip] at alike
  obtain ⟨length, alike⟩ := alike
  have each : List.Forall₂ (fun one two : ValidUnit => one.imps context = two.imps context)
      valid valid' := by
    refine List.forall₂_iff_zip.mpr ⟨length, fun mem => ?_⟩
    obtain ⟨mem', mem''⟩ := List.of_mem_zip mem
    exact ValidUnit.imps_congr (alike mem) (params_of_validate validated mem')
      (params_of_validate validated' mem'')
  have blocks : valid.map (·.imps context) = valid'.map (·.imps context) := by
    rw [← List.forall₂_eq_eq_eq, List.forall₂_map_left_iff, List.forall₂_map_right_iff]
    exact each
  rw [impsOf, impsOf, List.flatMap_def, List.flatMap_def, blocks]

theorem publisherOf_congr (validated : (validate units).outcome = .ok valid)
    (validated' : (validate others).outcome = .ok valid') (length : units.length = others.length)
    (publisher : SamePublisher units others) : publisherOf valid = publisherOf valid' := by
  cases isLast : units.getLast? with
  | none =>
      rw [List.getLast?_eq_none_iff] at isLast
      subst isLast
      obtain rfl := List.eq_nil_of_length_eq_zero length.symm
      obtain rfl := Except.ok.inj (validated.symm.trans validated')
      rfl
  | some last =>
      have nonempty : others ≠ [] := by
        rintro rfl
        rw [List.eq_nil_of_length_eq_zero length] at isLast
        contradiction
      have isLast' := List.getLast?_eq_getLast_of_ne_nil nonempty
      obtain ⟨params, accepted, names⟩ := publisherOf_of_getLast? validated isLast
      obtain ⟨params', accepted', names'⟩ := publisherOf_of_getLast? validated' isLast'
      rw [names, names', publisher _ _ isLast isLast' _ _ accepted accepted']

theorem requests_congr (validated : (validate batch.units).outcome = .ok valid)
    (validated' : (validate otherBatch.units).outcome = .ok valid')
    (publisher : SamePublisher batch.units otherBatch.units)
    (alike : List.Forall₂ AdUnit.IsLike batch.units otherBatch.units) :
    (adapter.requests otherBatch context).outcome = (adapter.requests batch context).outcome := by
  have imps : impsOf valid context = impsOf valid' context :=
    impsOf_congr validated validated' alike
  have names := publisherOf_congr validated validated' alike.length_eq publisher
  by_cases none : impsOf valid context = []
  · rw [Adapter.requests_of_no_imps validated none,
      Adapter.requests_of_no_imps validated' (imps.symm.trans none)]
  · rw [Adapter.requests_of_imps validated none,
      Adapter.requests_of_imps validated' (imps ▸ none), requestOf, requestOf, imps, names]

/-! ## Disguises -/

/-- What may be given for parameters in place of something else: an object that has the same value
for each of the three, whatever stands beside them, or one that spells them in any other way, but
perhaps for the publisher. -/
inductive PartnerParams.MayReplace (params : PartnerParams) : Option Json → Option Json → Prop
  | same (given : Option Json) : MayReplace params given given
  | beside {members members' : List (String × Json)}
      (same : ∀ p, RawParams.valuesFor p members' = RawParams.valuesFor p members) :
      MayReplace params (some (.object members)) (some (.object members'))
  | spelled {given : Option Json} {members : List (String × Json)} {publisherId : String}
      (spelled : ({ params with publisherId } : PartnerParams).IsSpelledBy members) :
      MayReplace params given (some (.object members))

/-- The other ad unit may take the place of the ad unit.  It can have another bidder and another
bid, it can declare its media in any order and others beside banner and video, and it can have other
video data unless it declares video. -/
structure AdUnit.HasDisguise (unit other : AdUnit) : Prop extends unit.LooksLike other where
  params : ∀ params, unit.partnerParams = .ok params → params.MayReplace unit.params other.params

open RawParams in
theorem partnerParams_of_beside {members members' : List (String × Json)}
    (same : ∀ p, valuesFor p members' = valuesFor p members)
    (given : unit.params = some (.object members))
    (given' : other.params = some (.object members'))
    (accepted : unit.partnerParams = .ok params) : other.partnerParams = .ok params := by
  obtain ⟨document, raw, isGiven, read, comes⟩ := AdUnit.partnerParams_eq_ok_iff.mp accepted
  obtain rfl := Option.some.inj (given.symm.trans isGiven)
  obtain ⟨values, shown, each⟩ := ofJson_eq_ok_iff.mp read
  obtain _ | ⟨shown⟩ := shown
  have shown' : Shows (.object members') values := .object fun p => by
    rw [same, shown]
  exact AdUnit.partnerParams_eq_ok_iff.mpr
    ⟨_, raw, given', ofJson_eq_ok_iff.mpr ⟨values, shown', each⟩, comes⟩

namespace AdUnit.HasDisguise

/-- Behind a disguise are the same parameters, but perhaps for the publisher. -/
theorem exists_partnerParams (disguise : unit.HasDisguise other)
    (accepted : unit.partnerParams = .ok params) :
    ∃ publisherId, other.partnerParams = .ok { params with publisherId } := by
  have replaced := disguise.params _ accepted
  generalize given : unit.params = document, given' : other.params = document' at replaced
  cases replaced with
  | same =>
      have same : other.partnerParams = unit.partnerParams := by
        rw [partnerParams, partnerParams, given, given']
      exact ⟨params.publisherId, same.trans accepted⟩
  | beside same => exact ⟨params.publisherId, partnerParams_of_beside same given given' accepted⟩
  | spelled spelled => exact ⟨_, partnerParams_of_isSpelledBy spelled given'⟩

theorem not_lacksVideoData (disguise : unit.HasDisguise other) (present : ¬unit.LacksVideoData) :
    ¬other.LacksVideoData := by
  rintro ⟨declares, lacks⟩
  have declares' := disguise.video.mpr declares
  exact present ⟨declares', disguise.videoData declares' ▸ lacks⟩

theorem isLike (disguise : unit.HasDisguise other) : unit.IsLike other where
  __ := disguise.toLooksLike
  params params params' accepted accepted' := by
    obtain ⟨publisherId, same⟩ := disguise.exists_partnerParams accepted
    obtain rfl := Except.ok.inj (same.symm.trans accepted')
    exact ⟨rfl, rfl, rfl⟩

end AdUnit.HasDisguise

/-- Valid ad units are valid in any disguise. -/
theorem exists_validate_of_disguise (validated : ∃ valid, (validate units).outcome = .ok valid)
    (disguise : List.Forall₂ AdUnit.HasDisguise units others) :
    ∃ valid, (validate others).outcome = .ok valid := by
  rw [validate_succeeds_iff] at validated ⊢
  induction disguise with
  | nil => exact validated
  | cons first _ ih =>
      obtain ⟨⟨present, params, accepted⟩, rest⟩ := List.forall_mem_cons.mp validated
      obtain ⟨publisherId, accepted'⟩ := first.exists_partnerParams accepted
      exact List.forall_mem_cons.mpr
        ⟨⟨first.not_lacksVideoData present, _, accepted'⟩, ih rest⟩

/-- Batches that are valid have the same outcome if their ad units are alike one by one and the last
ones agree on the publisher.  So a batch has the same outcome in any disguise, in which it is valid
as well. -/
theorem requests_disclosure (validated : ∃ valid, (validate batch.units).outcome = .ok valid)
    (publisher : SamePublisher batch.units otherBatch.units) :
    ((∃ valid, (validate otherBatch.units).outcome = .ok valid) →
        List.Forall₂ AdUnit.IsLike batch.units otherBatch.units →
        (adapter.requests otherBatch context).outcome = (adapter.requests batch context).outcome) ∧
      (List.Forall₂ AdUnit.HasDisguise batch.units otherBatch.units →
        (∃ valid, (validate otherBatch.units).outcome = .ok valid) ∧
          (adapter.requests otherBatch context).outcome =
            (adapter.requests batch context).outcome) := by
  obtain ⟨valid, passed⟩ := validated
  refine ⟨fun ⟨valid', passed'⟩ alike => requests_congr passed passed' publisher alike,
    fun disguise => ?_⟩
  obtain ⟨valid', passed'⟩ := exists_validate_of_disguise ⟨valid, passed⟩ disguise
  exact ⟨⟨valid', passed'⟩,
    requests_congr passed passed' publisher (disguise.imp fun _ _ => AdUnit.HasDisguise.isLike)⟩

/-- The parameters of the first of two ad units in another spelling, and with another publisher. -/
def respelledMembers : List (String × Json) :=
  [("pct", .null), ("adSize", .text "0300X250x"), ("tagId", .text " +486653"),
   ("cp", .whole (.ofUInt64 5))]

/-- The parameters of the second one, with something beside them. -/
def besideMembers : List (String × Json) :=
  [("cf", .text "1x1"), ("cp", .text "-7"), ("ct", .text "8"), ("pct", .null)]

/-- The two ad units in disguise. -/
def disguisedPublishers : Batch where
  bidderCode := "other"
  units := [
    { offer "slot1" "x" [.audio, .banner, .banner] with
      bidderCode := "other"
      video := some { mimes := ["video/mp4"] }
      params := some (.object respelledMembers) },
    { offer "slot2" "y" [] with
      params := some (.object besideMembers) }]

theorem respelledMembers_spell :
    (⟨"5", "486653", 300, 250⟩ : PartnerParams).IsSpelledBy respelledMembers := by
  have five : Decimal.integerText 5 = "5" := by decide +kernel
  have tag : Decimal.integerText 486653 = "486653" := by decide +kernel
  have front : ∀ c ∈ [' '], Text.isBlank c = true := List.forall_mem_singleton.mpr rfl
  refine PartnerParams.isSpelledBy_of_perm (.inl rfl) (.inr rfl) (.inr rfl) ?_ ?_ ?_ ?_
    (List.reverse_perm [_, _, _, _])
  · exact ⟨_, five ▸ isCanonicalId_integerText (by decide) (by decide) (by decide), .number rfl⟩
  · exact ⟨_, tag ▸ isCanonicalId_integerText (by decide) (by decide) (by decide),
      @SpellsId.text _ _ _ ['+'] [] 0 (.plus (by decide)) front (by simp) (by decide +kernel)⟩
  · exact @SpellsSize.text _ _ _ 'X' ['x'] 1 0 (.inr rfl) (by simp [AdSize.IsCross])
      (by decide +kernel)
  · simp only [List.forall_mem_singleton]
    rintro (_ | _ | _) <;> decide

theorem twoPublishers_disguise :
    List.Forall₂ AdUnit.HasDisguise twoPublishers.units disguisedPublishers.units := by
  have accepted : bannerOfTwo.unit.partnerParams = .ok bannerOfTwo.params := by
    cbv
  refine .cons ⟨?_, fun params given => ?_⟩ (.cons ⟨?_, fun params given => ?_⟩ .nil)
  · constructor <;> simp [bannerOfTwo, offer]
  · obtain rfl := Except.ok.inj (accepted.symm.trans given)
    exact .spelled respelledMembers_spell
  · constructor <;> simp [nativeOfTwo, offer]
  · exact .beside fun p => by cases p <;> rfl

theorem requests_disclosure_twoPublishers :
    (∃ valid, (validate twoPublishers.units).outcome = .ok valid) ∧
      (Adapter.requests ⟨"http://localhost/bid"⟩ disguisedPublishers appAndSite).outcome =
        (Adapter.requests ⟨"http://localhost/bid"⟩ twoPublishers appAndSite).outcome := by
  have validated : ∃ valid, (validate twoPublishers.units).outcome = .ok valid :=
    ⟨[bannerOfTwo, nativeOfTwo], by cbv⟩
  have publisher : SamePublisher twoPublishers.units disguisedPublishers.units := by
    rintro _ _ ⟨⟩ ⟨⟩ params params' accepted accepted'
    have same : Except.ok params = .ok params' := accepted.symm.trans accepted'
    rw [Except.ok.inj same]
  exact ⟨validated, ((requests_disclosure validated publisher).2 twoPublishers_disguise).2⟩

end HeaderBidding
