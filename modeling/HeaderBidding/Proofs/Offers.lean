import HeaderBidding.Proofs.Attribution
import HeaderBidding.Proofs.Parameters

/-!
# What is offered for each ad unit

The impressions of a request fall into one block for each ad unit, in their order.  A block has a
banner if the ad unit declares banner and behind it a video if the ad unit declares video, and
nothing else, however the ad unit lists its media.  Every member of an impression is determined by
the ad unit, its parameters and the context.
-/

namespace HeaderBidding

open OpenRtb (Banner Video Imp Format)

/-! ## Single impressions -/

/-- What all impressions of an ad unit have in common. -/
structure IsImpOf (unit : AdUnit) (context : AuctionContext) (imp : Imp) : Prop where
  id : imp.id = unit.code
  instl : imp.instl = unit.instl
  secure : imp.secure = context.secure
  tagid : ∃ params, unit.partnerParams = .ok params ∧ imp.tagid = some params.tagId
  bidfloor : imp.bidfloor = none

/-- The text in which the parameters of an ad unit give a size. -/
def AdUnit.HasSizeText (unit : AdUnit) (text : String) : Prop :=
  ∃ document raw, unit.params = some document ∧ RawParams.ofJson document = .ok raw ∧
    raw.adSize = some text

/-- The impression is the banner of an ad unit, whose size is that of the parameters. -/
structure IsBannerOf (unit : AdUnit) (context : AuctionContext) (imp : Imp) : Prop
    extends IsImpOf unit context imp where
  banner : ∃ text size, unit.HasSizeText text ∧ AdSize.ofText text = .ok size ∧
    imp.banner = some
      { w := some size.width
        h := some size.height
        format := unit.sizes
        topframe := unit.topframe }
  video : imp.video = none

/-- The impression is the video of an ad unit, whose size is the first of the ad unit. -/
structure IsVideoOf (unit : AdUnit) (context : AuctionContext) (imp : Imp) : Prop
    extends IsImpOf unit context imp where
  video : ∃ data, unit.video = some data ∧ data.mimes ≠ [] ∧
    imp.video = some
      { mimes := data.mimes
        minduration := data.minduration
        maxduration := data.maxduration
        w := unit.sizes.head?.map Format.w
        h := unit.sizes.head?.map Format.h
        startdelay := data.startdelay
        playbackmethod := data.playbackMethod.toList
        protocols := data.protocols }
  banner : imp.banner = none

variable {unit : AdUnit} {units : List AdUnit} {context : AuctionContext} {imp other : Imp}
  {one : ValidUnit} {valid : List ValidUnit}

theorem AdUnit.HasSizeText.unique {first second : String} (h : unit.HasSizeText first)
    (h' : unit.HasSizeText second) : first = second := by
  obtain ⟨document, raw, given, read, size⟩ := h
  obtain ⟨document', raw', given', read', size'⟩ := h'
  obtain rfl := Option.some.inj (given.symm.trans given')
  obtain rfl := Except.ok.inj (read.symm.trans read')
  exact Option.some.inj (size.symm.trans size')

/-- Impressions of one ad unit differ in their banner and their video alone. -/
theorem IsImpOf.ext (h : IsImpOf unit context imp) (h' : IsImpOf unit context other)
    (banner : imp.banner = other.banner) (video : imp.video = other.video) : imp = other := by
  obtain ⟨params, accepted, tag⟩ := h.tagid
  obtain ⟨params', accepted', tag'⟩ := h'.tagid
  obtain rfl := Except.ok.inj (accepted.symm.trans accepted')
  cases imp
  cases other
  obtain ⟨rfl, rfl, rfl, -, rfl⟩ := h
  obtain ⟨rfl, rfl, rfl, -, rfl⟩ := h'
  simp_all

theorem IsBannerOf.unique (h : IsBannerOf unit context imp) (h' : IsBannerOf unit context other) :
    imp = other := by
  obtain ⟨text, size, given, read, banner⟩ := h.banner
  obtain ⟨text', size', given', read', banner'⟩ := h'.banner
  obtain rfl := given.unique given'
  obtain rfl := Except.ok.inj (read.symm.trans read')
  exact h.ext h'.toIsImpOf (banner.trans banner'.symm) (h.video.trans h'.video.symm)

theorem IsVideoOf.unique (h : IsVideoOf unit context imp) (h' : IsVideoOf unit context other) :
    imp = other := by
  obtain ⟨data, given, -, video⟩ := h.video
  obtain ⟨data', given', -, video'⟩ := h'.video
  obtain rfl := Option.some.inj (given.symm.trans given')
  exact h.ext h'.toIsImpOf (h.banner.trans h'.banner.symm) (video.trans video'.symm)

/-! ## The block of an ad unit -/

/-- One impression with a property if it is wanted, and none otherwise. -/
inductive OneIf (wanted : Prop) (p : Imp → Prop) : List Imp → Prop where
  | one {imp : Imp} (wants : wanted) (holds : p imp) : OneIf wanted p [imp]
  | none (declines : ¬wanted) : OneIf wanted p []

/-- The banner of an ad unit if it declares banner, and then its video if it declares video. -/
def IsBlockOf (context : AuctionContext) (unit : AdUnit) (imps : List Imp) : Prop :=
  ∃ banners videos, imps = banners ++ videos ∧
    OneIf (.banner ∈ unit.mediaTypes) (IsBannerOf unit context) banners ∧
    OneIf (.video ∈ unit.mediaTypes) (IsVideoOf unit context) videos

/-- The blocks of some ad units, one behind the other. -/
def AreImpsOf (context : AuctionContext) (units : List AdUnit) (imps : List Imp) : Prop :=
  ∃ blocks, imps = blocks.flatten ∧ List.Forall₂ (IsBlockOf context) units blocks

theorem OneIf.unique {wanted : Prop} {p : Imp → Prop} {imps others : List Imp}
    (only : ∀ imp other, p imp → p other → imp = other) (h : OneIf wanted p imps)
    (h' : OneIf wanted p others) : imps = others := by
  cases h with
  | one wants holds =>
      cases h' with
      | one _ holds' => rw [only _ _ holds holds']
      | none declines => contradiction
  | none declines =>
      cases h' with
      | one wants _ => contradiction
      | none => rfl

theorem IsBlockOf.unique {imps others : List Imp} (h : IsBlockOf context unit imps)
    (h' : IsBlockOf context unit others) : imps = others := by
  obtain ⟨banners, videos, rfl, banner, video⟩ := h
  obtain ⟨banners', videos', rfl, banner', video'⟩ := h'
  rw [banner.unique (fun _ _ => IsBannerOf.unique) banner',
    video.unique (fun _ _ => IsVideoOf.unique) video']

theorem AreImpsOf.unique {imps others : List Imp} (h : AreImpsOf context units imps)
    (h' : AreImpsOf context units others) : imps = others := by
  obtain ⟨blocks, rfl, each⟩ := h
  obtain ⟨blocks', rfl, each'⟩ := h'
  have same : blocks = blocks' := by
    induction each generalizing blocks' with
    | nil =>
        cases each'
        rfl
    | cons first _ ih =>
        cases each' with
        | cons first' rest' => rw [first.unique first', ih _ rest']
  rw [same]

/-! ## Sizes of blocks -/

/-- The kinds of media with an impression that an ad unit declares, each counted once. -/
def AdUnit.servedCount (unit : AdUnit) : Nat :=
  (unit.mediaTypes.toFinset ∩ {.banner, .video}).card

theorem OneIf.length {wanted : Prop} [Decidable wanted] {p : Imp → Prop} {imps : List Imp}
    (h : OneIf wanted p imps) : imps.length = if wanted then 1 else 0 := by
  cases h with
  | one wants => simp [wants]
  | none declines => simp [declines]

theorem IsBlockOf.length {imps : List Imp} (h : IsBlockOf context unit imps) :
    imps.length = unit.servedCount := by
  obtain ⟨banners, videos, rfl, banner, video⟩ := h
  rw [List.length_append, banner.length, video.length, AdUnit.servedCount, Finset.inter_comm,
    ← Finset.filter_mem_eq_inter, Finset.card_filter, Finset.sum_pair (by decide)]
  simp

theorem AreImpsOf.length {imps : List Imp} (h : AreImpsOf context units imps) :
    imps.length = (units.map AdUnit.servedCount).sum := by
  obtain ⟨blocks, rfl, each⟩ := h
  induction each with
  | nil => rfl
  | cons first _ ih =>
      rw [List.flatten_cons, List.length_append, first.length, ih, List.map_cons, List.sum_cons]

/-- Every impression is the banner or the video of one of the ad units. -/
theorem AreImpsOf.of_mem {imps : List Imp} (h : AreImpsOf context units imps) (mem : imp ∈ imps) :
    ∃ unit ∈ units, .banner ∈ unit.mediaTypes ∧ IsBannerOf unit context imp ∨
      .video ∈ unit.mediaTypes ∧ IsVideoOf unit context imp := by
  obtain ⟨blocks, rfl, each⟩ := h
  induction each with
  | nil => simp at mem
  | @cons unit block units blocks first _ ih =>
      rw [List.flatten_cons, List.mem_append] at mem
      rcases mem with mem | mem
      · obtain ⟨banners, videos, rfl, banner, video⟩ := first
        refine ⟨unit, List.mem_cons_self, ?_⟩
        rcases List.mem_append.mp mem with mem | mem
        · cases banner with
          | one wants holds => exact .inl ⟨wants, List.mem_singleton.mp mem ▸ holds⟩
          | none => contradiction
        · cases video with
          | one wants holds => exact .inr ⟨wants, List.mem_singleton.mp mem ▸ holds⟩
          | none => contradiction
      · obtain ⟨unit, unitMem, holds⟩ := ih mem
        exact ⟨unit, List.mem_cons_of_mem _ unitMem, holds⟩

/-- An impression is either a banner or a video. -/
theorem AreImpsOf.banner_isSome_iff {imps : List Imp} (h : AreImpsOf context units imps)
    (mem : imp ∈ imps) : imp.banner.isSome ↔ imp.video = none := by
  obtain ⟨unit, -, ⟨-, banner⟩ | ⟨-, video⟩⟩ := h.of_mem mem
  · obtain ⟨_, _, -, -, set⟩ := banner.banner
    simp [set, banner.video]
  · obtain ⟨_, -, -, set⟩ := video.video
    simp [set, video.banner]

/-! ## The impressions of valid ad units -/

namespace ValidUnit

section

variable (accepted : one.unit.partnerParams = .ok one.params)

include accepted

theorem isImpOf_impBase : IsImpOf one.unit context (one.impBase context) where
  id := rfl
  instl := rfl
  secure := rfl
  tagid := ⟨one.params, accepted, rfl⟩
  bidfloor := rfl

theorem isBannerOf_banner :
    IsBannerOf one.unit context { one.impBase context with banner := some one.banner } where
  __ := isImpOf_impBase accepted
  banner := by
    obtain ⟨document, raw, given, read, -, -, text, size, -, holds⟩ :=
      AdUnit.partnerParams_eq_ok_iff.mp accepted
    exact ⟨text, _, ⟨document, raw, given, read, size⟩, holds, rfl⟩
  video := rfl

theorem isVideoOf_video {video : Video} (made : one.video? = some video)
    (present : ∀ data, one.unit.video = some data → data.mimes ≠ []) :
    IsVideoOf one.unit context { one.impBase context with video := some video } where
  __ := isImpOf_impBase accepted
  video := by
    obtain ⟨data, given, rfl⟩ := Option.map_eq_some_iff.mp made
    exact ⟨data, given, present data given, rfl⟩
  banner := rfl

end

/-- The served media of an ad unit, in the order of their impressions and without repetition. -/
theorem allowedMedia_eq (unit : AdUnit) :
    unit.allowedMedia =
      (if .banner ∈ unit.mediaTypes then [.banner] else []) ++
        if .video ∈ unit.mediaTypes then [.video] else [] := by
  simp only [AdUnit.allowedMedia, servedMedia, List.filter_cons, List.filter_nil, decide_eq_true_eq]
  split_ifs <;> rfl

/-- A valid ad unit gives its block of impressions. -/
theorem isBlockOf_imps (present : ¬one.unit.LacksVideoData)
    (accepted : one.unit.partnerParams = .ok one.params) :
    IsBlockOf context one.unit (one.imps context) := by
  refine ⟨_, _, by rw [imps, allowedMedia_eq, List.filterMap_append], ?_, ?_⟩
  · split_ifs with declares
    · exact .one declares (isBannerOf_banner accepted)
    · exact .none declares
  · split_ifs with declares
    · obtain ⟨video, made⟩ := Option.isSome_iff_exists.mp (video?_isSome present declares)
      have given : one.imp? context .video =
          some { one.impBase context with video := some video } := by
        simp only [imp?, made, Option.map_some]
      rw [List.filterMap_cons_some given]
      refine .one declares (isVideoOf_video accepted made fun data video mimes => ?_)
      exact present ⟨declares, by simp [video, mimes]⟩
    · exact .none declares

end ValidUnit

theorem forall₂_isBlockOf (validated : (validate units).outcome = .ok valid) :
    List.Forall₂ (IsBlockOf context) units (valid.map (·.imps context)) := by
  obtain ⟨media, pairs⟩ := validate_eq_ok_iff.mp validated
  refine List.forall₂_map_right_iff.mpr (((List.forall₂_and_left _ _).mpr ⟨media, pairs⟩).imp ?_)
  rintro unit one ⟨present, rfl, accepted⟩
  exact ValidUnit.isBlockOf_imps present accepted

theorem areImpsOf_impsOf (validated : (validate units).outcome = .ok valid) :
    AreImpsOf context units (impsOf valid context) :=
  ⟨_, List.flatMap_def, forall₂_isBlockOf validated⟩

variable {adapter : Adapter} {batch : Batch} {requests : List OutboundRequest}
  {request : OutboundRequest}

/-- The impressions of a request are the blocks of its ad units, one behind the other.  There are as
many as the ad units declare served media, each counted once, and each is either the banner or the
video of an ad unit that declares it. -/
theorem requests_offers (made : (adapter.requests batch context).outcome = .ok requests)
    (sent : request ∈ requests) :
    (∀ imps, AreImpsOf context batch.units imps ↔ imps = request.payload.imp) ∧
      request.payload.imp.length = (batch.units.map AdUnit.servedCount).sum ∧
      ∀ imp ∈ request.payload.imp, (imp.banner.isSome ↔ imp.video = none) ∧
        ∃ unit ∈ batch.units, .banner ∈ unit.mediaTypes ∧ IsBannerOf unit context imp ∨
          .video ∈ unit.mediaTypes ∧ IsVideoOf unit context imp := by
  obtain ⟨valid, validated, -, rfl⟩ := Adapter.requests_eq_ok_iff.mp made
  obtain rfl := List.mem_singleton.mp sent
  have blocks : AreImpsOf context batch.units (impsOf valid context) := areImpsOf_impsOf validated
  refine ⟨fun imps => ⟨fun others => others.unique blocks, ?_⟩, blocks.length, fun imp mem => ?_⟩
  · rintro rfl
    exact blocks
  · exact ⟨blocks.banner_isSome_iff mem, blocks.of_mem mem⟩

/-- An ad unit that declares its media in any order, one of them twice, and two more. -/
def mixedUnits : List AdUnit :=
  [{ offer "slot1" "a" [.video, .native, .banner, .video] with
      sizes := [⟨640, 480⟩, ⟨300, 600⟩]
      topframe := some 1
      video := some { mimes := ["video/mp4"], playbackMethod := some 2 } },
   offer "slot2" "b" [.audio],
   { offer "slot3" "c" [.banner, .banner] with instl := some 1 }]

/-- The impressions of these ad units. -/
def mixedImps : List Imp :=
  [{ id := "slot1"
     banner := some
      { w := some 300, h := some 250, format := [⟨640, 480⟩, ⟨300, 600⟩], topframe := some 1 }
     tagid := some "486653" },
   { id := "slot1"
     video := some
      { mimes := ["video/mp4"], w := some 640, h := some 480, playbackmethod := [2] }
     tagid := some "486653" },
   { offeredBanner "slot3" with instl := some 1 }]

theorem requests_offers_mixed :
    (Adapter.requests ⟨"http://localhost/bid"⟩ { units := mixedUnits } {}).outcome =
        .ok [offeredRequest mixedImps] ∧
      (∀ imps, AreImpsOf {} mixedUnits imps ↔ imps = mixedImps) ∧
      mixedUnits.map AdUnit.servedCount = [2, 0, 1] ∧
      mixedImps.length = (mixedUnits.map AdUnit.servedCount).sum := by
  have made : (Adapter.requests ⟨"http://localhost/bid"⟩ { units := mixedUnits } {}).outcome =
      .ok [offeredRequest mixedImps] := by
    cbv
  obtain ⟨blocks, length, -⟩ := requests_offers made List.mem_cons_self
  exact ⟨made, blocks, by decide, length⟩

end HeaderBidding
