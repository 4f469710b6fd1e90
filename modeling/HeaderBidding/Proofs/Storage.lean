import HeaderBidding.Proofs.Impressions
import HeaderBidding.Proofs.RequestText

/-!
# Stored batches and contexts

What a caller offers can be kept as text.  A batch of ad units and a context come back as they were,
but that a `null` in a document of any shape counts as absent.  Nobody notices: on the copy, the
adapter makes the same requests for the same reasons.
-/

namespace HeaderBidding

open OpenRtb

/-! ## What comes back -/

/-- The ad unit without parameters that are `null`. -/
def AdUnit.withoutNull (unit : AdUnit) : AdUnit :=
  { unit with params := unlessNull unit.params }

/-- The batch without parameters that are `null`. -/
def Batch.withoutNulls (batch : Batch) : Batch :=
  { batch with units := batch.units.map AdUnit.withoutNull }

/-- The context without the documents of any shape that are `null`. -/
def AuctionContext.withoutNulls (context : AuctionContext) : AuctionContext :=
  { context with
    app := context.app.map fun app => { app with ext := unlessNull app.ext }
    site := context.site.map fun site => { site with ext := unlessNull site.ext }
    device := context.device.map fun device => { device with ext := unlessNull device.ext }
    user := context.user.map fun user => { user with ext := unlessNull user.ext } }

/-- Parameters that an ad unit of a batch may have.  They stand one level deeper than the documents
that a context may hold. -/
structure IsParams (params : Json) : Prop extends IsExt params where
  deeper : params.depth + 3 ≤ Codec.depthLimit

/-- The documents of any shape in a context. -/
def AuctionContext.exts (context : AuctionContext) : List Json :=
  (context.app.bind (·.ext)).toList ++ (context.site.bind (·.ext)).toList ++
    (context.device.bind (·.ext)).toList ++ (context.user.bind (·.ext)).toList

/-- The parameters in a batch. -/
def Batch.params (batch : Batch) : List Json :=
  batch.units.filterMap (·.params)

/-! ## Members that are written even if they are not set -/

variable {α : Type}

/-- A value that may be absent comes back as what it holds, if that is never written as `null`. -/
theorem reread_nullable (inner : Codec α) (solid : Solid inner) (f : α → α) (a : Option α) :
    (a.bind fun b => if (inner.toJson b).WritesNull then none else some (f b)) = a.map f := by
  cases a with
  | none => rfl
  | some a => exact if_neg (solid a)

/-- A document of any shape comes back, unless it is `null`, whether or not it is written when it
is absent. -/
theorem reread_document {ext : Option Json} (exts : ∀ v, ext = some v → IsExt v) :
    (ext.bind fun v => if (Codec.free.toJson v).WritesNull then none else some v.reread) =
      unlessNull ext := by
  refine Eq.trans ?_ (reread_ext exts)
  cases ext <;> rfl

/-! ## Batches -/

variable {unit : AdUnit} {batch : Batch} {context : AuctionContext}

theorem lawful_batch : Batch.codec.Lawful := by
  simp [Batch.codec, AdUnit.codec, VideoParams.codec, Format.codec, MediaType.codec, Codec.Lawful,
    Fields.Lawful, Fields.names, Presence.required, Presence.nullable, Presence.defaulted,
    Codec.Fits]

/-- A batch fits if its parameters are not nested too deep. -/
theorem fits_batch_iff {good : Float → Prop} :
    Batch.codec.Fits good Codec.depthLimit batch ↔
      ∀ params ∈ batch.params, params.depth + 3 ≤ Codec.depthLimit := by
  simp only [Batch.params, List.mem_filterMap, forall_exists_index, and_imp]
  simp [Batch.codec, AdUnit.codec, VideoParams.codec, Format.codec, MediaType.codec, Codec.Fits,
    Fields.Fits, Codec.depthLimit]
  tauto

theorem VideoParams.reread_eq (video : VideoParams) :
    VideoParams.codec.reread video = video := by
  simp [VideoParams.codec, Codec.reread, Fields.reread, Presence.defaulted, Presence.nullable,
    reread_nullable _ (solid_word _)]

theorem AdUnit.reread_eq (exts : ∀ params, unit.params = some params → IsExt params) :
    AdUnit.codec.reread unit = unit.withoutNull := by
  have format : Format.codec.reread = id := by
    funext format
    rfl
  have media : MediaType.codec.reread = id := by
    funext media
    rfl
  simp [AdUnit.codec, AdUnit.withoutNull, Codec.reread, Fields.reread, Presence.required,
    Presence.defaulted, Presence.nullable, format, media, VideoParams.reread_eq,
    reread_document exts, reread_nullable _ (solid_word _),
    reread_nullable VideoParams.codec solid_record]

theorem Batch.reread_eq (exts : ∀ params ∈ batch.params, IsExt params) :
    Batch.codec.reread batch = batch.withoutNulls := by
  have units : batch.units.map AdUnit.codec.reread = batch.units.map AdUnit.withoutNull :=
    List.map_congr_left fun unit mem => AdUnit.reread_eq fun params given =>
      exts params (List.mem_filterMap.mpr ⟨unit, mem, given⟩)
  simp [Batch.codec, Batch.withoutNulls, Codec.reread, Fields.reread, Presence.required, units]

/-! ## Contexts -/

/-- What holds of the documents of any shape in a context holds of each party's. -/
theorem AuctionContext.forall_mem_exts {p : Json → Prop} :
    (∀ ext ∈ context.exts, p ext) ↔
      (∀ app, context.app = some app → ∀ ext, app.ext = some ext → p ext) ∧
      (∀ site, context.site = some site → ∀ ext, site.ext = some ext → p ext) ∧
      (∀ device, context.device = some device → ∀ ext, device.ext = some ext → p ext) ∧
      ∀ user, context.user = some user → ∀ ext, user.ext = some ext → p ext := by
  simp only [exts, List.mem_append, or_imp, forall_and, Option.mem_toList, Option.bind_eq_some_iff,
    forall_exists_index, and_imp, and_assoc]
  tauto

theorem AuctionContext.reread_eq (exts : ∀ ext ∈ context.exts, IsExt ext) :
    AuctionContext.codec.reread context = context.withoutNulls := by
  obtain ⟨appExts, siteExts, deviceExts, userExts⟩ := forall_mem_exts.mp exts
  have app := Option.map_congr fun app given => App.reread_eq (appExts app given)
  have site := Option.map_congr fun site given => Site.reread_eq (siteExts site given)
  have device := Option.map_congr fun device given => Device.reread_eq (deviceExts device given)
  have user := Option.map_congr fun user given => User.reread_eq (userExts user given)
  simp [AuctionContext.codec, AuctionContext.withoutNulls, Codec.reread, Fields.reread, app, site,
    device, user, Source.reread_eq, Presence.required, Presence.nullable,
    reread_nullable _ (solid_word _),
    reread_nullable App.codec solid_record,
    reread_nullable Site.codec solid_record,
    reread_nullable Device.codec solid_record,
    reread_nullable User.codec solid_record,
    reread_nullable Source.codec solid_record]

/-! ## Requests for a stored batch -/

/-- The validated ad unit without parameters that are `null`. -/
def ValidUnit.withoutNull (valid : ValidUnit) : ValidUnit :=
  { valid with unit := valid.unit.withoutNull }

/-- Parameters that are `null` are refused like parameters that are absent. -/
theorem AdUnit.partnerParams_withoutNull (unit : AdUnit) :
    unit.withoutNull.partnerParams = unit.partnerParams := by
  obtain ⟨_, _, _, _, _, _, _, _, _ | params⟩ := unit
  · rfl
  · cases params <;> rfl

theorem AdUnit.checkParams_withoutNull (unit : AdUnit) :
    unit.withoutNull.checkParams = ValidUnit.withoutNull <$> unit.checkParams := by
  rw [checkParams, checkParams, partnerParams_withoutNull]
  cases unit.partnerParams with
  | ok params => rfl
  | error reason => rfl

theorem validate_withoutNull (units : List AdUnit) :
    validate (units.map AdUnit.withoutNull) =
      List.map ValidUnit.withoutNull <$> validate units := by
  have media : ∀ unit : AdUnit, unit.withoutNull.checkMedia = id <$> unit.checkMedia :=
    fun unit => (Traced.id_map unit.checkMedia).symm
  simp only [validate, checkAll_eq_each, Traced.each_map media,
    Traced.each_map AdUnit.checkParams_withoutNull, List.map_id_fun, Traced.id_map, map_bind]

/-- A request is made from what the parameters have been read as, not from the parameters. -/
theorem bidRequest_withoutNull (valid : List ValidUnit) (context : AuctionContext) :
    bidRequest (valid.map ValidUnit.withoutNull) context = bidRequest valid context := by
  have publisher : publisherOf (valid.map ValidUnit.withoutNull) = publisherOf valid := by
    simp only [publisherOf, List.getLast?_map, Option.map_map]
    rfl
  simp only [bidRequest, List.flatMap_map, publisher]
  rfl

theorem Adapter.requests_withoutNulls (adapter : Adapter) (batch : Batch)
    (context : AuctionContext) :
    adapter.requests batch.withoutNulls context = adapter.requests batch context := by
  simp only [requests, Batch.withoutNulls, validate_withoutNull, bind_map_left,
    bidRequest_withoutNull, List.length_map]

/-- A batch and a context whose documents of any shape can be read back are read again from their
texts, without the documents that are `null`.  In every context, the adapter makes the same requests
for the copy of the batch, or refuses it for the same reason, and logs the same. -/
theorem stored_reads_back (params : ∀ params ∈ batch.params, IsParams params)
    (exts : ∀ ext ∈ context.exts, IsExt ext) :
    Batch.codec.decode (Batch.codec.encode batch) = .ok batch.withoutNulls ∧
      AuctionContext.codec.decode (AuctionContext.codec.encode context) =
        .ok context.withoutNulls ∧
      ∀ (adapter : Adapter) (other : AuctionContext),
        adapter.requests batch.withoutNulls other = adapter.requests batch other := by
  have high : Batch.codec.height ≤ Codec.depthLimit := by decide
  have high' : AuctionContext.codec.height ≤ Codec.depthLimit := by decide
  have fits : Batch.codec.Fits (·.isFinite) Codec.depthLimit batch :=
    fits_batch_iff.mpr fun document mem => (params document mem).deeper
  have fits' : AuctionContext.codec.Fits (·.isFinite) Codec.depthLimit context :=
    fits_context_iff.mpr (AuctionContext.forall_mem_exts.mp fun ext mem =>
      Nat.le_sub_of_add_le (exts ext mem).depth)
  refine ⟨?_, ?_, fun adapter other => adapter.requests_withoutNulls batch other⟩
  · rw [Codec.decode_encode lawful_batch high fits,
      Batch.reread_eq fun document mem => (params document mem).toIsExt]
  · rw [Codec.decode_encode lawful_context high' fits', AuctionContext.reread_eq exts]

/-- A batch and a context in which some documents are `null` and others are not. -/
theorem stored_reads_back_mixed :
    let params : Json := .object
      [("cf", .text "300X250"), ("cp", .text "512379"), ("ct", .list [.real 0.5, .null])]
    let unit : AdUnit :=
      { bidId := "say \"ü\"", code := "1", sizes := [⟨300, 250⟩], topframe := some 0,
        mediaTypes := [.native, .video], video := some { mimes := ["video/mp4"], protocols := [2] },
        params := some params }
    let batch : Batch := { units := [unit, { code := "2", params := some .null }] }
    let context : AuctionContext :=
      { tid := "t", timeoutMillis := some 1000, app := some { name := some "", ext := some .null },
        user := some { ext := some params } }
    Batch.codec.decode (Batch.codec.encode batch) = .ok { units := [unit, { code := "2" }] } ∧
      AuctionContext.codec.decode (AuctionContext.codec.encode context) =
        .ok { context with app := some { name := some "" } } ∧
      ∀ (adapter : Adapter) (other : AuctionContext),
        adapter.requests { units := [unit, { code := "2" }] } other =
          adapter.requests batch other := by
  intro params unit batch context
  have isExt : IsExt params :=
    { sorted := ⟨by decide +kernel, by simp [Json.SortedMembers, Json.Sorted, Json.SortedItems]⟩
      reals := by
        simpa [params, Json.AllReals, Json.AllRealsItems, Json.AllRealsMembers] using
          Json.readsBack_half
      depth := by decide }
  have isExt_null : IsExt .null := ⟨trivial, trivial, by decide⟩
  have kept : ∀ document ∈ batch.params, IsParams document := by
    simpa [batch, Batch.params, unit] using
      ⟨IsParams.mk isExt (by decide), IsParams.mk isExt_null (by decide)⟩
  have exts : ∀ ext ∈ context.exts, IsExt ext := by
    simpa [context, AuctionContext.exts] using ⟨isExt_null, isExt⟩
  exact stored_reads_back kept exts

end HeaderBidding
