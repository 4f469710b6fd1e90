import HeaderBidding.Proofs.Messages
import HeaderBidding.Proofs.WrittenMembers

/-!
# The text of a bid request

A bid request can be read back from its text, but that a `null` in a document of any shape counts as
absent.  At every level, the text has a member for an optional field exactly if the field is set,
and for a list that may be left out exactly if it has items.
-/

namespace HeaderBidding.OpenRtb

open Json

/-! ## What the text of a request shows -/

/-- A whole number in a document. -/
def wordJson {α : Type} (word : Word α) (a : α) : Json :=
  .whole (word.toWhole a)

/-- Texts in a document. -/
def textsJson (texts : List String) : Json :=
  .list (texts.map .text)

/-- Whole numbers in a document. -/
def wordsJson {α : Type} (word : Word α) (as : List α) : Json :=
  .list (as.map (wordJson word))

/-- A list, unless it has no items. -/
def nonempty? {α : Type} (items : List α) : Option (List α) :=
  if items = [] then none else some items

/-- The document is a list that shows some items one by one. -/
def ItemsShownBy {α : Type} (shownBy : α → Json → Prop) (items : List α) (document : Json) : Prop :=
  ∃ documents, document = .list documents ∧ List.Forall₂ shownBy items documents

/-- The document shows a size. -/
structure Format.ShownBy (format : Format) (document : Json) : Prop where
  w : document.get? "w" = some (wordJson .uint32 format.w)
  h : document.get? "h" = some (wordJson .uint32 format.h)

/-- The document shows a banner. -/
structure Banner.ShownBy (banner : Banner) (document : Json) : Prop where
  w : document.get? "w" = banner.w.map (wordJson .uint32)
  h : document.get? "h" = banner.h.map (wordJson .uint32)
  format : Option.Rel (ItemsShownBy Format.ShownBy) (nonempty? banner.format)
    (document.get? "format")
  topframe : document.get? "topframe" = banner.topframe.map (wordJson .int32)

/-- The document shows a video. -/
structure Video.ShownBy (video : Video) (document : Json) : Prop where
  mimes : document.get? "mimes" = (nonempty? video.mimes).map textsJson
  minduration : document.get? "minduration" = video.minduration.map (wordJson .int32)
  maxduration : document.get? "maxduration" = video.maxduration.map (wordJson .int32)
  w : document.get? "w" = video.w.map (wordJson .uint32)
  h : document.get? "h" = video.h.map (wordJson .uint32)
  startdelay : document.get? "startdelay" = video.startdelay.map (wordJson .int32)
  playbackmethod : document.get? "playbackmethod" =
    (nonempty? video.playbackmethod).map (wordsJson .int32)
  protocols : document.get? "protocols" = (nonempty? video.protocols).map (wordsJson .int32)

/-- The document shows an impression. -/
structure Imp.ShownBy (imp : Imp) (document : Json) : Prop where
  id : document.get? "id" = some (.text imp.id)
  banner : Option.Rel Banner.ShownBy imp.banner (document.get? "banner")
  video : Option.Rel Video.ShownBy imp.video (document.get? "video")
  instl : document.get? "instl" = imp.instl.map (wordJson .int32)
  tagid : document.get? "tagid" = imp.tagid.map .text
  bidfloor : document.get? "bidfloor" = imp.bidfloor.map .real
  secure : document.get? "secure" = imp.secure.map (wordJson .int32)

/-- The document shows a publisher. -/
structure Publisher.ShownBy (publisher : Publisher) (document : Json) : Prop where
  id : document.get? "id" = publisher.id.map .text
  name : document.get? "name" = publisher.name.map .text
  domain : document.get? "domain" = publisher.domain.map .text

/-- The document shows a site. -/
structure Site.ShownBy (site : Site) (document : Json) : Prop where
  id : document.get? "id" = site.id.map .text
  name : document.get? "name" = site.name.map .text
  domain : document.get? "domain" = site.domain.map .text
  page : document.get? "page" = site.page.map .text
  publisher : Option.Rel Publisher.ShownBy site.publisher (document.get? "publisher")
  ext : document.get? "ext" = site.ext

/-- The document shows an app. -/
structure App.ShownBy (app : App) (document : Json) : Prop where
  id : document.get? "id" = app.id.map .text
  name : document.get? "name" = app.name.map .text
  bundle : document.get? "bundle" = app.bundle.map .text
  storeurl : document.get? "storeurl" = app.storeurl.map .text
  ver : document.get? "ver" = app.ver.map .text
  publisher : Option.Rel Publisher.ShownBy app.publisher (document.get? "publisher")
  ext : document.get? "ext" = app.ext

/-- The document shows a device. -/
structure Device.ShownBy (device : Device) (document : Json) : Prop where
  ua : document.get? "ua" = device.ua.map .text
  ip : document.get? "ip" = device.ip.map .text
  ifa : document.get? "ifa" = device.ifa.map .text
  os : document.get? "os" = device.os.map .text
  osv : document.get? "osv" = device.osv.map .text
  devicetype : document.get? "devicetype" = device.devicetype.map (wordJson .int32)
  lmt : document.get? "lmt" = device.lmt.map (wordJson .int32)
  ext : document.get? "ext" = device.ext

/-- The document shows a user. -/
structure User.ShownBy (user : User) (document : Json) : Prop where
  id : document.get? "id" = user.id.map .text
  buyeruid : document.get? "buyeruid" = user.buyeruid.map .text
  ext : document.get? "ext" = user.ext

/-- The document shows a source. -/
structure Source.ShownBy (source : Source) (document : Json) : Prop where
  fd : document.get? "fd" = source.fd.map (wordJson .int32)
  tid : document.get? "tid" = source.tid.map .text

/-- The document shows regulations. -/
structure Regs.ShownBy (regs : Regs) (document : Json) : Prop where
  coppa : document.get? "coppa" = regs.coppa.map (wordJson .int32)
  ext : document.get? "ext" = regs.ext

/-- The document shows a bid request. -/
structure BidRequest.ShownBy (request : BidRequest) (document : Json) : Prop where
  id : document.get? "id" = some (.text request.id)
  imp : Option.Rel (ItemsShownBy Imp.ShownBy) (some request.imp) (document.get? "imp")
  site : Option.Rel Site.ShownBy request.site (document.get? "site")
  app : Option.Rel App.ShownBy request.app (document.get? "app")
  device : Option.Rel Device.ShownBy request.device (document.get? "device")
  user : Option.Rel User.ShownBy request.user (document.get? "user")
  source : Option.Rel Source.ShownBy request.source (document.get? "source")
  regs : Option.Rel Regs.ShownBy request.regs (document.get? "regs")
  test : document.get? "test" = request.test.map (wordJson .int32)
  auctionType : document.get? "at" = request.auctionType.map (wordJson .int32)
  tmax : document.get? "tmax" = request.tmax.map (wordJson .uint64)
  cur : document.get? "cur" = request.cur.map textsJson
  bcat : document.get? "bcat" = request.bcat.map textsJson
  badv : document.get? "badv" = request.badv.map textsJson

/-! ## What is asked of a request -/

/-- The documents of any shape in a request. -/
def BidRequest.exts (request : BidRequest) : List Json :=
  (request.site.bind (·.ext)).toList ++ (request.app.bind (·.ext)).toList ++
    (request.device.bind (·.ext)).toList ++ (request.user.bind (·.ext)).toList ++
    (request.regs.bind (·.ext)).toList

/-- A document that may be absent, where `null` counts as absent. -/
def unlessNull : Option Json → Option Json
  | some .null => none
  | ext => ext

/-- The request without the documents of any shape that are `null`. -/
def BidRequest.withoutNulls (request : BidRequest) : BidRequest :=
  { request with
    site := request.site.map fun site => { site with ext := unlessNull site.ext }
    app := request.app.map fun app => { app with ext := unlessNull app.ext }
    device := request.device.map fun device => { device with ext := unlessNull device.ext }
    user := request.user.map fun user => { user with ext := unlessNull user.ext }
    regs := request.regs.map fun regs => { regs with ext := unlessNull regs.ext } }

/-- A document of any shape that a request may hold: its members are sorted, its doubles are read
back, and in the request it is not nested deeper than can be read. -/
structure IsExt (ext : Json) : Prop where
  sorted : ext.Sorted
  reals : ext.AllReals ReadsBack
  depth : ext.depth + 2 ≤ Codec.depthLimit

/-! ## Descriptions -/

theorem lawful_format : Format.codec.Lawful := by
  simp [Format.codec, Codec.Lawful, Fields.Lawful, Fields.names, Presence.required]

theorem lawful_banner : Banner.codec.Lawful := by
  simp [Banner.codec, Format.codec, Codec.Lawful, Fields.Lawful, Fields.names, Presence.required,
    Presence.optional, Presence.nonempty, Codec.Fits]

theorem lawful_video : Video.codec.Lawful := by
  simp [Video.codec, Codec.Lawful, Fields.Lawful, Fields.names, Presence.optional,
    Presence.nonempty, Codec.Fits]

theorem lawful_imp : Imp.codec.Lawful := by
  simp [Imp.codec, Banner.codec, Format.codec, Video.codec, Codec.Lawful, Fields.Lawful,
    Fields.names, Presence.required, Presence.optional, Presence.nonempty, Codec.Fits]

theorem lawful_publisher : Publisher.codec.Lawful := by
  simp [Publisher.codec, Codec.Lawful, Fields.Lawful, Fields.names, Presence.optional, Codec.Fits]

theorem lawful_site : Site.codec.Lawful := by
  simp [Site.codec, Publisher.codec, Codec.Lawful, Fields.Lawful, Fields.names, Presence.optional,
    Codec.Fits]

theorem lawful_app : App.codec.Lawful := by
  simp [App.codec, Publisher.codec, Codec.Lawful, Fields.Lawful, Fields.names, Presence.optional,
    Codec.Fits]

theorem lawful_device : Device.codec.Lawful := by
  simp [Device.codec, Codec.Lawful, Fields.Lawful, Fields.names, Presence.optional, Codec.Fits]

theorem lawful_user : User.codec.Lawful := by
  simp [User.codec, Codec.Lawful, Fields.Lawful, Fields.names, Presence.optional, Codec.Fits]

theorem lawful_source : Source.codec.Lawful := by
  simp [Source.codec, Codec.Lawful, Fields.Lawful, Fields.names, Presence.optional, Codec.Fits]

theorem lawful_regs : Regs.codec.Lawful := by
  simp [Regs.codec, Codec.Lawful, Fields.Lawful, Fields.names, Presence.optional, Codec.Fits]

/-! ## What is written is shown -/

variable {α : Type} {shows : α → Json → Prop}

/-- A member is shown if what is written is, and is absent if there is none. -/
theorem rel_of_eq_map_reread (codec : Codec α) {value : Option α} {member : Option Json}
    (same : member = value.map fun a => (codec.toJson a).reread)
    (each : ∀ a, value = some a → shows a (codec.toJson a).reread) :
    Option.Rel shows value member := by
  subst same
  cases value with
  | none => exact .none
  | some a => exact .some (each a rfl)

theorem itemsShownBy {item : Codec α} {items : List α}
    (each : ∀ a ∈ items, shows a (item.toJson a).reread) :
    ItemsShownBy shows items ((Codec.list item).toJson items).reread := by
  refine ⟨_, rfl, ?_⟩
  rw [rereadItems_eq_map, List.map_map]
  exact List.forall₂_map_right_iff.mpr (List.forall₂_same.mpr each)

/-- The members that are written come back as they are if their documents do. -/
theorem eq_of_eq_map_reread {documents member : Option Json}
    (same : member = documents.map (·.reread))
    (each : ∀ document, documents = some document → document.reread = document) :
    member = documents := by
  rw [same, Option.map_congr each, Option.map_id']

theorem eq_map_textsJson {texts : Option (List String)} {member : Option Json}
    (same : member = (texts.map textsJson).map (·.reread)) : member = texts.map textsJson := by
  refine eq_of_eq_map_reread same fun document given => ?_
  obtain ⟨texts, -, rfl⟩ := Option.map_eq_some_iff.mp given
  rw [textsJson, reread, rereadItems_eq_map, List.map_map]
  rfl

theorem eq_map_wordsJson {word : Word α} {words : Option (List α)} {member : Option Json}
    (same : member = (words.map (wordsJson word)).map (·.reread)) :
    member = words.map (wordsJson word) := by
  refine eq_of_eq_map_reread same fun document given => ?_
  obtain ⟨words, -, rfl⟩ := Option.map_eq_some_iff.mp given
  rw [wordsJson, reread, rereadItems_eq_map, List.map_map]
  rfl

theorem IsExt.reread {ext : Json} (isExt : IsExt ext) : ext.reread = ext :=
  reread_of_sorted ext isExt.sorted isExt.reals

theorem Format.shownBy (format : Format) :
    format.ShownBy (Format.codec.toJson format).reread where
  w := Codec.get?_record lawful_format format "w"
  h := Codec.get?_record lawful_format format "h"

theorem Banner.shownBy (banner : Banner) :
    banner.ShownBy (Banner.codec.toJson banner).reread := by
  obtain ⟨w, h, format, topframe⟩ := banner
  have get := Codec.get?_record lawful_banner ⟨w, h, format, topframe⟩
  exact
    { w := by cases w <;> exact get _
      h := by cases h <;> exact get _
      format := by
        refine rel_of_eq_map_reread (.list Format.codec) ?_ fun formats _ =>
          itemsShownBy fun format _ => format.shownBy
        cases format <;> exact get _
      topframe := by cases topframe <;> exact get _ }

theorem Video.shownBy (video : Video) : video.ShownBy (Video.codec.toJson video).reread := by
  obtain ⟨mimes, minduration, maxduration, w, h, startdelay, playbackmethod, protocols⟩ := video
  have get := Codec.get?_record lawful_video
    ⟨mimes, minduration, maxduration, w, h, startdelay, playbackmethod, protocols⟩
  exact
    { mimes := eq_map_textsJson (by cases mimes <;> exact get _)
      minduration := by cases minduration <;> exact get _
      maxduration := by cases maxduration <;> exact get _
      w := by cases w <;> exact get _
      h := by cases h <;> exact get _
      startdelay := by cases startdelay <;> exact get _
      playbackmethod := eq_map_wordsJson (by cases playbackmethod <;> exact get _)
      protocols := eq_map_wordsJson (by cases protocols <;> exact get _) }

theorem Imp.shownBy {imp : Imp} (floors : ∀ floor, imp.bidfloor = some floor → ReadsBack floor) :
    imp.ShownBy (Imp.codec.toJson imp).reread := by
  obtain ⟨id, banner, video, instl, tagid, bidfloor, secure⟩ := imp
  have get := Codec.get?_record lawful_imp ⟨id, banner, video, instl, tagid, bidfloor, secure⟩
  exact
    { id := get _
      banner := rel_of_eq_map_reread Banner.codec (by cases banner <;> exact get _)
        fun banner _ => banner.shownBy
      video := rel_of_eq_map_reread Video.codec (by cases video <;> exact get _)
        fun video _ => video.shownBy
      instl := by cases instl <;> exact get _
      tagid := by cases tagid <;> exact get _
      bidfloor := by
        cases bidfloor with
        | none => exact get _
        | some floor =>
            have back := floors floor rfl
            have same : (Json.real floor).reread = .real floor := by
              rw [reread, if_pos back.isFinite, back.rereadReal]
            exact (get _).trans (congrArg some same)
      secure := by cases secure <;> exact get _ }

theorem Publisher.shownBy (publisher : Publisher) :
    publisher.ShownBy (Publisher.codec.toJson publisher).reread := by
  obtain ⟨id, name, domain⟩ := publisher
  have get := Codec.get?_record lawful_publisher ⟨id, name, domain⟩
  exact
    { id := by cases id <;> exact get _
      name := by cases name <;> exact get _
      domain := by cases domain <;> exact get _ }

theorem Site.shownBy {site : Site} (exts : ∀ ext, site.ext = some ext → IsExt ext) :
    site.ShownBy (Site.codec.toJson site).reread := by
  obtain ⟨id, name, domain, page, publisher, ext⟩ := site
  have get := Codec.get?_record lawful_site ⟨id, name, domain, page, publisher, ext⟩
  exact
    { id := by cases id <;> exact get _
      name := by cases name <;> exact get _
      domain := by cases domain <;> exact get _
      page := by cases page <;> exact get _
      publisher := rel_of_eq_map_reread Publisher.codec (by cases publisher <;> exact get _)
        fun publisher _ => publisher.shownBy
      ext := eq_of_eq_map_reread (by cases ext <;> exact get _) fun _ given =>
        (exts _ given).reread }

theorem App.shownBy {app : App} (exts : ∀ ext, app.ext = some ext → IsExt ext) :
    app.ShownBy (App.codec.toJson app).reread := by
  obtain ⟨id, name, bundle, storeurl, ver, publisher, ext⟩ := app
  have get := Codec.get?_record lawful_app ⟨id, name, bundle, storeurl, ver, publisher, ext⟩
  exact
    { id := by cases id <;> exact get _
      name := by cases name <;> exact get _
      bundle := by cases bundle <;> exact get _
      storeurl := by cases storeurl <;> exact get _
      ver := by cases ver <;> exact get _
      publisher := rel_of_eq_map_reread Publisher.codec (by cases publisher <;> exact get _)
        fun publisher _ => publisher.shownBy
      ext := eq_of_eq_map_reread (by cases ext <;> exact get _) fun _ given =>
        (exts _ given).reread }

theorem Device.shownBy {device : Device} (exts : ∀ ext, device.ext = some ext → IsExt ext) :
    device.ShownBy (Device.codec.toJson device).reread := by
  obtain ⟨ua, ip, ifa, os, osv, devicetype, lmt, ext⟩ := device
  have get := Codec.get?_record lawful_device ⟨ua, ip, ifa, os, osv, devicetype, lmt, ext⟩
  exact
    { ua := by cases ua <;> exact get _
      ip := by cases ip <;> exact get _
      ifa := by cases ifa <;> exact get _
      os := by cases os <;> exact get _
      osv := by cases osv <;> exact get _
      devicetype := by cases devicetype <;> exact get _
      lmt := by cases lmt <;> exact get _
      ext := eq_of_eq_map_reread (by cases ext <;> exact get _) fun _ given =>
        (exts _ given).reread }

theorem User.shownBy {user : User} (exts : ∀ ext, user.ext = some ext → IsExt ext) :
    user.ShownBy (User.codec.toJson user).reread := by
  obtain ⟨id, buyeruid, ext⟩ := user
  have get := Codec.get?_record lawful_user ⟨id, buyeruid, ext⟩
  exact
    { id := by cases id <;> exact get _
      buyeruid := by cases buyeruid <;> exact get _
      ext := eq_of_eq_map_reread (by cases ext <;> exact get _) fun _ given =>
        (exts _ given).reread }

theorem Source.shownBy (source : Source) : source.ShownBy (Source.codec.toJson source).reread := by
  obtain ⟨fd, tid⟩ := source
  have get := Codec.get?_record lawful_source ⟨fd, tid⟩
  exact
    { fd := by cases fd <;> exact get _
      tid := by cases tid <;> exact get _ }

theorem Regs.shownBy {regs : Regs} (exts : ∀ ext, regs.ext = some ext → IsExt ext) :
    regs.ShownBy (Regs.codec.toJson regs).reread := by
  obtain ⟨coppa, ext⟩ := regs
  have get := Codec.get?_record lawful_regs ⟨coppa, ext⟩
  exact
    { coppa := by cases coppa <;> exact get _
      ext := eq_of_eq_map_reread (by cases ext <;> exact get _) fun _ given =>
        (exts _ given).reread }

variable {request : BidRequest}

/-- What holds of the documents of any shape in a request holds of each party's. -/
theorem BidRequest.forall_mem_exts {p : Json → Prop} :
    (∀ ext ∈ request.exts, p ext) ↔
      (∀ site, request.site = some site → ∀ ext, site.ext = some ext → p ext) ∧
      (∀ app, request.app = some app → ∀ ext, app.ext = some ext → p ext) ∧
      (∀ device, request.device = some device → ∀ ext, device.ext = some ext → p ext) ∧
      (∀ user, request.user = some user → ∀ ext, user.ext = some ext → p ext) ∧
      ∀ regs, request.regs = some regs → ∀ ext, regs.ext = some ext → p ext := by
  simp only [exts, List.mem_append, or_imp, forall_and, Option.mem_toList, Option.bind_eq_some_iff,
    forall_exists_index, and_imp, and_assoc]
  tauto

theorem BidRequest.shownBy
    (floors : ∀ imp ∈ request.imp, ∀ floor, imp.bidfloor = some floor → ReadsBack floor)
    (exts : ∀ ext ∈ request.exts, IsExt ext) :
    request.ShownBy (BidRequest.codec.toJson request).reread := by
  obtain ⟨siteExts, appExts, deviceExts, userExts, regsExts⟩ := forall_mem_exts.mp exts
  obtain ⟨id, imp, site, app, device, user, source, regs, test, auctionType, tmax, cur, bcat,
    badv⟩ := request
  have get := Codec.get?_record lawful_bidRequest ⟨id, imp, site, app, device, user, source, regs,
    test, auctionType, tmax, cur, bcat, badv⟩
  exact
    { id := get _
      imp := by
        refine rel_of_eq_map_reread (.list Imp.codec) (get _) ?_
        rintro imps ⟨⟩
        exact itemsShownBy fun imp mem => Imp.shownBy (floors imp mem)
      site := rel_of_eq_map_reread Site.codec (by cases site <;> exact get _)
        fun site given => Site.shownBy (siteExts site given)
      app := rel_of_eq_map_reread App.codec (by cases app <;> exact get _)
        fun app given => App.shownBy (appExts app given)
      device := rel_of_eq_map_reread Device.codec (by cases device <;> exact get _)
        fun device given => Device.shownBy (deviceExts device given)
      user := rel_of_eq_map_reread User.codec (by cases user <;> exact get _)
        fun user given => User.shownBy (userExts user given)
      source := rel_of_eq_map_reread Source.codec (by cases source <;> exact get _)
        fun source _ => source.shownBy
      regs := rel_of_eq_map_reread Regs.codec (by cases regs <;> exact get _)
        fun regs given => Regs.shownBy (regsExts regs given)
      test := by cases test <;> exact get _
      auctionType := by cases auctionType <;> exact get _
      tmax := by cases tmax <;> exact get _
      cur := eq_map_textsJson (by cases cur <;> exact get _)
      bcat := eq_map_textsJson (by cases bcat <;> exact get _)
      badv := eq_map_textsJson (by cases badv <;> exact get _) }

/-! ## What is written is read back -/

/-- The values are not written as `null`. -/
def Solid (codec : Codec α) : Prop :=
  ∀ a, ¬(codec.toJson a).WritesNull

theorem solid_text : Solid .text :=
  not_writesNull_text

theorem solid_word (word : Word α) : Solid (.word word) :=
  fun _ => not_writesNull_whole _

theorem solid_list (item : Codec α) : Solid (.list item) :=
  fun _ => not_writesNull_list _

theorem solid_record {β σ : Type} {label : String} {fields : Fields β σ} {shape : Shape β α} :
    Solid (.record label fields shape) :=
  fun _ => not_writesNull_object _

/-- An optional member comes back as what it holds, if that is never written as `null`. -/
theorem reread_optional (inner : Codec α) (solid : Solid inner) (f : α → α) (a : Option α) :
    (if Presence.optional.hides a then a
      else a.bind fun b => if (inner.toJson b).WritesNull then none else some (f b)) =
      a.map f := by
  cases a with
  | none => rfl
  | some a => exact if_neg (solid a)

/-- A document of any shape comes back, unless it is `null`. -/
theorem reread_ext {ext : Option Json} (exts : ∀ document, ext = some document → IsExt document) :
    (if Presence.optional.hides ext then ext
      else ext.bind fun document =>
        if (Codec.free.toJson document).WritesNull then none else some document.reread) =
      unlessNull ext := by
  cases ext with
  | none => rfl
  | some document =>
      have isExt := exts document rfl
      have null := writesNull_iff isExt.reals
      by_cases isNull : document = .null
      · subst isNull
        rfl
      · refine (if_neg (isNull ∘ null.mp)).trans ?_
        rw [isExt.reread]
        cases document <;> first | rfl | exact absurd rfl isNull

theorem Imp.reread_eq {imp : Imp} (floors : ∀ floor, imp.bidfloor = some floor → ReadsBack floor) :
    Imp.codec.reread imp = imp := by
  refine Imp.codec.reread_of_stable imp (stable_imp fun floor given => ?_)
  have back := floors floor given
  have solid : ¬(Json.real floor).WritesNull := fun writes =>
    Json.noConfusion ((writesNull_iff (v := .real floor) back).mp writes)
  exact ⟨back.rereadReal, solid⟩

theorem Publisher.reread_eq (publisher : Publisher) :
    Publisher.codec.reread publisher = publisher := by
  simp [Publisher.codec, Codec.reread, Fields.reread, reread_optional .text solid_text]

theorem Site.reread_eq {site : Site} (exts : ∀ ext, site.ext = some ext → IsExt ext) :
    Site.codec.reread site = { site with ext := unlessNull site.ext } := by
  simp [Site.codec, Codec.reread, Fields.reread, reread_ext exts, reread_optional .text solid_text,
    reread_optional Publisher.codec solid_record, Publisher.reread_eq]

theorem App.reread_eq {app : App} (exts : ∀ ext, app.ext = some ext → IsExt ext) :
    App.codec.reread app = { app with ext := unlessNull app.ext } := by
  simp [App.codec, Codec.reread, Fields.reread, reread_ext exts, reread_optional .text solid_text,
    reread_optional Publisher.codec solid_record, Publisher.reread_eq]

theorem Device.reread_eq {device : Device} (exts : ∀ ext, device.ext = some ext → IsExt ext) :
    Device.codec.reread device = { device with ext := unlessNull device.ext } := by
  simp [Device.codec, Codec.reread, Fields.reread, reread_ext exts, reread_optional .text solid_text,
    reread_optional _ (solid_word _)]

theorem User.reread_eq {user : User} (exts : ∀ ext, user.ext = some ext → IsExt ext) :
    User.codec.reread user = { user with ext := unlessNull user.ext } := by
  simp [User.codec, Codec.reread, Fields.reread, reread_ext exts, reread_optional .text solid_text]

theorem Source.reread_eq (source : Source) : Source.codec.reread source = source := by
  simp [Source.codec, Codec.reread, Fields.reread, reread_optional .text solid_text,
    reread_optional _ (solid_word _)]

theorem Regs.reread_eq {regs : Regs} (exts : ∀ ext, regs.ext = some ext → IsExt ext) :
    Regs.codec.reread regs = { regs with ext := unlessNull regs.ext } := by
  simp [Regs.codec, Codec.reread, Fields.reread, reread_ext exts, reread_optional _ (solid_word _)]

/-- Of a request, only the documents of any shape that are `null` do not come back. -/
theorem BidRequest.reread_eq
    (floors : ∀ imp ∈ request.imp, ∀ floor, imp.bidfloor = some floor → ReadsBack floor)
    (exts : ∀ ext ∈ request.exts, IsExt ext) :
    BidRequest.codec.reread request = request.withoutNulls := by
  obtain ⟨siteExts, appExts, deviceExts, userExts, regsExts⟩ := forall_mem_exts.mp exts
  have imps : request.imp.map Imp.codec.reread = request.imp :=
    (List.map_congr_left fun imp mem => Imp.reread_eq (floors imp mem)).trans (List.map_id' _)
  have site := Option.map_congr fun site given => Site.reread_eq (siteExts site given)
  have app := Option.map_congr fun app given => App.reread_eq (appExts app given)
  have device := Option.map_congr fun device given => Device.reread_eq (deviceExts device given)
  have user := Option.map_congr fun user given => User.reread_eq (userExts user given)
  have regs := Option.map_congr fun regs given => Regs.reread_eq (regsExts regs given)
  simp [BidRequest.codec, BidRequest.withoutNulls, Codec.reread, Fields.reread, imps, site, app,
    device, user, regs, Source.reread_eq, Presence.required,
    reread_optional _ (solid_word _), reread_optional _ (solid_list _),
    reread_optional Site.codec solid_record,
    reread_optional App.codec solid_record,
    reread_optional Device.codec solid_record,
    reread_optional User.codec solid_record,
    reread_optional Source.codec solid_record,
    reread_optional Regs.codec solid_record]

/-- A bid request whose floors and documents can be read back is read again from its text, without
the documents that are `null`, and the text has members for what is set and for nothing else. -/
theorem BidRequest.text_reads_back
    (floors : ∀ imp ∈ request.imp, ∀ floor, imp.bidfloor = some floor → ReadsBack floor)
    (exts : ∀ ext ∈ request.exts, IsExt ext) :
    codec.decode (codec.encode request) = .ok request.withoutNulls ∧
      ∃ document, Codec.free.decode (codec.encode request) = .ok document ∧
        request.ShownBy document := by
  have high : codec.height ≤ Codec.depthLimit := by decide
  have fits : codec.Fits (·.isFinite) Codec.depthLimit request := by
    obtain ⟨site, app, device, user, regs⟩ := forall_mem_exts.mp fun ext mem =>
      Nat.le_sub_of_add_le (exts ext mem).depth
    exact fits_bidRequest_iff.mpr
      ⟨fun imp mem floor given => (floors imp mem floor given).isFinite, site, app, device, user,
        regs⟩
  constructor
  · rw [Codec.decode_encode lawful_bidRequest high fits, reread_eq floors exts]
  · exact ⟨_, Codec.decode_free_encode high fits, shownBy floors exts⟩

/-- A request with a floor, an escape, an empty list, a nested document and one that is `null`. -/
theorem BidRequest.text_reads_back_mixed :
    let banner : Banner := { w := some 4294967295, format := [⟨300, 250⟩], topframe := some 0 }
    let ext : Json := .object [("a", .list [.real 0.5, .null]), ("b", .text "")]
    let request : BidRequest :=
      { id := "say \"ü\""
        imp := [{ id := "1", banner := some banner, bidfloor := some 0.5 }]
        site := some { page := some "", ext := some ext }
        user := some { ext := some .null }
        cur := some [] }
    codec.decode (codec.encode request) = .ok { request with user := some {} } ∧
      ∃ document, Codec.free.decode (codec.encode request) = .ok document ∧
        request.ShownBy document := by
  intro banner ext request
  have floors : ∀ imp ∈ request.imp, ∀ floor, imp.bidfloor = some floor → ReadsBack floor := by
    simpa [request] using readsBack_half
  have isExt : IsExt ext :=
    { sorted := ⟨by decide +kernel, by simp [SortedMembers, Sorted, SortedItems]⟩
      reals := by simpa [ext, AllReals, AllRealsItems, AllRealsMembers] using readsBack_half
      depth := by decide }
  have isExt_null : IsExt .null := ⟨trivial, trivial, by decide⟩
  have exts : ∀ ext ∈ request.exts, IsExt ext := by
    simpa [request, BidRequest.exts] using ⟨isExt, isExt_null⟩
  exact text_reads_back floors exts

end HeaderBidding.OpenRtb
