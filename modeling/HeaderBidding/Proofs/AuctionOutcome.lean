import HeaderBidding.Proofs.Attribution
import HeaderBidding.Proofs.AuctionStages
import HeaderBidding.Proofs.LongAddresses
import HeaderBidding.Proofs.ResponseText
import HeaderBidding.Proofs.Storage

/-!
# What comes of an auction

An auction on the command line shows all bids of a response or none.  The first of its stages that
fails decides, and the partner is asked once, or not at all if that is before the exchange or the
address of the endpoint cannot be used.
-/

namespace HeaderBidding

theorem lawful_settings : Settings.codec.Lawful := by
  simp [Settings.codec, Codec.Lawful, Fields.Lawful, Fields.names, Presence.defaulted, Codec.Fits]

/-- Settings come back from their text. -/
theorem Settings.decode_encode (settings : Settings) :
    codec.decode (codec.encode settings) = .ok settings :=
  Codec.decode_encode lawful_settings (by decide) (by simp [codec, Codec.Fits, Fields.Fits])

namespace CommandLine

/-! ## An auction that is stored -/

theorem lawful_fixture : Fixture.codec.Lawful := by
  simp [Fixture.codec, Codec.Lawful, Fields.Lawful, Fields.names, Presence.required, lawful_batch,
    lawful_context]

/-- Two ad units for banners, and an auction that may take a quarter of a second. -/
def bannerFixture : Fixture where
  batch := { units := [offer "slot1" "a" [.banner], offer "slot2" "b" [.banner]] }
  context := { tid := "auction", timeoutMillis := some 250 }

/-- What is asked of the partner for this fixture. -/
def bannerRequest : OpenRtb.BidRequest where
  id := "auction"
  imp := [offeredBanner "slot1", offeredBanner "slot2"]
  auctionType := some firstPrice
  tmax := some 250

/-- A world in which settings and this fixture are where they are looked for. -/
def bannerWorld (settings : Settings) : World where
  files :=
    { files :=
        [(["static", "adapter_config.json"], some (Settings.codec.encode settings)),
          (["static", "adapter_request.json"], some (Fixture.codec.encode bannerFixture))] }

/-- The call for an auction of what is there. -/
def bannerInvocation : Invocation where
  config := defaultConfig
  logDir := none
  command := .auction defaultFixture none

theorem ofArguments_auction : Request.ofArguments ["auction"] = .run bannerInvocation := by
  decide +kernel

/-- This fixture comes back from its text. -/
theorem decode_encode_bannerFixture :
    Fixture.codec.decode (Fixture.codec.encode bannerFixture) = .ok bannerFixture := by
  have isParams : ∀ params ∈ bannerFixture.batch.params, IsParams params := by
    simp only [bannerFixture, Batch.params, List.filterMap_cons, List.filterMap_nil, offer,
      List.forall_mem_cons, List.not_mem_nil, false_imp_iff, implies_true, and_true, and_self]
    exact
      { sorted := ⟨by decide +kernel, trivial, trivial, trivial, trivial⟩
        reals := ⟨trivial, trivial, trivial, trivial⟩
        depth := by decide
        deeper := by decide }
  have fits : Fixture.codec.Fits (·.isFinite) Codec.depthLimit bannerFixture := by
    simp [Fixture.codec, Batch.codec, AdUnit.codec, AuctionContext.codec, MediaType.codec,
      Codec.Fits, Fields.Fits, Codec.depthLimit, bannerFixture, offer, Json.depth,
      Json.depthMembers]
  have batch : Batch.codec.reread bannerFixture.batch = bannerFixture.batch :=
    Batch.reread_eq fun params mem => (isParams params mem).toIsExt
  have context : AuctionContext.codec.reread bannerFixture.context = bannerFixture.context :=
    AuctionContext.reread_eq (by simp [bannerFixture, AuctionContext.exts])
  rw [Codec.decode_encode lawful_fixture (by decide) fits]
  exact congrArg _ (congrArg₂ Fixture.mk batch context)

section

variable {settings : Settings} {site : Partner.Site} {url : Url}

theorem isSettings_bannerWorld (settings : Settings) :
    IsSettings ((bannerWorld settings).files.read bannerInvocation.config) settings := by
  have read : (bannerWorld settings).files.read bannerInvocation.config =
      .ok (Settings.codec.encode settings) := by
    rfl
  rw [read]
  exact .decoded (Settings.decode_encode settings)

theorem makeDirectory_bannerWorld (logDir : settings.logDir = "logs") :
    (bannerWorld settings).files.makeDirectory? settings.logDir =
      some (((bannerWorld settings).files.withDirectory []).withDirectory ["logs"]) := by
  rw [logDir]
  rfl

theorem room_bannerWorld (logDir : settings.logDir = "logs") (settings' : Settings)
    (loaded : IsSettings ((bannerWorld settings).files.read bannerInvocation.config) settings') :
    ((bannerWorld settings).files.makeDirectory?
      (bannerInvocation.logDir.getD settings'.logDir)).isSome = true := by
  obtain rfl := (isSettings_bannerWorld settings).unique loaded
  exact Option.isSome_iff_exists.mpr ⟨_, makeDirectory_bannerWorld logDir⟩

theorem named_bannerWorld (parsed : Url.parse settings.endpoint = .ok url)
    (isAt : site.isAt url = true) (settings' : Settings) (url' : Url)
    (loaded : IsSettings ((bannerWorld settings).files.read bannerInvocation.config) settings')
    (parsed' : Url.parse ((none : Option String).getD settings'.endpoint) = .ok url')
    (_ : url'.scheme ∈ endpointSchemes) : site.isAt url' = true := by
  obtain rfl := (isSettings_bannerWorld settings).unique loaded
  obtain rfl := Except.ok.inj (parsed.symm.trans parsed')
  exact isAt

/-- What is stored is prepared for an endpoint that is an address of the web. -/
theorem prepares_bannerWorld (logDir : settings.logDir = "logs")
    (parsed : Url.parse settings.endpoint = .ok url) (scheme : url.scheme ∈ endpointSchemes) :
    Prepares (bannerWorld settings) bannerInvocation defaultFixture none settings bannerFixture url
      (Adapter.post ⟨settings.endpoint⟩ bannerRequest) where
  loaded := isSettings_bannerWorld settings
  found := ⟨_, _, makeDirectory_bannerWorld logDir, by rfl, decode_encode_bannerFixture⟩
  parsed
  scheme
  made := by
    cbv

end

/-- A response with a bid for each of these ad units, the second first. -/
def bannerResponse : OpenRtb.BidResponse where
  seatbid :=
    [{ bid := [{ impid := "slot2", price := 2.5, crid := some "c" }] },
      { bid := [{ impid := "slot1", price := 0.5 }] }]

/-- A response with a bid for one of these ad units and a bid for nothing. -/
def strayResponse : OpenRtb.BidResponse where
  seatbid := [{ bid := [{ impid := "slot1", price := 0.5 }, { impid := "slot3", price := 0.5 }] }]

/-- What is sold by the first of these responses. -/
def bannerBids (responseTimeMs : UInt64) : List Bid :=
  [{ bidder := bidderName, bidId := "b", code := "slot2", price := 2.5, creativeId := some "c",
      responseTimeMs := some responseTimeMs },
    { bidder := bidderName, bidId := "a", code := "slot1", price := 0.5,
      responseTimeMs := some responseTimeMs }]

theorem readsBack_fiveHalves : Json.ReadsBack 2.5 :=
  Json.readsBack_of_rereadReal (by decide +kernel) (by decide +kernel)

theorem decode_encode_bannerResponse :
    OpenRtb.BidResponse.codec.decode (OpenRtb.BidResponse.codec.encode bannerResponse) =
      .ok bannerResponse :=
  OpenRtb.BidResponse.decode_encode (by
    simpa [bannerResponse, OpenRtb.BidResponse.bids] using
      ⟨readsBack_fiveHalves, Json.readsBack_half⟩)

theorem decode_encode_strayResponse :
    OpenRtb.BidResponse.codec.decode (OpenRtb.BidResponse.codec.encode strayResponse) =
      .ok strayResponse :=
  OpenRtb.BidResponse.decode_encode (by
    simpa [strayResponse, OpenRtb.BidResponse.bids] using Json.readsBack_half)

theorem areSold_bannerResponse (status : UInt16) (responseTimeMs : UInt64) :
    AreSold bannerFixture.batch { status, responseTimeMs, response := some bannerResponse }
      (bannerBids responseTimeMs) := by
  have second : IsFirst (·.code = "slot2") bannerFixture.batch.units
      (offer "slot2" "b" [.banner]) :=
    unitFor?_eq_some_iff.mp (by rfl)
  have first : IsFirst (·.code = "slot1") bannerFixture.batch.units
      (offer "slot1" "a" [.banner]) :=
    unitFor?_eq_some_iff.mp (by rfl)
  exact .cons ⟨_, second, rfl⟩ (.cons ⟨_, first, rfl⟩ .nil)

theorem asShown_bannerBids (responseTimeMs : UInt64) :
    (bannerBids responseTimeMs).map Bid.asShown = bannerBids responseTimeMs := by
  simp only [bannerBids, List.map_cons, List.map_nil, List.cons.injEq, and_true]
  exact ⟨Bid.asShown_of_readsBack readsBack_fiveHalves.rereadReal,
    Bid.asShown_of_readsBack Json.readsBack_half.rereadReal⟩

/-! ## Runs -/

section

variable {world : World} {script : Script} {args : List String} {invocation : Invocation}
  {path : String} {endpoint? : Option String}

variable (asked : Request.ofArguments args = .run invocation)
  (command : invocation.command = .auction path endpoint?)
  (room : ∀ settings, IsSettings (world.files.read invocation.config) settings →
    (world.files.makeDirectory? (invocation.logDir.getD settings.logDir)).isSome = true)
  (named : ∀ settings url, IsSettings (world.files.read invocation.config) settings →
    Url.parse (endpoint?.getD settings.endpoint) = .ok url → url.scheme ∈ endpointSchemes →
    script.site.isAt url = true)

include asked command room named

/-- A run of an auction fails before anything is posted, or it posts what has been prepared and
depends on the reply from then on. -/
theorem run_cases :
    (∃ failure next, world.run script args = (.failed failure, next) ∧
        next.posted = world.posted ∧
        ∀ settings fixture url request,
          Prepares world invocation path endpoint? settings fixture url request →
            Posting.isUsable (Posting.bareUrl url) = false) ∨
      ∃ settings fixture url request posting result next,
        world.run script args = (.ofExcept Bid.codec result, next) ∧
        Prepares world invocation path endpoint? settings fixture url request ∧
        Posting.isUsable (Posting.bareUrl url) = true ∧
        posting.url = Posting.bareUrl url ∧
        posting.body = OpenRtb.BidRequest.codec.encode request.payload ∧
        next.posted = world.posted ++ (if script.partner.isListening then [posting] else []) ∧
        ∀ bids, result = .ok bids ↔
          ∃ reply, script.partner.Replies
              (request.payload.tmax.getD settings.defaultTimeoutMs) reply ∧
            AreSold fixture.batch reply bids := by
  cases load : Settings.load invocation.config (world.files.read invocation.config) with
  | error e =>
      refine .inl ⟨_, _, World.run_of_no_settings asked load, rfl, ?_⟩
      rintro _ _ _ _ ⟨loaded, -⟩
      obtain ⟨_, loaded, -⟩ := (isSettings_iff invocation.config).mp loaded
      rw [load] at loaded
      contradiction
  | ok loaded =>
      have isSettings := (isSettings_iff invocation.config).mpr ⟨loaded, load, rfl⟩
      obtain ⟨files, made⟩ := Option.isSome_iff_exists.mp (room _ isSettings)
      obtain ⟨start, settings, sameFiles, samePosted, endpoint, timeout, ran⟩ :=
        World.run_auction script asked command load made
      cases prepared : (preparation settings (start.files.read path)).outcome with
      | error e =>
          refine .inl ⟨_, _, ran _ _ (World.take_auction_of_error prepared), samePosted, ?_⟩
          rintro _ _ _ _ ⟨loaded', ⟨_, _, room', found, decoded⟩, parsed, scheme, requested⟩
          obtain rfl := isSettings.unique loaded'
          obtain rfl := Option.some.inj (made.symm.trans room')
          rw [← sameFiles] at found
          rw [← endpoint] at parsed requested
          have ready := preparation_eq_ok_iff.mpr
            ⟨⟨_, found, decoded⟩, ⟨_, parsed, scheme⟩, requested⟩
          rw [prepared] at ready
          contradiction
      | ok ready =>
          obtain ⟨fixture, requests⟩ := ready
          obtain ⟨⟨text, found, decoded⟩, ⟨url, parsed, scheme⟩, requested⟩ :=
            preparation_eq_ok_iff.mp prepared
          obtain ⟨valid, -, -, rfl⟩ := Adapter.requests_eq_ok_iff.mp requested
          have prepares : Prepares world invocation path endpoint? (loaded.getD {}) fixture url
              (Adapter.post ⟨settings.endpoint⟩ (requestOf valid fixture.context)) := by
            refine ⟨isSettings, ⟨files, text, made, sameFiles ▸ found, decoded⟩, ?_, scheme, ?_⟩
            · rwa [← endpoint]
            · rwa [← endpoint]
          have isAt := named _ url isSettings (endpoint ▸ parsed) scheme
          have web := (Partner.Site.isAt_iff.mp isAt).1
          cases usable : Posting.isUsable (Posting.bareUrl url) with
          | false =>
              obtain ⟨next, taken, all⟩ := World.take_auction_of_ok prepared
                (Partner.exchange_of_not_posted
                  (Posting.ofRequest_of_not_isUsable parsed web rfl usable))
              refine .inl ⟨_, next, ran _ _ taken, ?_, fun _ _ url' _ prepares' => ?_⟩
              · rw [all, List.append_nil, samePosted]
              · obtain ⟨-, -, rfl, -⟩ := prepares.unique prepares'
                exact usable
          | true =>
              obtain ⟨posting, posted, address, body⟩ := Posting.exists_ofRequest
                (Adapter.post ⟨settings.endpoint⟩ (requestOf valid fixture.context)) parsed web rfl
                usable
              have toPartner : script.site.isAt posting.url = true := by
                rw [address, Posting.isAt_bareUrl, isAt]
              obtain ⟨next, taken, all⟩ := World.take_auction_of_ok prepared
                (Partner.exchange_of_isAt posted toPartner)
              refine .inr ⟨_, _, _, _, posting, _, next, ran _ _ taken, prepares, usable, address,
                body, ?_, fun bids => ?_⟩
              · rw [all, samePosted]
              · rw [Traced.outcome_bind_eq_ok_iff]
                simp only [Traced.outcome_mapError_eq_ok_iff, Partner.outcome_conclude_deliver,
                  bidsOf_eq_ok_iff, OutboundRequest.budget, timeout]

/-- If the directory for the log can be made, and the endpoint leads to the partner if it is an
address at all, an auction exits with `0` exactly if all is prepared, the address can be used, the
partner replies before the time is over, and each bid of the reply names an ad unit.  What it shows
then is a list, which has the bids that are sold, one for each bid of the reply and in their order.
Otherwise it exits with `1` and shows nothing.  The partner reads the request once if it is prepared
and its address can be used, unless the partner does not listen; otherwise it reads nothing. -/
theorem run_auction_all_or_nothing :
    ∃ outcome next, world.run script args = (outcome, next) ∧
      (outcome.exit = 0 ↔
        ∃ settings fixture url request reply,
          Prepares world invocation path endpoint? settings fixture url request ∧
          Succeeds script.partner settings fixture url request reply) ∧
      (∀ settings fixture url request reply,
        Prepares world invocation path endpoint? settings fixture url request →
        Succeeds script.partner settings fixture url request reply →
        outcome.stderr = "" ∧
          ∃ bids, AreSold fixture.batch reply bids ∧
            (Codec.list Bid.codec).decode outcome.stdout = .ok (bids.map Bid.asShown)) ∧
      (outcome.exit ≠ 0 → outcome.exit = 1 ∧ outcome.stdout = "") ∧
      (∀ settings fixture url request,
        Prepares world invocation path endpoint? settings fixture url request →
        Posting.isUsable (Posting.bareUrl url) = true →
        ∃ posting, posting.url = Posting.bareUrl url ∧
          posting.body = OpenRtb.BidRequest.codec.encode request.payload ∧
          next.posted = world.posted ++ (if script.partner.isListening then [posting] else [])) ∧
      ((∀ settings fixture url request,
          Prepares world invocation path endpoint? settings fixture url request →
          Posting.isUsable (Posting.bareUrl url) = false) →
        next.posted = world.posted) := by
  obtain ⟨failure, next, ran, unposted, unfit⟩ |
    ⟨settings, fixture, url, request, posting, result, next, ran, prepares, usable, address, body,
      posted, sells⟩ := run_cases asked command room named
  · have fit {settings fixture url request}
        (prepares : Prepares world invocation path endpoint? settings fixture url request) :
        Posting.isUsable (Posting.bareUrl url) ≠ true :=
      Bool.eq_false_iff.mp (unfit settings fixture url request prepares)
    refine ⟨_, next, ran, ⟨fun exits => ?_, ?_⟩, ?_, fun _ => ⟨rfl, rfl⟩, ?_, fun _ => unposted⟩
    · exact absurd exits Nat.one_ne_zero
    · rintro ⟨_, _, _, _, _, prepares, succeeds⟩
      exact absurd succeeds.usable (fit prepares)
    · intro _ _ _ _ _ prepares succeeds
      exact absurd succeeds.usable (fit prepares)
    · intro _ _ _ _ prepares usable
      exact absurd usable (fit prepares)
  -- What has been prepared is unique, so a reply to it that can be attributed gives the bids.
  · have attributed {settings' fixture' url' request' reply}
        (prepares' : Prepares world invocation path endpoint? settings' fixture' url' request')
        (succeeds : Succeeds script.partner settings' fixture' url' request' reply) :
        ∃ bids, AreSold fixture'.batch reply bids ∧ result = .ok bids := by
      obtain ⟨rfl, rfl, -, rfl⟩ := prepares.unique prepares'
      obtain ⟨bids, sold⟩ := exists_areSold_iff.mpr succeeds.known
      exact ⟨bids, sold, (sells bids).mpr ⟨reply, succeeds.replies, sold⟩⟩
    refine ⟨_, next, ran, ⟨fun exits => ?_, ?_⟩, ?_, fun exits => ?_, ?_, fun unfit => ?_⟩
    · cases result with
      | error failure => exact absurd exits Nat.one_ne_zero
      | ok bids =>
          obtain ⟨reply, replies, sold⟩ := (sells bids).mp rfl
          exact ⟨settings, fixture, url, request, reply, prepares, usable, replies,
            exists_areSold_iff.mp ⟨bids, sold⟩⟩
    · rintro ⟨_, _, _, _, _, prepares', succeeds⟩
      obtain ⟨bids, -, rfl⟩ := attributed prepares' succeeds
      rfl
    · intro _ _ _ _ _ prepares' succeeds
      obtain ⟨bids, sold, rfl⟩ := attributed prepares' succeeds
      exact ⟨rfl, bids, sold, decode_shown_of_areSold succeeds.replies sold⟩
    · cases result with
      | error failure => exact ⟨rfl, rfl⟩
      | ok bids => exact absurd rfl exits
    · intro _ _ _ _ prepares' _
      obtain ⟨rfl, rfl, rfl, rfl⟩ := prepares.unique prepares'
      exact ⟨posting, address, body, posted⟩
    · rw [unfit _ _ _ _ prepares] at usable
      contradiction

end

/-- Replies that come to bids or to none, and what leaves an auction without any: a bid for nothing
among others, a partner that is late, and one that does not listen. -/
theorem run_auction_all_or_nothing_banner :
    let settings : Settings := { endpoint := "http://localhost:9001/bid" }
    let body := OpenRtb.BidResponse.codec.encode bannerResponse
    let stray := OpenRtb.BidResponse.codec.encode strayResponse
    let run (partner : Partner) :=
      (bannerWorld settings).run { partner, site := { port := 9001 } } ["auction"]
    (∃ outcome next posting, run (.answers 200 body 0 249) = (outcome, next) ∧
      outcome.exit = 0 ∧
      (Codec.list Bid.codec).decode outcome.stdout = .ok (bannerBids 249) ∧
      next.posted = [posting] ∧
      posting.body = OpenRtb.BidRequest.codec.encode bannerRequest) ∧
    (∃ outcome next, run (.answers 204 "" 0 12) = (outcome, next) ∧
      outcome.exit = 0 ∧ (Codec.list Bid.codec).decode outcome.stdout = .ok []) ∧
    ∀ partner ∈ [.answers 200 stray 0 12, .answers 200 body 0 250, .refuses],
      ∃ outcome next, run partner = (outcome, next) ∧ outcome.exit = 1 ∧ outcome.stdout = "" := by
  intro settings body stray run
  have address : (Url.parse settings.endpoint).toOption.any (fun url =>
      Partner.Site.isAt { port := 9001 } url && Posting.isUsable (Posting.bareUrl url)) = true := by
    decide +kernel
  obtain ⟨url, parsed, checked⟩ := exists_eq_ok_of_any address
  obtain ⟨isAt, usable⟩ := Bool.and_eq_true_iff.mp checked
  have scheme : url.scheme ∈ endpointSchemes := by
    rw [(Partner.Site.isAt_iff.mp isAt).1]
    decide
  have prepares := @prepares_bannerWorld settings url rfl parsed scheme
  have runs := fun partner : Partner => @run_auction_all_or_nothing (bannerWorld settings)
    { partner, site := { port := 9001 } } _ _ _ _ ofArguments_auction rfl (room_bannerWorld rfl)
    (named_bannerWorld parsed isAt)
  have fails {partner : Partner}
      (none : ∀ reply, partner.Replies 250 reply → ∃ offered ∈ reply.bids,
        ∀ unit ∈ bannerFixture.batch.units, unit.code ≠ offered.impid) :
      ∃ outcome next, run partner = (outcome, next) ∧ outcome.exit = 1 ∧
        outcome.stdout = "" := by
    obtain ⟨outcome, next, ran, ends, -, nothing, -⟩ := runs partner
    refine ⟨outcome, next, ran, nothing fun exits => ?_⟩
    obtain ⟨_, _, _, _, reply, prepares', succeeds⟩ := ends.mp exits
    obtain ⟨rfl, rfl, -, rfl⟩ := prepares.unique prepares'
    obtain ⟨offered, mem, unknown⟩ := none reply succeeds.replies
    obtain ⟨unit, unitMem, code⟩ := succeeds.known offered mem
    exact unknown unit unitMem code
  have sells {partner : Partner} {reply : Reply} {bids : List Bid}
      (replies : partner.Replies 250 reply)
      (sold : AreSold bannerFixture.batch reply bids) :
      ∃ outcome next, run partner = (outcome, next) ∧ outcome.exit = 0 ∧
        (Codec.list Bid.codec).decode outcome.stdout = .ok (bids.map Bid.asShown) ∧
        ∃ posting, posting.body = OpenRtb.BidRequest.codec.encode bannerRequest ∧
          next.posted = if partner.isListening then [posting] else [] := by
    obtain ⟨outcome, next, ran, ends, shows, -, sent, -⟩ := runs partner
    have succeeds : Succeeds partner settings bannerFixture url
        (Adapter.post ⟨settings.endpoint⟩ bannerRequest) reply :=
      ⟨usable, replies, exists_areSold_iff.mp ⟨bids, sold⟩⟩
    obtain ⟨-, bids', sold', shown⟩ := shows _ _ _ _ _ prepares succeeds
    obtain rfl := sold.unique sold'
    obtain ⟨posting, -, body, posted⟩ := sent _ _ _ _ prepares usable
    exact ⟨outcome, next, ran, ends.mpr ⟨_, _, _, _, _, prepares, succeeds⟩, shown, posting,
      body, posted⟩
  refine ⟨?_, ?_, ?_⟩
  · obtain ⟨outcome, next, ran, exits, shown, posting, body, posted⟩ :=
      sells (.response (by decide) (by decide) (by decide) decode_encode_bannerResponse)
        (areSold_bannerResponse 200 249)
    rw [asShown_bannerBids] at shown
    exact ⟨outcome, next, posting, ran, exits, shown, posted, body⟩
  · have replies : (Partner.answers 204 "" 0 12).Replies 250
        { status := 204, responseTimeMs := 12, response := none } :=
      .noContent (by decide)
    obtain ⟨outcome, next, ran, exits, shown, -⟩ := sells replies .nil
    exact ⟨outcome, next, ran, exits, shown⟩
  · intro partner mem
    simp only [List.mem_cons, List.not_mem_nil, or_false] at mem
    refine fails fun reply replies => ?_
    obtain rfl | rfl | rfl := mem
    · obtain _ | ⟨-, -, -, read⟩ := replies
      obtain rfl := Except.ok.inj (decode_encode_strayResponse.symm.trans read)
      refine ⟨{ impid := "slot3", price := 0.5 }, ?_, by simp [bannerFixture, offer]⟩
      simp [Reply.bids, strayResponse, OpenRtb.BidResponse.bids]
    · obtain _ | ⟨late, -⟩ := replies
      contradiction
    · contradiction

/-- Everything is prepared for an auction whose endpoint is too long to be posted to, and a partner
that it leads to has no bids.  The auction fails, and the partner reads nothing. -/
theorem run_auction_longEndpoint :
    let settings : Settings := { endpoint := Url.queryAddress 65534 }
    let url := Url.queryUrl 65534
    let request := Adapter.post ⟨settings.endpoint⟩ bannerRequest
    let script : Script := { partner := .answers 204 "" 0 12, site := { port := 9001 } }
    let reply : Reply := { status := 204, responseTimeMs := 12, response := none }
    Request.ofArguments ["auction"] = .run bannerInvocation ∧
      Prepares (bannerWorld settings) bannerInvocation defaultFixture none settings bannerFixture
        url request ∧
      script.site.isAt url = true ∧
      script.partner.Replies (request.payload.tmax.getD settings.defaultTimeoutMs) reply ∧
      (∀ offered ∈ reply.bids, ∃ unit ∈ bannerFixture.batch.units, unit.code = offered.impid) ∧
      ∃ outcome next, (bannerWorld settings).run script ["auction"] = (outcome, next) ∧
        outcome.exit = 1 ∧ next.posted = [] := by
  intro settings url request script reply
  have parsed : Url.parse settings.endpoint = .ok url := Url.parse_queryAddress 65534
  have prepares := @prepares_bannerWorld settings url rfl parsed (by decide)
  have isAt : script.site.isAt url = true := rfl
  refine ⟨ofArguments_auction, prepares, isAt, .noContent (by decide), by simp [reply, Reply.bids],
    ?_⟩
  obtain ⟨failure, next, ran, unposted, -⟩ |
    ⟨_, _, _, _, _, _, _, -, prepares', usable, -⟩ :=
    @run_cases (bannerWorld settings) script _ _ _ _ ofArguments_auction rfl (room_bannerWorld rfl)
      (named_bannerWorld parsed isAt)
  · exact ⟨_, next, ran, rfl, unposted⟩
  -- The address is read as it is written, and so it is too long.
  · obtain ⟨-, -, rfl, -⟩ := prepares.unique prepares'
    rw [Posting.bareUrl_queryUrl, Posting.isUsable_queryUrl] at usable
    exact absurd (of_decide_eq_true usable) (by decide)

end CommandLine

end HeaderBidding
