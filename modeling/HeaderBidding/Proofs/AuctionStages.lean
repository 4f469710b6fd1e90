import HeaderBidding.Proofs.Extraction
import HeaderBidding.Proofs.FiniteDoubles
import HeaderBidding.Proofs.Messages
import HeaderBidding.Proofs.PartnerExchange
import HeaderBidding.Proofs.RequestOutcome
import HeaderBidding.Proofs.ShownBids
import HeaderBidding.Proofs.WorldRuns

/-!
# The stages of an auction

An auction on the command line goes through stages: the settings, the log, the fixture, the
endpoint, the request, the exchange and the attribution of the bids.  Here is what it means that a
stage goes well, and that there is nothing to choose in any of them.
-/

namespace HeaderBidding

/-- The bids of a reply, in the order of the seats. -/
def Reply.bids (reply : Reply) : List OpenRtb.Bid :=
  reply.response.elim [] (·.bids)

/-- The bid of the caller for a bid of the partner for one of the ad units. -/
def AdUnit.sold (unit : AdUnit) (responseTimeMs : UInt64) (bid : OpenRtb.Bid) : Bid where
  bidder := unit.bidderCode
  bidId := unit.bidId
  code := bid.impid
  price := bid.price
  adm := bid.adm
  creativeId := bid.crid
  width := bid.w
  height := bid.h
  responseTimeMs := some responseTimeMs

namespace CommandLine

/-- The bids of the caller are, one by one, those of a reply, each for the first ad unit with the
code that it names. -/
def AreSold (batch : Batch) (reply : Reply) (bids : List Bid) : Prop :=
  List.Forall₂ (fun offered bid => ∃ unit, IsFirst (·.code = offered.impid) batch.units unit ∧
    bid = unit.sold reply.responseTimeMs offered) reply.bids bids

/-- The settings of a run are those in its file, or the defaults if there is no file. -/
inductive IsSettings : FileRead → Settings → Prop
  | absent {file : FileRead} (absent : file.isAbsent = true) : IsSettings file {}
  | decoded {text : String} {settings : Settings}
    (decoded : Settings.codec.decode text = .ok settings) : IsSettings (.ok text) settings

/-- All that comes before the exchange goes well, and gives a request. -/
structure Prepares (world : World) (invocation : Invocation) (path : String)
    (endpoint? : Option String) (settings : Settings) (fixture : Fixture) (url : Url)
    (request : OutboundRequest) : Prop where
  loaded : IsSettings (world.files.read invocation.config) settings
  found : ∃ files text,
    world.files.makeDirectory? (invocation.logDir.getD settings.logDir) = some files ∧
      files.read path = .ok text ∧ Fixture.codec.decode text = .ok fixture
  parsed : Url.parse (endpoint?.getD settings.endpoint) = .ok url
  scheme : url.scheme ∈ endpointSchemes
  made : (Adapter.requests ⟨endpoint?.getD settings.endpoint⟩ fixture.batch
    fixture.context).outcome = .ok [request]

/-- What has been prepared can be posted, the partner replies before the time for the request is
over, and each bid of the reply names an ad unit. -/
structure Succeeds (partner : Partner) (settings : Settings) (fixture : Fixture) (url : Url)
    (request : OutboundRequest) (reply : Reply) : Prop where
  usable : Posting.isUsable (Posting.bareUrl url) = true
  replies : partner.Replies (request.payload.tmax.getD settings.defaultTimeoutMs) reply
  known : ∀ offered ∈ reply.bids, ∃ unit ∈ fixture.batch.units, unit.code = offered.impid

variable {world : World} {script : Script} {args : List String} {invocation : Invocation}
  {path : String} {endpoint? : Option String} {settings : Settings} {file : FileRead}

/-! ## Stages -/

theorem load_of_absent {place : String} (absent : file.isAbsent = true) :
    Settings.load place file = .ok none := by
  rw [Settings.load, if_pos absent]

theorem load_of_decoded {place text : String}
    (decoded : Settings.codec.decode text = .ok settings) :
    Settings.load place (.ok text) = .ok (some settings) := by
  rw [Settings.load, if_neg (by simp [FileRead.isAbsent]), Settings.ofFile]
  simp only [decoded]
  rfl

/-- The settings can be loaded if the file decodes or there is none. -/
theorem isSettings_iff (place : String) :
    IsSettings file settings ↔
      ∃ loaded, Settings.load place file = .ok loaded ∧ loaded.getD {} = settings := by
  constructor
  · rintro (absent | decoded)
    · exact ⟨none, load_of_absent absent, rfl⟩
    · exact ⟨some _, load_of_decoded decoded, rfl⟩
  · rintro ⟨loaded, load, rfl⟩
    by_cases absent : file.isAbsent = true
    · rw [load_of_absent absent] at load
      obtain rfl := Except.ok.inj load
      exact .absent absent
    · rw [Settings.load, if_neg absent, Settings.ofFile.eq_def] at load
      cases file with
      | error e => contradiction
      | ok text =>
          cases decoded : Settings.codec.decode text with
          | error fault =>
              simp only [decoded] at load
              contradiction
          | ok settings =>
              simp only [decoded] at load
              obtain rfl := Except.ok.inj load
              exact .decoded decoded

theorem IsSettings.unique {settings' : Settings} (first : IsSettings file settings)
    (second : IsSettings file settings') : settings = settings' := by
  obtain ⟨loaded, load, rfl⟩ := (isSettings_iff "").mp first
  obtain ⟨loaded', load', rfl⟩ := (isSettings_iff "").mp second
  obtain rfl := Except.ok.inj (load.symm.trans load')
  rfl

theorem checkEndpoint_eq_ok_iff {endpoint checked : String} :
    checkEndpoint endpoint = .ok checked ↔
      (∃ url, Url.parse endpoint = .ok url ∧ url.scheme ∈ endpointSchemes) ∧
        checked = endpoint := by
  rw [checkEndpoint]
  cases Url.parse endpoint with
  | error fault => simp
  | ok url =>
      by_cases scheme : url.scheme ∈ endpointSchemes <;> simp [scheme, eq_comm]

theorem Fixture.ofFile_eq_ok_iff {fixture : Fixture} :
    ofFile file = .ok fixture ↔ ∃ text, file = .ok text ∧ codec.decode text = .ok fixture := by
  cases file with
  | error e => simp [ofFile]
  | ok text =>
      cases decoded : codec.decode text <;> simp [ofFile, decoded]

theorem requestsFor_eq_ok_iff {fixture : Fixture} {requests : List OutboundRequest} :
    (requestsFor settings fixture).outcome = .ok requests ↔
      (∃ url, Url.parse settings.endpoint = .ok url ∧ url.scheme ∈ endpointSchemes) ∧
        (Adapter.requests ⟨settings.endpoint⟩ fixture.batch fixture.context).outcome =
          .ok requests := by
  simp only [requestsFor, Adapter.ofSettings, Adapter.ofEndpoint, Traced.outcome_bind_eq_ok_iff,
    Traced.outcome_mapError_eq_ok_iff, Traced.outcome_silent, checkEndpoint_eq_ok_iff,
    Traced.outcome_log, Traced.outcome_pure]
  constructor
  · rintro ⟨adapter, ⟨checked, ⟨valid, rfl⟩, _, -, made⟩, requested⟩
    obtain rfl := Except.ok.inj made
    exact ⟨valid, requested⟩
  · rintro ⟨valid, requested⟩
    exact ⟨_, ⟨_, ⟨valid, rfl⟩, (), trivial, rfl⟩, requested⟩

/-- An auction is prepared if the fixture decodes, the endpoint is valid and there are requests. -/
theorem preparation_eq_ok_iff {fixture : Fixture} {requests : List OutboundRequest} :
    (preparation settings file).outcome = .ok (fixture, requests) ↔
      (∃ text, file = .ok text ∧ Fixture.codec.decode text = .ok fixture) ∧
        (∃ url, Url.parse settings.endpoint = .ok url ∧ url.scheme ∈ endpointSchemes) ∧
        (Adapter.requests ⟨settings.endpoint⟩ fixture.batch fixture.context).outcome =
          .ok requests := by
  simp only [preparation, Traced.outcome_bind_eq_ok_iff, Traced.outcome_silent,
    Fixture.ofFile_eq_ok_iff, requestsFor_eq_ok_iff, Traced.outcome_pure, Except.ok.injEq,
    Prod.mk.injEq]
  constructor
  · rintro ⟨fixture, decoded, requests, made, rfl, rfl⟩
    exact ⟨decoded, made⟩
  · rintro ⟨decoded, made⟩
    exact ⟨fixture, decoded, requests, made, rfl, rfl⟩

theorem extractBids_eq_each {batch : Batch} {reply : Reply} :
    Adapter.extractBids batch reply = Traced.each (draftFor batch.units) reply.bids := by
  cases carries : reply.response with
  | none =>
      rw [Adapter.extractBids, Reply.bids, carries]
      rfl
  | some response =>
      rw [Adapter.extractBids_of_response carries, Reply.bids, carries]
      rfl

/-- There is a bid of the caller for each bid of the partner, in their order. -/
theorem bidsOf_eq_ok_iff {batch : Batch} {reply : Reply} {bids : List Bid} :
    (bidsOf batch reply).outcome = .ok bids ↔ AreSold batch reply bids := by
  simp only [bidsOf, Traced.outcome_bind_eq_ok_iff, Traced.outcome_mapError_eq_ok_iff,
    extractBids_eq_each, Traced.each_eq_ok_iff, draftFor_eq_ok_iff, Traced.outcome_pure,
    Except.ok.injEq, AreSold, ← unitFor?_eq_some_iff]
  constructor
  · rintro ⟨drafts, made, rfl⟩
    refine List.forall₂_map_right_iff.mpr (made.imp ?_)
    rintro offered draft ⟨unit, found, rfl⟩
    exact ⟨unit, found, rfl⟩
  · intro sold
    generalize reply.bids = offers at sold
    induction sold with
    | nil => exact ⟨[], .nil, rfl⟩
    | cons first _ ih =>
        obtain ⟨unit, found, rfl⟩ := first
        obtain ⟨drafts, made, rfl⟩ := ih
        exact ⟨_ :: drafts, .cons ⟨unit, found, rfl⟩ made, rfl⟩

theorem AreSold.unique {batch : Batch} {reply : Reply} {bids bids' : List Bid}
    (first : AreSold batch reply bids) (second : AreSold batch reply bids') : bids = bids' :=
  Except.ok.inj ((bidsOf_eq_ok_iff.mpr first).symm.trans (bidsOf_eq_ok_iff.mpr second))

/-- All bids can be attributed exactly if each names an ad unit. -/
theorem exists_areSold_iff {batch : Batch} {reply : Reply} :
    (∃ bids, AreSold batch reply bids) ↔
      ∀ offered ∈ reply.bids, ∃ unit ∈ batch.units, unit.code = offered.impid := by
  simp only [AreSold, ← IsFirst.exists_iff]
  generalize reply.bids = offers
  induction offers with
  | nil => simp
  | cons offered offers ih =>
      rw [List.forall_mem_cons, ← ih]
      constructor
      · rintro ⟨_, _ | ⟨⟨unit, first, -⟩, others⟩⟩
        exact ⟨⟨unit, first⟩, _, others⟩
      · rintro ⟨⟨unit, first⟩, bids, others⟩
        exact ⟨_ :: bids, .cons ⟨unit, first, rfl⟩ others⟩

/-- What is prepared does not depend on anything else. -/
theorem Prepares.unique {settings' : Settings} {fixture fixture' : Fixture} {url url' : Url}
    {request request' : OutboundRequest}
    (first : Prepares world invocation path endpoint? settings fixture url request)
    (second : Prepares world invocation path endpoint? settings' fixture' url' request') :
    settings = settings' ∧ fixture = fixture' ∧ url = url' ∧ request = request' := by
  obtain ⟨loaded, ⟨_, _, room, found, decoded⟩, parsed, -, made⟩ := first
  obtain ⟨loaded', ⟨_, _, room', found', decoded'⟩, parsed', -, made'⟩ := second
  obtain rfl := loaded.unique loaded'
  obtain rfl := Option.some.inj (room.symm.trans room')
  obtain rfl := Except.ok.inj (found.symm.trans found')
  obtain rfl := Except.ok.inj (decoded.symm.trans decoded')
  have requests := Except.ok.inj (made.symm.trans made')
  exact ⟨rfl, rfl, Except.ok.inj (parsed.symm.trans parsed'), List.singleton_inj.mp requests⟩

/-! ## Prices -/

/-- The price of a bid that comes with a reply is finite. -/
theorem isFinite_price_of_replies {partner : Partner} {budget : UInt64} {reply : Reply}
    (replies : partner.Replies budget reply) : ∀ offered ∈ reply.bids,
      offered.price.isFinite = true := by
  obtain _ | ⟨-, -, -, decoded⟩ := replies
  · simp [Reply.bids]
  · exact fits_bidResponse_iff.mp
      (Codec.fits_of_decode Reader.real_gives_isFinite lawful_bidResponse decoded)

/-- What is shown of a reply is read as the bids that are sold. -/
theorem decode_shown_of_areSold {partner : Partner} {budget : UInt64} {batch : Batch}
    {reply : Reply} {bids : List Bid} (replies : partner.Replies budget reply)
    (sold : AreSold batch reply bids) :
    (Codec.list Bid.codec).decode (shown Bid.codec bids) = .ok (bids.map Bid.asShown) := by
  have finite := isFinite_price_of_replies replies
  rw [AreSold] at sold
  generalize reply.bids = offers at finite sold
  have each : ∀ bid ∈ bids, bid.price.isFinite = true ∧ bid.targeting = none := by
    induction sold with
    | nil => simp
    | cons first _ ih =>
        obtain ⟨unit, -, rfl⟩ := first
        obtain ⟨head, tail⟩ := List.forall_mem_cons.mp finite
        exact List.forall_mem_cons.mpr ⟨⟨head, rfl⟩, ih tail⟩
  exact decode_shown (fun bid mem => (each bid mem).1) fun bid mem => (each bid mem).2

end CommandLine

end HeaderBidding
