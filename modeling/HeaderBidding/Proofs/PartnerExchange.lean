import HeaderBidding.Adapter
import HeaderBidding.Exchange.Partner
import HeaderBidding.Proofs.Hosts
import HeaderBidding.Proofs.Trace

/-!
# Exchanges with a scripted partner

A request of the adapter to the address of the partner is posted if the address can be used, and the
partner reads it unless it does not listen.  The adapter has a reply of it exactly if it answers
before the budget is used up, without content or with a response that is complete and can be read.
-/

namespace HeaderBidding

open OpenRtb (BidRequest BidResponse)

variable {partner : Partner} {site : Partner.Site} {url : Url} {request : OutboundRequest}
  {posting : Posting} {default budget : UInt64} {reply : Reply}

namespace Partner

theorem Site.isAt_iff : site.isAt url = true ↔
    url.scheme = "http".toList ∧ (∃ host, url.host = some host ∧ site.resolves host = true) ∧
      url.port.getD 80 = site.port := by
  simp [isAt, Option.any_eq_true, and_assoc]

/-- The partner answers before the budget is used up, and the adapter has a reply of it. -/
inductive Replies (budget : UInt64) : Partner → Reply → Prop
  /-- Whatever is announced, an answer without content has no body. -/
  | noContent {body : String} {missing : Nat} {elapsedMs : UInt64} (inTime : elapsedMs < budget) :
    Replies budget (.answers noContentStatus body missing elapsedMs)
      { status := noContentStatus, responseTimeMs := elapsedMs, response := none }
  /-- The body is complete and decodes. -/
  | response {status : UInt16} {body : String} {elapsedMs : UInt64} {response : BidResponse}
    (inTime : elapsedMs < budget) (content : status ≠ noContentStatus)
    (success : isSuccess status.toNat = true)
    (decoded : BidResponse.codec.decode body = .ok response) :
    Replies budget (.answers status body 0 elapsedMs)
      { status, responseTimeMs := elapsedMs, response := some response }

end Partner

/-! ## Posting -/

namespace Posting

theorem requestHeaders_isHeader : requestHeaders.all isHeader = true := by
  decide +kernel

/-- A request with the headers of the adapter is posted if its address can be used. -/
theorem ofRequest_of_isUsable (parsed : Url.parse request.uri = .ok url)
    (scheme : url.scheme = "http".toList) (headers : request.headers = requestHeaders)
    (usable : isUsable (bareUrl url) = true) :
    ofRequest request = .ok
      { url := bareUrl url
        headers := completeHeaders (((credentials? url).map authorization).toList ++
          requestHeaders.map sentHeader)
        body := BidRequest.codec.encode request.payload } := by
  rw [ofRequest, parsed]
  simp only [Url.hasHost_of_parse parsed scheme, headers, requestHeaders_isHeader, usable,
    Bool.not_true, Bool.false_eq_true, ↓reduceIte]

theorem exists_ofRequest (request : OutboundRequest) (parsed : Url.parse request.uri = .ok url)
    (scheme : url.scheme = "http".toList) (headers : request.headers = requestHeaders)
    (usable : isUsable (bareUrl url) = true) :
    ∃ posting, ofRequest request = .ok posting ∧ posting.url = bareUrl url ∧
      posting.body = BidRequest.codec.encode request.payload :=
  ⟨_, ofRequest_of_isUsable parsed scheme headers usable, rfl, rfl⟩

theorem ofRequest_of_not_isUsable (parsed : Url.parse request.uri = .ok url)
    (scheme : url.scheme = "http".toList) (headers : request.headers = requestHeaders)
    (unfit : isUsable (bareUrl url) = false) :
    ofRequest request = .error (unusable (bareUrl url)) := by
  rw [ofRequest, parsed]
  simp only [Url.hasHost_of_parse parsed scheme, headers, requestHeaders_isHeader, unfit,
    Bool.not_true, Bool.not_false, Bool.false_eq_true, ↓reduceIte]

/-- Without its user, an address leads where it led. -/
theorem isAt_bareUrl (site : Partner.Site) (url : Url) :
    site.isAt (bareUrl url) = site.isAt url := by
  rw [bareUrl]
  split <;> rfl

end Posting

/-- What becomes of a request to the partner, and what the partner reads of it. -/
theorem Partner.exchange_of_isAt (posted : Posting.ofRequest request = .ok posting)
    (named : site.isAt posting.url = true) :
    partner.exchange site default request =
      (conclude request posting default (partner.deliver (request.budget default)),
        if partner.isListening then [posting] else []) := by
  rw [exchange, posted]
  simp only [receive, named, ↓reduceIte, Bool.true_and]

/-- A request that cannot be posted fails, and nobody reads it. -/
theorem Partner.exchange_of_not_posted {reason : String}
    (refused : Posting.ofRequest request = .error reason) :
    partner.exchange site default request = (Traced.fail (.transport reason), []) := by
  rw [exchange, refused]

/-! ## Replies -/

theorem responseOf_eq_ok_iff {status : UInt16} {body : String} {isComplete : Bool}
    {response? : Option BidResponse} :
    responseOf status body isComplete = .ok response? ↔
      status = noContentStatus ∧ response? = none ∨
        status ≠ noContentStatus ∧ isSuccess status.toNat = true ∧ isComplete = true ∧
          ∃ response, BidResponse.codec.decode body = .ok response ∧
            response? = some response := by
  rw [responseOf]
  by_cases content : status = noContentStatus
  · rw [if_pos content, Except.ok.injEq]
    constructor
    · rintro rfl
      exact .inl ⟨content, rfl⟩
    · rintro (⟨-, rfl⟩ | ⟨other, -⟩)
      · rfl
      · contradiction
  · cases isSuccess status.toNat with
    | false => simp [content]
    | true =>
        cases isComplete with
        | false => simp [content]
        | true =>
            cases BidResponse.codec.decode body with
            | error fault => simp [content]
            | ok response => simp [content, eq_comm]

theorem outcome_conclude_answered {status : UInt16} {body : String} {isComplete : Bool}
    {elapsedMs : UInt64} :
    (conclude request posting default (.answered status body isComplete elapsedMs)).outcome =
        .ok reply ↔
      ∃ response?, responseOf status body isComplete = .ok response? ∧
        reply = { status, responseTimeMs := elapsedMs, response := response? } := by
  rw [conclude]
  cases responseOf status body isComplete with
  | error reason => simp
  | ok response => simp [eq_comm]

namespace Partner

theorem isFinal_of_isSuccess {status : UInt16} (success : isSuccess status.toNat = true) :
    isFinal status = true := by
  simp only [isSuccess, Bool.and_eq_true, decide_eq_true_eq] at success
  simp only [isFinal, Bool.or_eq_true, Bool.and_eq_true, decide_eq_true_eq,
    UInt16.le_iff_toNat_le, UInt16.lt_iff_toNat_lt]
  exact .inr ⟨success.1, Nat.lt_trans success.2 (by decide)⟩

theorem isBodiless_of_isSuccess {status : UInt16} (content : status ≠ noContentStatus)
    (success : isSuccess status.toNat = true) : isBodiless status = false := by
  have modified : status ≠ 304 := by
    rintro rfl
    contradiction
  simpa [isBodiless] using ⟨content, modified⟩

/-- There is a reply exactly if the partner gives one. -/
theorem outcome_conclude_deliver :
    (conclude request posting default (partner.deliver budget)).outcome = .ok reply ↔
      partner.Replies budget reply := by
  constructor
  · intro concluded
    cases partner with
    | refuses => contradiction
    | closes => contradiction
    | hangs =>
        rw [deliver, conclude, Traced.outcome_bind_of_ok (Traced.outcome_log _)] at concluded
        contradiction
    | answers status body missing elapsedMs =>
        rw [deliver] at concluded
        split_ifs at concluded with late final
        · rw [conclude, Traced.outcome_bind_of_ok (Traced.outcome_log _)] at concluded
          contradiction
        · have inTime := UInt64.not_le.mp late
          obtain ⟨response?, given, rfl⟩ := outcome_conclude_answered.mp concluded
          obtain ⟨rfl, rfl⟩ | ⟨content, success, complete, response, decoded, rfl⟩ :=
            responseOf_eq_ok_iff.mp given
          · exact .noContent inTime
          · rw [isBodiless_of_isSuccess content success, Bool.or_false, beq_iff_eq] at complete
            subst complete
            exact .response inTime content success decoded
        · contradiction
  · rintro (inTime | ⟨inTime, content, success, decoded⟩)
    · rw [deliver, if_neg (UInt64.not_le.mpr inTime)]
      exact outcome_conclude_answered.mpr
        ⟨none, responseOf_eq_ok_iff.mpr (.inl ⟨rfl, rfl⟩), rfl⟩
    · rw [deliver, if_neg (UInt64.not_le.mpr inTime), if_pos (isFinal_of_isSuccess success)]
      exact outcome_conclude_answered.mpr
        ⟨_, responseOf_eq_ok_iff.mpr (.inr ⟨content, success, rfl, _, decoded, rfl⟩), rfl⟩

end Partner

end HeaderBidding
