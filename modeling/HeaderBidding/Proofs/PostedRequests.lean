import HeaderBidding.Exchange.Wire
import HeaderBidding.MockPartner.Wire
import HeaderBidding.Proofs.MessageBytes
import HeaderBidding.Proofs.NormalForm
import HeaderBidding.Proofs.PartnerExchange
import HeaderBidding.Proofs.Targets

/-!
# What is posted is read as one request

Whatever the address of the partner says besides its place, the bytes that are sent there are those
of one request: it is read when the last of them is there, and not before, and it is a post of the
payload to the target of the address.
-/

namespace HeaderBidding

/-! ## Whole requests -/

namespace MockPartner

open Text.Utf8 (encode decode?_encode)

/-- The bytes are those of one request: it is read when all of them are there, and not before. -/
structure Incoming.IsSentAs (incoming : Incoming) (bytes : List UInt8) : Prop where
  read : ∀ isClosed, ofBytes isClosed bytes = .done incoming
  waits : ∀ part, part <+: bytes → part ≠ bytes → ofBytes false part = .more

variable {head : Wire.Head} {method path : String} {body : List Char}

/-- A head is that of a request if it has the words of one and announces its body. -/
structure IsRequestHead (head : Wire.Head) (method path : String) (body : List Char) : Prop where
  isSound : head.IsSound
  words : ∃ version, head.words = [method, path, version]
  framing : .ofHeaders head.headers .empty = Wire.Framing.counted (encode body).length

theorem ofBytes_of_isRequestHead (isHead : IsRequestHead head method path body)
    (isClosed : Bool) :
    Incoming.ofBytes isClosed (head.bytes ++ encode body) = .done
      { method, path, contentType := head.headers.lookup "content-type",
        body := String.ofList body } := by
  obtain ⟨version, words⟩ := isHead.words
  rw [Incoming.ofBytes, Wire.Head.cutHead?_bytes isHead.isSound]
  simp only [Wire.Head.ofBytes?_text isHead.isSound, words, isHead.framing, Wire.readBody,
    Nat.le_refl, ↓reduceIte, List.take_length, decode?_encode]

/-- Where a byte of the body is missing, the request is not there yet. -/
theorem ofBytes_of_part (isHead : IsRequestHead head method path body) {part : List UInt8}
    (isPart : part <+: head.bytes ++ encode body) (less : part ≠ head.bytes ++ encode body) :
    Incoming.ofBytes false part = .more := by
  obtain ⟨version, words⟩ := isHead.words
  have whole := Wire.Head.cutHead?_bytes isHead.isSound (encode body)
  obtain ⟨missing, bytes⟩ := isPart
  rw [Incoming.ofBytes]
  cases cut : Wire.cutHead? part with
  | none => rfl
  | some taken =>
      obtain ⟨headBytes, rest⟩ := taken
      have same := (Wire.cutHead?_append_of_some cut missing).symm.trans (bytes ▸ whole)
      obtain ⟨rfl, joined⟩ := Prod.mk.inj (Option.some.inj same)
      have short : ¬(encode body).length ≤ rest.length := by
        have missed : 0 < missing.length := by
          rw [List.length_pos_iff]
          rintro rfl
          exact less ((List.append_nil part).symm.trans bytes)
        rw [← joined, List.length_append]
        omega
      simp only [Wire.Head.ofBytes?_text isHead.isSound, words, isHead.framing, Wire.readBody,
        short, Bool.false_eq_true, ↓reduceIte]

/-- A message with such a head is one request. -/
theorem isSentAs_of_isRequestHead (isHead : IsRequestHead head method path body) :
    Incoming.IsSentAs
      { method, path, contentType := head.headers.lookup "content-type",
        body := String.ofList body }
      (head.bytes ++ encode body) where
  read := ofBytes_of_isRequestHead isHead
  waits _ := ofBytes_of_part isHead

end MockPartner

/-! ## Headers -/

namespace Text.Base64

open Wire (isVisible)

theorem isVisible_digit {n : Nat} (small : n < 64) : isVisible (digit n) = true := by
  have digits : ∀ n < 64, isVisible (digit n) = true := by decide +kernel
  exact digits n small

theorem isVisible_of_mem_digits {n : Nat} (small : n < 0x1000000) :
    ∀ c ∈ digits n, isVisible c = true := by
  simp only [digits, List.forall_mem_cons, List.not_mem_nil, false_implies, implies_true, and_true]
  exact ⟨isVisible_digit (by omega), isVisible_digit (Nat.mod_lt _ (by decide)),
    isVisible_digit (Nat.mod_lt _ (by decide)), isVisible_digit (Nat.mod_lt _ (by decide))⟩

theorem isVisible_of_mem_encode (bytes : List UInt8) : ∀ c ∈ encode bytes, isVisible c = true := by
  fun_induction encode bytes with
  | case1 a b c rest ih =>
      have boundA := a.toNat_lt
      have boundB := b.toNat_lt
      have boundC := c.toNat_lt
      exact List.forall_mem_append.mpr ⟨isVisible_of_mem_digits (by omega), ih⟩
  | case2 a b =>
      have boundA := a.toNat_lt
      have boundB := b.toNat_lt
      refine List.forall_mem_append.mpr ⟨fun c mem => ?_, by simp [isVisible]⟩
      exact isVisible_of_mem_digits (by omega) c (List.mem_of_mem_take mem)
  | case3 a =>
      have boundA := a.toNat_lt
      refine List.forall_mem_append.mpr ⟨fun c mem => ?_, by simp [isVisible]⟩
      exact isVisible_of_mem_digits (by omega) c (List.mem_of_mem_take mem)
  | case4 => simp

end Text.Base64

namespace Wire

/-- What can be seen does not end a line, nor does a space. -/
theorem not_mem_ends {c : Char} (inLine : c = ' ' ∨ isVisible c = true) : c ∉ ['\r', '\n'] := by
  obtain rfl | visible := inLine
  · decide
  · simpa using ⟨ne_of_isVisible visible (by decide), ne_of_isVisible visible (by decide)⟩

theorem isLine_of_visible {line : List Char} (nonempty : line ≠ [])
    (chars : ∀ c ∈ line, c = ' ' ∨ isVisible c = true) : IsLine line where
  nonempty := nonempty
  noReturn mem := not_mem_ends (chars _ mem) (by simp)
  noBreak mem := not_mem_ends (chars _ mem) (by simp)

/-- A value is read as it is written if it can be seen, apart from spaces that are not at its
ends. -/
theorem isPlain_of_visible {name value : String} (isName : IsName name.toList)
    (chars : ∀ c ∈ value.toList, c = ' ' ∨ isVisible c = true)
    (first : ∀ c ∈ value.toList.head?, isVisible c = true)
    (last : ∀ c ∈ value.toList.getLast?, isVisible c = true) : IsPlain (name, value) where
  isName := isName
  value c mem := not_mem_ends (chars c mem)
  isTrimmed := by
    have inner (c : Char) (visible : isVisible c = true) : isOuterSpace c = false := by
      simpa [isOuterSpace] using
        ⟨ne_of_isVisible visible (by decide), ne_of_isVisible visible (by decide)⟩
    exact Text.trimWhile_of_ends (fun c mem => inner c (first c mem))
      fun c mem => inner c (last c mem)

theorem isPlain_of_all_visible {name value : String} (isName : IsName name.toList)
    (visible : ∀ c ∈ value.toList, isVisible c = true) : IsPlain (name, value) :=
  isPlain_of_visible isName (fun c mem => .inr (visible c mem))
    (fun c mem => visible c (List.mem_of_head? mem))
    fun c mem => visible c (List.mem_of_getLast? mem)

end Wire

namespace Posting

open Wire (isVisible IsPlain IsName)

theorem isPlain_authorization (credentials : Credentials) :
    IsPlain (authorization credentials) := by
  rw [authorization]
  generalize encoded : Text.Base64.encode
    (Text.Utf8.encode (credentials.user ++ ':' :: credentials.password)) = digits
  have visible : ∀ c ∈ digits, isVisible c = true := by
    rw [← encoded]
    exact Text.Base64.isVisible_of_mem_encode _
  have nonempty : digits ≠ [] := by
    have bytes : Text.Utf8.encode (credentials.user ++ ':' :: credentials.password) ≠ [] :=
      Wire.encode_ne_nil (by simp)
    rw [← encoded, ← List.length_pos_iff, Text.Base64.length_encode]
    rw [← List.length_pos_iff] at bytes
    omega
  have value : ("Basic " ++ String.ofList digits).toList = "Basic ".toList ++ digits := by
    rw [String.toList_append]
    exact congrArg _ String.toList_ofList
  refine Wire.isPlain_of_visible ⟨by decide +kernel, by decide +kernel⟩ ?_ ?_ ?_ <;> rw [value]
  · exact List.forall_mem_append.mpr ⟨by simp [isVisible], fun c mem => .inr (visible c mem)⟩
  · rintro c ⟨⟩
    rfl
  · rw [List.getLast?_append_of_ne_nil _ nonempty]
    exact fun c mem => visible c (List.mem_of_getLast? mem)

/-! ## Postings -/

/-- The head of what is posted. -/
def head (posting : Posting) : Wire.Head where
  start := "POST " ++ posting.url.target ++ " HTTP/1.1"
  headers :=
    let place := posting.url.hostText ++ posting.url.portText
    let length := (Text.Utf8.encode posting.body.toList).length
    withDefault
      (withDefault (withDefault posting.headers "host" (String.ofList place)) "content-length"
        (Decimal.naturalText length))
      "connection" "close"

/-- The headers of the adapter as they are sent, with the user of the address. -/
def sentHeaders (credentials? : Option Credentials) : List (String × String) :=
  (credentials?.map authorization).toList ++
    [("content-type", "application/json;charset=utf-8"), ("accept", "application/json")]

theorem completeHeaders_eq (credentials? : Option Credentials) :
    completeHeaders ((credentials?.map authorization).toList ++ requestHeaders.map sentHeader) =
      sentHeaders credentials? := by
  have sent : requestHeaders.map sentHeader =
      [("content-type", "application/json;charset=utf-8"), ("accept", "application/json")] := by
    decide +kernel
  rw [sent]
  simp [completeHeaders, withDefault, sentHeaders]

variable {posting : Posting} {credentials? : Option Credentials}

theorem headers_head (headers : posting.headers = sentHeaders credentials?) :
    posting.head.headers = sentHeaders credentials? ++
      [("host", String.ofList (posting.url.hostText ++ posting.url.portText)),
       ("content-length",
        Decimal.naturalText (Text.Utf8.encode posting.body.toList).length),
       ("connection", "close")] := by
  rw [head, headers]
  cases credentials? <;> simp [withDefault, sentHeaders, authorization]

theorem isPlain_of_mem_sentHeaders :
    ∀ header ∈ sentHeaders credentials?, IsPlain header := by
  refine List.forall_mem_append.mpr ⟨?_, ?_⟩
  · intro header mem
    obtain ⟨credentials, -, rfl⟩ := Option.map_eq_some_iff.mp (Option.mem_toList.mp mem)
    exact isPlain_authorization credentials
  · refine List.forall_mem_cons.mpr ⟨?_, List.forall_mem_singleton.mpr ?_⟩
    · exact Wire.isPlain_of_all_visible ⟨by decide +kernel, by decide +kernel⟩
        (by simp [isVisible])
    · exact Wire.isPlain_of_all_visible ⟨by decide +kernel, by decide +kernel⟩
        (by simp [isVisible])

theorem start_toList (posting : Posting) : posting.head.start.toList =
    "POST".toList ++ ' ' :: (posting.url.target.toList ++ ' ' :: "HTTP/1.1".toList) := by
  simp [head]

theorem words_head (visible : posting.url.HasVisibleTarget) :
    posting.head.words = ["POST", posting.url.target, "HTTP/1.1"] := by
  have noSpace : ' ' ∉ posting.url.target.toList := fun mem =>
    absurd (visible.target ' ' mem) (by decide)
  rw [Wire.Head.words, start_toList, Text.segments_eq_splitOn,
    List.splitOn_append_cons_self_of_not_mem (by simp),
    List.splitOn_append_cons_self_of_not_mem noSpace, List.splitOn_eq_singleton (by simp)]
  simp only [List.map_cons, List.map_nil, String.ofList_toList]

theorem isLine_start (visible : posting.url.HasVisibleTarget) :
    Wire.IsLine posting.head.start.toList := by
  rw [start_toList]
  refine Wire.isLine_of_visible (by simp) ?_
  refine List.forall_mem_append.mpr ⟨by simp [isVisible], ?_⟩
  refine List.forall_mem_cons.mpr ⟨.inl rfl, List.forall_mem_append.mpr ⟨?_, ?_⟩⟩
  · exact fun c mem => .inr (visible.target c mem)
  · simp [isVisible]

theorem isSound_head (headers : posting.headers = sentHeaders credentials?)
    (place : ∀ c ∈ posting.url.hostText ++ posting.url.portText, isVisible c = true)
    (visible : posting.url.HasVisibleTarget) : posting.head.IsSound where
  start := isLine_start visible
  headers := by
    simp only [headers_head headers, List.forall_mem_append, List.forall_mem_cons,
      List.not_mem_nil, false_implies, implies_true, and_true]
    refine ⟨isPlain_of_mem_sentHeaders, ?_, ?_, ?_⟩
    · refine Wire.isPlain_of_all_visible ⟨by decide +kernel, by decide +kernel⟩ ?_
      rw [String.toList_ofList]
      exact place
    · refine Wire.isPlain_of_all_visible ⟨by decide +kernel, by decide +kernel⟩ ?_
      rw [Decimal.naturalText, String.toList_ofList]
      exact Decimal.isVisible_of_mem_natural _
    · exact Wire.isPlain_of_all_visible ⟨by decide +kernel, by decide +kernel⟩
        (by simp [isVisible])

theorem framing_head (headers : posting.headers = sentHeaders credentials?) :
    .ofHeaders posting.head.headers .empty =
      Wire.Framing.counted (Text.Utf8.encode posting.body.toList).length := by
  have length (n : Nat) : Decimal.naturalOf? (Decimal.naturalText n).toList = some n := by
    rw [Decimal.naturalText, String.toList_ofList, Decimal.naturalOf?_eq_some_iff]
    exact Decimal.isDigits_natural n
  rw [headers_head headers]
  cases credentials? <;>
    simp [Wire.Framing.ofHeaders, sentHeaders, authorization, List.lookup, length]

theorem lookup_contentType (headers : posting.headers = sentHeaders credentials?) :
    posting.head.headers.lookup "content-type" = some "application/json;charset=utf-8" := by
  rw [headers_head headers]
  cases credentials? <;> simp [sentHeaders, authorization, List.lookup]

/-- What is posted is read as one request: a post to the target of the address. -/
theorem isSentAs_bytes (posting : Posting) (headers : posting.headers = sentHeaders credentials?)
    (place : ∀ c ∈ posting.url.hostText ++ posting.url.portText, isVisible c = true)
    (visible : posting.url.HasVisibleTarget) :
    MockPartner.Incoming.IsSentAs
      { method := "POST", path := posting.url.target,
        contentType := some "application/json;charset=utf-8", body := posting.body }
      posting.bytes := by
  have sent := MockPartner.isSentAs_of_isRequestHead
    ⟨isSound_head headers place visible, ⟨_, words_head visible⟩, framing_head headers⟩
  rwa [lookup_contentType headers, String.ofList_toList] at sent

/-- Without its user, an address says the same of where it leads. -/
theorem bareUrl_eq (url : Url) : (bareUrl url).hostText = url.hostText ∧
    (bareUrl url).portText = url.portText ∧ (bareUrl url).target = url.target ∧
    (url.HasVisibleTarget → (bareUrl url).HasVisibleTarget) := by
  rw [bareUrl]
  split
  · exact ⟨rfl, rfl, rfl, fun visible => ⟨visible.path, visible.query⟩⟩
  · exact ⟨rfl, rfl, rfl, id⟩

/-- A request of the adapter to an address that can be used is posted there, and read as one request
with the payload as its body. -/
theorem exists_isSentAs {request : OutboundRequest} {url : Url}
    (parsed : Url.parse request.uri = .ok url) (scheme : url.scheme = "http".toList)
    (headers : request.headers = requestHeaders) (usable : isUsable (bareUrl url) = true) :
    ∃ posting, ofRequest request = .ok posting ∧ posting.url = bareUrl url ∧
      posting.body = OpenRtb.BidRequest.codec.encode request.payload ∧
      MockPartner.Incoming.IsSentAs
        { method := "POST", path := url.target,
          contentType := some "application/json;charset=utf-8", body := posting.body }
        posting.bytes := by
  obtain ⟨host, port, target, kept⟩ := bareUrl_eq url
  have visible := kept (Url.hasVisibleTarget_of_parse parsed scheme)
  have place := Url.isVisible_of_mem_place parsed scheme
  rw [← host, ← port] at place
  refine ⟨_, ofRequest_of_isUsable parsed scheme headers usable, rfl, rfl, ?_⟩
  rw [← target]
  exact isSentAs_bytes ⟨bareUrl url, _, _⟩ (completeHeaders_eq _) place visible

end Posting

end HeaderBidding
