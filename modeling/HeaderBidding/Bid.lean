import HeaderBidding.AdUnit
import HeaderBidding.Codec.Reader

/-!
# Bids

The bids that a call results in, in the terms of the caller. The partner's answer does not say all
of it: a `Draft` is a bid of which only some members have been set, and it can be built at any
time, the others taking their defaults.
-/

namespace HeaderBidding

/-- A bid. -/
structure Bid where
  bidder : String := ""
  bidId : String := ""
  code : String := ""
  price : Float := 0
  adm : Option String := none
  creativeId : Option String := none
  width : Option UInt32 := none
  height : Option UInt32 := none
  dealId : Option String := none
  mediaType : Option MediaType := none
  responseTimeMs : Option UInt64 := none
  targeting : Option (List (String × String)) := none
  deriving BEq

/-- Bids in documents. -/
def Bid.codec : Codec Bid :=
  .record "Bid"
    (.required "bidder" .text <|
     .required "bidId" .text <|
     .required "code" .text <|
     .required "price" .real <|
     .nullable "adm" .text <|
     .nullable "creativeId" .text <|
     .nullable "width" (.word .uint32) <|
     .nullable "height" (.word .uint32) <|
     .nullable "dealId" .text <|
     .nullable "mediaType" MediaType.codec <|
     .nullable "responseTimeMs" (.word .uint64) <|
     .nullable "adServerTargeting" (.dictionary .text)
     .nil)
    { make := fun (bidder, bidId, code, price, adm, creativeId, width, height, dealId, mediaType,
          responseTimeMs, targeting, ()) =>
        { bidder, bidId, code, price, adm, creativeId, width, height, dealId, mediaType,
          responseTimeMs, targeting }
      parts := fun a => (a.bidder, a.bidId, a.code, a.price, a.adm, a.creativeId, a.width, a.height,
        a.dealId, a.mediaType, a.responseTimeMs, a.targeting, ())
      make_parts := fun _ => rfl }

/-- A bid of which only some members have been set. -/
structure Draft where
  bidder : Option String := none
  bidId : Option String := none
  code : Option String := none
  price : Option Float := none
  adm : Option (Option String) := none
  creativeId : Option (Option String) := none
  width : Option (Option UInt32) := none
  height : Option (Option UInt32) := none
  dealId : Option (Option String) := none
  mediaType : Option (Option MediaType) := none
  responseTimeMs : Option (Option UInt64) := none
  targeting : Option (Option (List (String × String))) := none

namespace Draft

/-- The bid of a draft; what has not been set takes its default. -/
def build (draft : Draft) : Bid :=
  let unset : Bid := {}
  { bidder := draft.bidder.getD unset.bidder
    bidId := draft.bidId.getD unset.bidId
    code := draft.code.getD unset.code
    price := draft.price.getD unset.price
    adm := draft.adm.getD unset.adm
    creativeId := draft.creativeId.getD unset.creativeId
    width := draft.width.getD unset.width
    height := draft.height.getD unset.height
    dealId := draft.dealId.getD unset.dealId
    mediaType := draft.mediaType.getD unset.mediaType
    responseTimeMs := draft.responseTimeMs.getD unset.responseTimeMs
    targeting := draft.targeting.getD unset.targeting }

/-! ## Completing a draft -/

/-- What the caller adds to a draft, as it is not in the partner's answer. -/
inductive Completion where
  | dealId (id : Option String)
  | mediaType (mediaType : Option MediaType)
  | responseTimeMs (ms : Option UInt64)
  | targeting (entries : Option (List (String × String)))

/-- The draft with one more member set. -/
def complete (draft : Draft) : Completion → Draft
  | .dealId id => { draft with dealId := some id }
  | .mediaType mediaType => { draft with mediaType := some mediaType }
  | .responseTimeMs ms => { draft with responseTimeMs := some ms }
  | .targeting entries => { draft with targeting := some entries }

/-! ## Setting members from documents -/

/-- A member of a draft, with the form of its values in documents. -/
structure Setter where
  Value : Type
  codec : Codec Value
  set : Value → Draft → Draft

/-- The setter of a member, by its name. -/
def setter? : String → Option Setter
  | "bidder" => some ⟨_, .text, fun v d => { d with bidder := some v }⟩
  | "bid_id" => some ⟨_, .text, fun v d => { d with bidId := some v }⟩
  | "code" => some ⟨_, .text, fun v d => { d with code := some v }⟩
  | "price" => some ⟨_, .real, fun v d => { d with price := some v }⟩
  | "adm" => some ⟨_, .optional .text, fun v d => { d with adm := some v }⟩
  | "creative_id" => some ⟨_, .optional .text, fun v d => { d with creativeId := some v }⟩
  | "width" => some ⟨_, .optional (.word .uint32), fun v d => { d with width := some v }⟩
  | "height" => some ⟨_, .optional (.word .uint32), fun v d => { d with height := some v }⟩
  | "deal_id" => some ⟨_, .optional .text, fun v d => d.complete (.dealId v)⟩
  | "media_type" => some ⟨_, .optional MediaType.codec, fun v d => d.complete (.mediaType v)⟩
  | "response_time_ms" =>
    some ⟨_, .optional (.word .uint64), fun v d => d.complete (.responseTimeMs v)⟩
  | "ad_server_targeting" =>
    some ⟨_, .optional (.dictionary .text), fun v d => d.complete (.targeting v)⟩
  | _ => none

/-- The draft with a member set to a document, if there is such a member. -/
def set? (draft : Draft) (member document : String) : Option (Except Fault Draft) :=
  (setter? member).map fun setter =>
    match setter.codec.decode document with
    | .ok value => .ok (setter.set value draft)
    | .error fault => .error fault

/-! ## Diagnostics -/

/-- A value that may be missing, in diagnostics. -/
def optionDiagnostic {α : Type} (describe : α → String) : Option α → String
  | none => "None"
  | some a => "Some(" ++ describe a ++ ")"

/-- Entries in diagnostics. -/
def entriesDiagnostic (entries : List (String × String)) : String :=
  "\x7b" ++ ", ".intercalate
    (entries.map fun entry => Text.quoted entry.1 ++ ": " ++ Text.quoted entry.2) ++ "\x7d"

/-- A draft in diagnostics. -/
def diagnostic (draft : Draft) : String :=
  let members : List (String × String) :=
    [("bidder", optionDiagnostic Text.quoted draft.bidder),
     ("bid_id", optionDiagnostic Text.quoted draft.bidId),
     ("code", optionDiagnostic Text.quoted draft.code),
     ("price", optionDiagnostic (String.ofList ∘ Decimal.real .diagnostic) draft.price),
     ("adm", optionDiagnostic (optionDiagnostic Text.quoted) draft.adm),
     ("creative_id", optionDiagnostic (optionDiagnostic Text.quoted) draft.creativeId),
     ("width", optionDiagnostic (optionDiagnostic (Decimal.naturalText ·.toNat)) draft.width),
     ("height", optionDiagnostic (optionDiagnostic (Decimal.naturalText ·.toNat)) draft.height),
     ("deal_id", optionDiagnostic (optionDiagnostic Text.quoted) draft.dealId),
     ("media_type", optionDiagnostic (optionDiagnostic MediaType.title) draft.mediaType),
     ("response_time_ms",
       optionDiagnostic (optionDiagnostic (Decimal.naturalText ·.toNat)) draft.responseTimeMs),
     ("ad_server_targeting", optionDiagnostic (optionDiagnostic entriesDiagnostic) draft.targeting)]
  "BidBuilder \x7b " ++ ", ".intercalate (members.map fun member => member.1 ++ ": " ++ member.2) ++
    " \x7d"

end Draft

end HeaderBidding
