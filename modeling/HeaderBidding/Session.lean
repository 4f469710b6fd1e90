import HeaderBidding.Adapter
import HeaderBidding.MockPartner.Bidding

/-!
# Sessions

A session holds what an auction is made up of, step by step: the settings, the adapter, the ad
units, the context, the request that has been made, and the reply to it. A step that fails changes
nothing.
-/

namespace HeaderBidding

open OpenRtb (BidRequest BidResponse)

/-- The state of a session. -/
structure Session where
  settings : Settings := {}
  adapter : Option Adapter := none
  batch : Batch := {}
  context : AuctionContext := {}
  request : Option BidRequest := none
  reply : Reply := {}

namespace Session

/-- Why a step fails, when it is not the adapter that fails. -/
inductive Lack where
  | noAdapter
  | noRequest
  deriving DecidableEq

/-- Why a step fails. -/
inductive StepError where
  | adapter (e : AdapterError)
  | lack (lack : Lack)
  deriving DecidableEq

/-- A step of a session, with the type of what it gives. -/
abbrev Step (α : Type) := Session → Traced StepError (α × Session)

/-- Makes the adapter of the settings. -/
def connect : Step Adapter := fun session => do
  let adapter ← (Adapter.ofSettings session.settings).mapError .adapter
  pure (adapter, { session with adapter := some adapter })

/-- Adds an ad unit at the end. -/
def addUnit (unit : AdUnit) (session : Session) : Session :=
  { session with batch := { session.batch with units := session.batch.units ++ [unit] } }

/-- Removes the ad unit at a place, if there is one. -/
def dropUnit (place : Nat) (session : Session) : Session :=
  { session with batch := { session.batch with units := session.batch.units.eraseIdx place } }

/-- Makes the requests for the ad units; the first is kept. -/
def make : Step (List OutboundRequest) := fun session =>
  match session.adapter with
  | none => Traced.fail (.lack .noAdapter)
  | some adapter => do
    let requests ← (adapter.requests session.batch session.context).mapError .adapter
    pure (requests, { session with request := requests.head?.map (·.payload) })

/-- Lets the mock partner answer the request. -/
def mock {σ : Type} (chance : MockPartner.Chance σ) (supply : σ) : Step Reply := fun session =>
  match session.request with
  | none => Traced.fail (.lack .noRequest)
  | some request =>
    let reply := Reply.ofResponse (MockPartner.respond request chance supply)
    pure (reply, { session with reply })

/-- The bids of the reply, with a response time. -/
def extract (responseTimeMs : Option UInt64) : Step (List Bid) := fun session =>
  match session.adapter with
  | none => Traced.fail (.lack .noAdapter)
  | some _ => do
    let drafts ← (Adapter.extractBids session.batch session.reply).mapError .adapter
    pure (drafts.map fun draft => (draft.complete (.responseTimeMs responseTimeMs)).build, session)

end Session

end HeaderBidding
