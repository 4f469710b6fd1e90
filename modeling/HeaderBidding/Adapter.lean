import HeaderBidding.Call
import HeaderBidding.Extraction
import HeaderBidding.Impressions
import HeaderBidding.Settings.Basic
import HeaderBidding.Url.Parser

/-!
# The adapter

An adapter stands between a caller and the partner at one endpoint. It turns ad units into requests
to be posted there, and the partner's answers into bids. The endpoint is checked once, when the
adapter is made.
-/

namespace HeaderBidding

/-- The name under which the partner bids. -/
def bidderName : String := "pulsepoint"

/-- The schemes that an endpoint may have. -/
def endpointSchemes : List (List Char) := ["http".toList, "https".toList]

/-- Checks that a text is the address of an endpoint, and gives it back unchanged. -/
def checkEndpoint (endpoint : String) : Except AdapterError String :=
  match Url.parse endpoint with
  | .error fault => .error (.invalidEndpoint endpoint fault.message)
  | .ok url =>
    if url.scheme ∈ endpointSchemes then .ok endpoint
    else .error (.invalidEndpoint endpoint ("unsupported scheme " ++ String.ofList url.scheme))

/-- The headers of every request. -/
def requestHeaders : List (String × String) :=
  [("Content-Type", "application/json;charset=utf-8"), ("Accept", "application/json")]

/-- An adapter, known by its endpoint. -/
structure Adapter where
  endpoint : String
  deriving DecidableEq

namespace Adapter

/-- The adapter for an endpoint. -/
def ofEndpoint (endpoint : String) : Traced AdapterError Adapter := do
  let endpoint ← Traced.silent (checkEndpoint endpoint)
  Traced.log (.adapterReady endpoint)
  pure { endpoint }

/-- The adapter for the endpoint of the settings. -/
def ofSettings (settings : Settings) : Traced AdapterError Adapter :=
  ofEndpoint settings.endpoint

/-- The requests for a batch of ad units. -/
def requests (adapter : Adapter) (batch : Batch) (context : AuctionContext) :
    Traced AdapterError (List OutboundRequest) := do
  let valid ← validate batch.units
  let payload ← bidRequest valid context
  Traced.log (.requestBuilt payload.id valid.length payload.imp.length)
  pure [{ uri := adapter.endpoint, headers := requestHeaders, payload }]

/-- The drafts of the bids of a reply. -/
def extractBids (batch : Batch) (reply : Reply) : Traced AdapterError (List Draft) :=
  extract batch.units reply.response

end Adapter

end HeaderBidding
