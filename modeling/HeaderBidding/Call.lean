import HeaderBidding.OpenRtb.Request
import HeaderBidding.OpenRtb.Response

/-!
# Calls to the partner

An `OutboundRequest` is what the transport is asked to post, a `Reply` is what came back.
-/

namespace HeaderBidding

open OpenRtb (BidRequest BidResponse)

/-- A request to be posted to the partner. -/
structure OutboundRequest where
  uri : String
  headers : List (String × String)
  payload : BidRequest
  deriving BEq

/-- The outcome of a call. -/
structure Reply where
  status : UInt16 := 0
  responseTimeMs : UInt64 := 0
  response : Option BidResponse := none
  deriving BEq

/-- The reply that carries a bid response. -/
def Reply.ofResponse (response : BidResponse) : Reply where
  status := 200
  response := some response

/-- The reply of a partner that does not bid. -/
def Reply.noContent : Reply where
  status := 204

/-- Requests in documents. -/
def OutboundRequest.codec : Codec OutboundRequest :=
  .record "HttpRequest"
    (.required "uri" .text <|
     .required "headers" (.list (.pair .text .text)) <|
     .required "payload" BidRequest.codec
     .nil)
    { make := fun (uri, headers, payload, ()) => { uri, headers, payload }
      parts := fun a => (a.uri, a.headers, a.payload, ())
      make_parts := fun _ => rfl }

/-- Replies in documents. -/
def Reply.codec : Codec Reply :=
  .record "ExchangeCall"
    (.required "status_code" (.word .uint16) <|
     .required "response_time_ms" (.word .uint64) <|
     .nullable "bid_response" BidResponse.codec
     .nil)
    { make := fun (status, responseTimeMs, response, ()) => { status, responseTimeMs, response }
      parts := fun a => (a.status, a.responseTimeMs, a.response, ())
      make_parts := fun _ => rfl }

end HeaderBidding
