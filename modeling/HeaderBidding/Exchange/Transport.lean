import HeaderBidding.Codec.Reader
import HeaderBidding.Exchange.Posting
import HeaderBidding.Exchange.Status
import HeaderBidding.Log

/-!
# The exchange with the partner

What becomes of a request on the wire is a `Delivery`. `conclude` says what it means to the caller:
a reply with the partner's response, a reply without one, or an error.
-/

namespace HeaderBidding

open OpenRtb (BidResponse)

/-- What becomes of a request on the wire. -/
inductive Delivery where
  /-- There is no connection, or it ends without an answer. -/
  | failed
  /-- There is no answer in time. -/
  | late
  /-- There is an answer after some time, though its body may break off. -/
  | answered (status : UInt16) (body : String) (isComplete : Bool) (elapsedMs : UInt64)

/-- The time that the partner has for a request. -/
def OutboundRequest.budget (request : OutboundRequest) (default : UInt64) : UInt64 :=
  request.payload.tmax.getD default

/-- The status of an answer without a body. -/
def noContentStatus : UInt16 := 204

/-- The response that the body of a successful answer carries. -/
def responseOf (status : UInt16) (body : String) (isComplete : Bool) :
    Except String (Option BidResponse) :=
  if status = noContentStatus then .ok none
  else if !isSuccess status.toNat then .error ("unexpected status code " ++ statusText status.toNat)
  else if !isComplete then .error "error decoding response body"
  else match BidResponse.codec.decode body with
    | .ok response => .ok (some response)
    | .error _ => .error "error decoding response body"

/-- What the delivery of a request means. -/
def conclude (request : OutboundRequest) (posting : Posting) (default : UInt64) :
    Delivery → Traced AdapterError Reply
  | .failed =>
    Traced.fail (.transport ("error sending request for url (" ++ posting.url.text ++ ")"))
  | .late => do
    Traced.log (.callTimedOut request.uri (request.budget default))
    Traced.fail (.timeout (request.budget default))
  | .answered status body isComplete elapsedMs =>
    match responseOf status body isComplete with
    | .error reason => Traced.fail (.transport reason)
    | .ok response => do
      Traced.log (.callFinished request.uri status elapsedMs)
      pure { status, responseTimeMs := elapsedMs, response }

end HeaderBidding
