import HeaderBidding.Codec.Reader
import HeaderBidding.Log
import HeaderBidding.MockPartner.Bidding
import HeaderBidding.MockPartner.ContentType

/-!
# The server of the mock partner

It takes bid requests at one address, by post. What is wrong with a request is told by the status
of the answer.
-/

namespace HeaderBidding.MockPartner

open OpenRtb

/-- A request as it reaches the server. -/
structure Incoming where
  method : String := "POST"
  path : String := "/bid"
  contentType : Option String := some "application/json"
  body : String := ""

/-- The answer of the server. -/
structure Answer where
  status : Nat
  contentType : Option String := none
  body : Option BidResponse := none

/-- The most bytes that a body may have. -/
def bodyLimit : Nat := 2 * 1024 * 1024

/-- An answer that explains a fault in plain text. -/
def Answer.explained (status : Nat) : Answer where
  status
  contentType := some "text/plain; charset=utf-8"

/-- Whether a path, with or without a query, is where bid requests are taken. -/
def isBidPath (path : String) : Bool :=
  path.toList.takeWhile (fun c => c != '?' && c != '#') == "/bid".toList

/-- The bid request that an incoming request carries, or the answer to a bad one. -/
def Incoming.request (incoming : Incoming) : Except Answer BidRequest :=
  if !isBidPath incoming.path then .error { status := 404 }
  else if incoming.method ≠ "POST" then .error { status := 405 }
  else if !(incoming.contentType.any ContentType.isJson) then .error (.explained 415)
  else if byteCount incoming.body.toList > bodyLimit then .error (.explained 413)
  else match BidRequest.codec.decode incoming.body with
    | .ok request => .ok request
    | .error fault =>
      match fault.cause.category with
      | .shape => .error (.explained 422)
      | .early | .malformed => .error (.explained 400)

/-- What is logged of an incoming request. -/
def Incoming.events (incoming : Incoming) : List Event :=
  match incoming.request with
  | .ok request => [.mockReceived request.id request.imp.length]
  | .error _ => []

/-- The answer to a bid request. Nothing is sent where there is nothing to bid for. -/
def Answer.ofResponse (response : BidResponse) : Answer :=
  match response.seatbid with
  | [] => { status := 204 }
  | _ => { status := 200, contentType := some "application/json", body := some response }

/-- The answer of the server. -/
def answer {σ : Type} (incoming : Incoming) (chance : Chance σ) (supply : σ) : Answer :=
  match incoming.request with
  | .error answer => answer
  | .ok request => .ofResponse (respond request chance supply)

end HeaderBidding.MockPartner
