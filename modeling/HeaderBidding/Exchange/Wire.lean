import HeaderBidding.Exchange.Transport
import HeaderBidding.Wire.Body

/-!
# The bytes of an exchange

`Posting.bytes` is what is sent to the partner, `Delivery.ofBytes` what is made of the bytes that
come back. Answers that only announce another one are passed over.
-/

namespace HeaderBidding

/-- The bytes of a request. The connection serves for this request alone. -/
def Posting.bytes (posting : Posting) : List UInt8 :=
  let body := Text.Utf8.encode posting.body.toList
  let place := posting.url.hostText ++ posting.url.portText
  let headers := Posting.withDefault posting.headers "host" (String.ofList place)
  let headers := Posting.withDefault headers "content-length" (Decimal.naturalText body.length)
  let head : Wire.Head :=
    { start := "POST " ++ posting.url.target ++ " HTTP/1.1"
      headers := Posting.withDefault headers "connection" "close" }
  head.bytes ++ body

/-- The status of an answer: three digits. -/
def statusOf? (head : Wire.Head) : Option UInt16 :=
  match head.words with
  | version :: status :: _ =>
    if (version = "HTTP/1.1" ∨ version = "HTTP/1.0") ∧ status.toList.length = 3 then
      match Decimal.naturalOf? status.toList with
      | some status => if 100 ≤ status then some (.ofNat status) else none
      | none => none
    else none
  | _ => none

/-- Whether an answer only announces another one. -/
def isInterim (status : UInt16) : Bool :=
  status < 200 && status != 101

/-- Where the body of an answer ends. -/
def answerFraming (status : UInt16) (headers : List (String × String)) : Wire.Framing :=
  if status = 101 ∨ status = 204 ∨ status = 304 then .empty else .ofHeaders headers .toTheEnd

/-- The delivery that an answer with a body is. A body that is no text counts as broken off. -/
def Delivery.ofBody (status : UInt16) (body : Wire.Body) (elapsedMs : UInt64) : Delivery :=
  match Text.Utf8.decode? body.bytes with
  | some text => .answered status (String.ofList text) body.isWhole elapsedMs
  | none => .answered status "" false elapsedMs

/-- What the bytes that have come back make of a request. -/
def Delivery.ofBytes (isClosed : Bool) (elapsedMs : UInt64) (bytes : List UInt8) :
    Wire.Progress Delivery :=
  match h : Wire.cutHead? bytes with
  | none => if isClosed then .done .failed else .more
  | some (headBytes, rest) =>
    match Wire.Head.ofBytes? headBytes with
    | none => .done .failed
    | some head =>
      match statusOf? head with
      | none => .done .failed
      | some status =>
        if isInterim status then
          have := Wire.cutHead?_shrinks h
          Delivery.ofBytes isClosed elapsedMs rest
        else
          match Wire.readBody (answerFraming status head.headers) isClosed rest with
          | .more => .more
          | .broken => .done .failed
          | .done body => .done (.ofBody status body elapsedMs)
termination_by bytes.length

end HeaderBidding
