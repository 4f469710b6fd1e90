import HeaderBidding.Codec.Writer
import HeaderBidding.Exchange.Status
import HeaderBidding.MockPartner.Server
import HeaderBidding.Wire.Body

/-!
# The bytes of the mock partner

`Incoming.ofBytes` reads the request that bytes are, `Answer.bytes` writes the answer to it.
-/

namespace HeaderBidding.MockPartner

/-- The request that the bytes are which have been received. -/
def Incoming.ofBytes (isClosed : Bool) (bytes : List UInt8) : Wire.Progress Incoming :=
  match Wire.cutHead? bytes with
  | none => if isClosed then .broken else .more
  | some (headBytes, rest) =>
    match Wire.Head.ofBytes? headBytes with
    | none => .broken
    | some head =>
      match head.words with
      | [method, path, _] =>
        match Wire.readBody (.ofHeaders head.headers .empty) isClosed rest with
        | .more => .more
        | .broken => .broken
        | .done body =>
          match Text.Utf8.decode? body.bytes, body.isWhole with
          | some text, true =>
            .done
              { method
                path
                contentType := head.headers.lookup "content-type"
                body := String.ofList text }
          | _, _ => .broken
      | _ => .broken

/-- The answer to what is no request. -/
def Answer.malformed : Answer where
  status := 400

/-- The bytes of an answer. -/
def Answer.bytes (answer : Answer) : List UInt8 :=
  let body := match answer.body with
    | some response => Text.Utf8.encode (OpenRtb.BidResponse.codec.encode response).toList
    | none => []
  let length := if answer.status = 204 then []
    else [("content-length", Decimal.naturalText body.length)]
  let head : Wire.Head :=
    { start := "HTTP/1.1 " ++ statusText answer.status
      headers := (answer.contentType.map fun value => ("content-type", value)).toList ++ length ++
        [("connection", "close")] }
  head.bytes ++ body

end HeaderBidding.MockPartner
