import HeaderBidding.Call
import HeaderBidding.Codec.Writer
import HeaderBidding.Text.Base64
import HeaderBidding.Url.Parser
import HeaderBidding.Wire.Token

/-!
# Requests on the wire

A `Posting` is a request as it leaves for the partner: its address has been read, its headers have
been checked and completed, and its payload has been written. The name and the password of a user
leave the address and become a header.
-/

namespace HeaderBidding

/-- A request as it leaves for the partner. -/
structure Posting where
  url : Url
  /-- Names in lower case, with their values. -/
  headers : List (String × String)
  body : String

namespace Posting

/-! ## Headers -/

/-- Whether a character may stand in the value of a header. -/
def isValueChar (c : Char) : Bool :=
  (32 ≤ c.toNat && c.toNat != 127) || c == '\t'

/-- Whether a header may be sent. -/
def isHeader (header : String × String) : Bool :=
  header.1 ≠ "" && header.1.toList.all Wire.isTokenChar && header.2.toList.all isValueChar

/-- A header as it is sent: its name in lower case, and its value without the space around it. -/
def sentHeader (header : String × String) : String × String :=
  (String.ofList (header.1.toList.map Char.toLower),
    String.ofList (Wire.trimmed header.2.toList))

/-- Headers with one more, unless its name is there already. -/
def withDefault (headers : List (String × String)) (name value : String) : List (String × String) :=
  if headers.any (·.1 = name) then headers else headers ++ [(name, value)]

/-- Headers with those that are never missing. -/
def completeHeaders (headers : List (String × String)) : List (String × String) :=
  withDefault (withDefault headers "content-type" "application/json") "accept" "*/*"

/-! ## Address -/

/-- The name and the password of a user. -/
structure Credentials where
  user : List Char
  password : List Char

/-- The name and the password that an address carries, if it carries either. A password that is no
text counts as none, and a name that is no text leaves both where they are. -/
def credentials? (url : Url) : Option Credentials :=
  match Text.Utf8.decode? (Url.percentDecode url.username) with
  | none => none
  | some user =>
    let password := (Text.Utf8.decode? (Url.percentDecode url.password)).getD []
    if user = [] ∧ password = [] then none else some { user, password }

/-- The header by which a user is known. -/
def authorization (credentials : Credentials) : String × String :=
  ("authorization", "Basic " ++ String.ofList
    (Text.Base64.encode (Text.Utf8.encode (credentials.user ++ ':' :: credentials.password))))

/-- Whether a character may stand in the host of an address that is posted to. -/
def isHostChar (c : Char) : Bool :=
  !"\"\x60\x7b\x7d".toList.contains c

/-- The longest address that can be posted to, in bytes. -/
def addressLimit : Nat := 65534

/-- Whether an address can be posted to. -/
def isUsable (url : Url) : Bool :=
  (url.scheme == "http".toList || url.scheme == "https".toList) &&
    url.hostText.all isHostChar && (Text.Utf8.encode url.text.toList).length ≤ addressLimit

/-- The reason that an address cannot be posted to. -/
def unusable (url : Url) : String :=
  "builder error for url (" ++ url.text ++ ")"

/-- The address that is posted to: the name and the password of a user leave it. -/
def bareUrl (url : Url) : Url :=
  if (credentials? url).isSome then url.withoutUser else url

/-- The request as it leaves, or the reason that it cannot. -/
def ofRequest (request : OutboundRequest) : Except String Posting :=
  match Url.parse request.uri with
  | .error _ => .error "builder error"
  | .ok url =>
    if !url.hasHost then .error (unusable url)
    else if !request.headers.all isHeader then .error "builder error"
    else if !isUsable (bareUrl url) then .error (unusable (bareUrl url))
    else
      .ok
        { url := bareUrl url
          headers := completeHeaders
            (((credentials? url).map authorization).toList ++ request.headers.map sentHeader)
          body := OpenRtb.BidRequest.codec.encode request.payload }

end Posting

end HeaderBidding
