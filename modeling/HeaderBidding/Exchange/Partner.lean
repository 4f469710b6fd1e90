import HeaderBidding.Exchange.Transport

/-!
# Scripted partners

A partner that follows a script, at a port of some machine. It serves to say beforehand what an
exchange comes to. How the system resolves the names of hosts is part of the site of the partner.
-/

namespace HeaderBidding

/-- What a partner does. -/
inductive Partner where
  /-- It does not listen. -/
  | refuses
  /-- It hangs up as soon as it has read the request. -/
  | closes
  /-- It never answers. -/
  | hangs
  /-- It answers after some time, and announces a body that is longer by `missing` bytes than what
  it sends. -/
  | answers (status : UInt16) (body : String) (missing : Nat) (elapsedMs : UInt64)

/-- Whether a host is this machine, under its address or its usual name. -/
def Host.isLoopback : Host → Bool
  | domain name => name == "localhost".toList
  | ipv4 address => address == 0x7F000001
  | ipv6 _ => false

namespace Partner

/-- Where a partner is to be found. -/
structure Site where
  port : Nat := 0
  /-- Whether a host resolves to the machine of the partner. -/
  resolves : Host → Bool := Host.isLoopback

/-- Whether an address leads to a site. -/
def Site.isAt (site : Site) (url : Url) : Bool :=
  url.scheme == "http".toList && url.host.any site.resolves && url.port.getD 80 == site.port

/-- Whether an answer has no body, whatever is announced. -/
def isBodiless (status : UInt16) : Bool :=
  status == 204 || status == 304

/-- Whether an answer with a status is the last one: the others announce that one is still to come,
or are no statuses at all. -/
def isFinal (status : UInt16) : Bool :=
  status == 101 || (200 ≤ status && status < 1000)

/-- What becomes of a request to the partner, which counts as answered only before the budget of
time is used up. -/
def deliver (budget : UInt64) : Partner → Delivery
  | refuses | closes => .failed
  | hangs => .late
  | answers status body missing elapsedMs =>
    if budget ≤ elapsedMs then .late
    else if isFinal status then
      .answered status body (missing == 0 || isBodiless status) elapsedMs
    else .failed

/-- Whether the partner reads what is posted to it. -/
def isListening : Partner → Bool
  | refuses => false
  | _ => true

/-- What becomes of a posting, when the partner listens at a site and nobody else does anywhere. -/
def receive (partner : Partner) (site : Site) (budget : UInt64) (posting : Posting) : Delivery :=
  if site.isAt posting.url then partner.deliver budget else .failed

/-- Posts a request, which takes no time by itself. Gives the reply, and what the partner has
read. -/
def exchange (partner : Partner) (site : Site) (default : UInt64) (request : OutboundRequest) :
    Traced AdapterError Reply × List Posting :=
  match Posting.ofRequest request with
  | .error reason => (Traced.fail (.transport reason), [])
  | .ok posting =>
    (conclude request posting default (partner.receive site (request.budget default) posting),
      if site.isAt posting.url && partner.isListening then [posting] else [])

end Partner

end HeaderBidding
