import HeaderBidding.AdUnit
import HeaderBidding.Error

/-!
# The log

Whatever is logged is an `Event`. A `Traced` value is an outcome with the events on the way to it,
in their order; a failure keeps the events before it.
-/

namespace HeaderBidding

/-- How severe an event is. -/
inductive Level where
  | error
  | warn
  | info
  | debug
  | trace
  deriving DecidableEq

namespace Level

/-- The rank of a level; the most severe comes first. -/
def rank : Level → Nat
  | error => 1
  | warn => 2
  | info => 3
  | debug => 4
  | trace => 5

/-- The name of a level. -/
def name : Level → String
  | error => "ERROR"
  | warn => "WARN"
  | info => "INFO"
  | debug => "DEBUG"
  | trace => "TRACE"

end Level

/-- Something that is logged. -/
inductive Event where
  | paramsRejected (unit : String) (e : ParamsError)
  | videoWithoutData (unit : String)
  | mediaTypesSkipped (unit : String) (dropped : List MediaType)
  | siteDropped (tid : String)
  | adapterReady (endpoint : String)
  | requestBuilt (tid : String) (units imps : Nat)
  | unknownImpression (impid : String)
  | callTimedOut (uri : String) (ms : UInt64)
  | callFinished (uri : String) (status : UInt16) (elapsedMs : UInt64)
  | defaultsUsed (path : String)
  | settingsMissing (path : String)
  | auctionFinished (tid : String) (bids : Nat)
  | mockRunning (port : String)
  | mockReceived (id : String) (imps : Nat)
  | mockStopped
  deriving DecidableEq

namespace Event

/-- How severe an event is. -/
def level : Event → Level
  | paramsRejected .. | videoWithoutData _ | callTimedOut .. | defaultsUsed _ | settingsMissing _ =>
    .warn
  | mediaTypesSkipped .. | siteDropped _ | requestBuilt .. | callFinished .. => .debug
  | adapterReady _ | auctionFinished .. | mockRunning _ | mockReceived .. | mockStopped => .info
  | unknownImpression _ => .error

/-- The part of the program that logs an event. -/
def origin : Event → String
  | paramsRejected .. | videoWithoutData _ | mediaTypesSkipped .. | siteDropped _ =>
    "pulsepoint_adapter::bidding::request_builder"
  | adapterReady _ | requestBuilt .. => "pulsepoint_adapter::bidding::pulsepoint"
  | unknownImpression _ => "pulsepoint_adapter::bidding::response_mapper"
  | callTimedOut .. | callFinished .. => "pulsepoint_adapter::bidding::http_client"
  | defaultsUsed _ => "pulsepoint_adapter::config::adapter_config"
  | mockRunning _ | mockReceived .. => "pulsepoint_adapter::mock_dsp"
  | settingsMissing _ | auctionFinished .. | mockStopped => "pulsepoint_adapter"

/-- The message of an event. -/
def message : Event → String
  | paramsRejected .. => "rejecting pulsepoint params"
  | videoWithoutData _ => "video media type with no video data"
  | mediaTypesSkipped .. => "skipping media types pulsepoint does not serve"
  | siteDropped _ => "context carries both app and site, site is dropped"
  | adapterReady _ => "pulsepoint adapter ready"
  | requestBuilt .. => "built pulsepoint bid request"
  | unknownImpression _ => "partner bid references an impression that was never sent"
  | callTimedOut .. => "partner call timed out"
  | callFinished .. => "partner call finished"
  | defaultsUsed _ | settingsMissing _ => "config file not found, using defaults"
  | auctionFinished .. => "pulsepoint auction finished"
  | mockRunning port => "Mock PulsePoint running at http://0.0.0.0:" ++ port
  | mockReceived id imps =>
    "Mock PulsePoint received BidRequest: id=" ++ id ++ ", imp_count=" ++ Decimal.naturalText imps
  | mockStopped => "Shutting down mock PulsePoint..."

/-- A count in a document. -/
def count (n : Nat) : Json :=
  .whole (.ofUInt64 (.ofNat n))

/-- What else is logged with an event. -/
def details : Event → List (String × Json)
  | paramsRejected unit e => [("ad_unit_code", .text unit), ("error", .text e.message)]
  | videoWithoutData unit => [("ad_unit_code", .text unit)]
  | mediaTypesSkipped unit dropped =>
    [("ad_unit_code", .text unit),
     ("dropped", .text ("[" ++ ", ".intercalate (dropped.map MediaType.title) ++ "]"))]
  | siteDropped tid => [("tid", .text tid)]
  | adapterReady endpoint => [("endpoint", .text endpoint)]
  | requestBuilt tid units imps =>
    [("tid", .text tid), ("ad_units", count units), ("imps", count imps)]
  | unknownImpression impid => [("impid", .text impid)]
  | callTimedOut uri ms => [("uri", .text uri), ("timeout_ms", .whole (.ofUInt64 ms))]
  | callFinished uri status elapsedMs =>
    [("uri", .text uri), ("status", count status.toNat),
     ("response_time_ms", .whole (.ofUInt64 elapsedMs))]
  | defaultsUsed path | settingsMissing path => [("path", .text path)]
  | auctionFinished tid bids => [("tid", .text tid), ("bids", count bids)]
  | mockRunning _ | mockReceived .. | mockStopped => []

/-- The members of an event in the log. -/
def members (event : Event) : List (String × Json) :=
  [("level", .text event.level.name),
   ("fields", .object (("message", .text event.message) :: event.details)),
   ("target", .text event.origin)]

/-- An event as it is logged. -/
def toJson (event : Event) : Json :=
  .object event.members

end Event

/-- An outcome with the events on the way to it. -/
structure Traced (ε α : Type) where
  outcome : Except ε α
  events : List Event

namespace Traced

variable {ε δ α β : Type}

/-- Logs an event. -/
def log (event : Event) : Traced ε Unit := ⟨.ok (), [event]⟩

/-- Logs events. -/
def logAll (events : List Event) : Traced ε Unit := ⟨.ok (), events⟩

/-- Fails. -/
def fail (e : ε) : Traced ε α := ⟨.error e, []⟩

/-- An outcome on the way to which nothing is logged. -/
def silent (outcome : Except ε α) : Traced ε α := ⟨outcome, []⟩

/-- Goes on with the value of a success. -/
def andThen (a : Traced ε α) (next : α → Traced ε β) : Traced ε β :=
  match a.outcome with
  | .ok value => ⟨(next value).outcome, a.events ++ (next value).events⟩
  | .error e => ⟨.error e, a.events⟩

instance : Monad (Traced ε) where
  pure a := ⟨.ok a, []⟩
  bind := andThen

/-- Converts the error. -/
def mapError (f : ε → δ) (a : Traced ε α) : Traced δ α :=
  ⟨a.outcome.mapError f, a.events⟩

end Traced

end HeaderBidding
