import HeaderBidding.CommandLine.Arguments
import HeaderBidding.CommandLine.Auction

/-!
# Runs of the program

What the program does is written down for any `Surroundings`: for files, a log and a network, or for
a world that is known beforehand. A run ends with a code, and with what is printed.
-/

namespace HeaderBidding.CommandLine

/-- How a run ends. -/
structure Outcome where
  exit : Nat
  stdout : String := ""
  stderr : String := ""
  deriving DecidableEq

/-- The end of a run that fails. -/
def Outcome.failed (failure : Failure) : Outcome where
  exit := 1
  stderr := "Error: " ++ failure.diagnostic ++ "\n"

/-- The end of a run that shows values. -/
def Outcome.ofExcept {α : Type} (codec : Codec α) : Except Failure (List α) → Outcome
  | .ok values => { exit := 0, stdout := shown codec values }
  | .error failure => .failed failure

/-- The name and the version of the program. -/
def versionText : String := "pulsepoint-adapter 1.0\n"

/-- The code of a run that breaks down. -/
def breakdown : Nat := 101

/-- What surrounds a run. -/
structure Surroundings (m : Type → Type) where
  /-- Reads a file. -/
  read : String → m FileRead
  /-- Opens the log in a directory, if it can be kept there. -/
  openLog : String → m Bool
  /-- Logs events. -/
  log : List Event → m Unit
  /-- Posts a request; the time for it is given for the case that it does not say. -/
  exchange : UInt64 → OutboundRequest → m (Traced AdapterError Reply)
  /-- Serves as the mock partner at a port, until it is stopped. -/
  serve : UInt16 → m (Except IoError Unit)

namespace Surroundings

variable {m : Type → Type} [Monad m]

/-- Logs the events on the way to an outcome. -/
def report {α : Type} (around : Surroundings m) (a : Traced Failure α) : ExceptT Failure m α :=
  .mk do
    around.log a.events
    pure a.outcome

/-- Builds the requests for the fixture in a file. -/
def requestsIn (around : Surroundings m) (settings : Settings) (path : String) :
    ExceptT Failure m (Fixture × List OutboundRequest) := do
  let file ← around.read path
  let fixture ← around.report (Traced.silent (Fixture.ofFile file))
  let requests ← around.report (requestsFor settings fixture)
  pure (fixture, requests)

/-- Posts requests, in their order, up to the first that fails, and gives the bids. -/
def bidsFor (around : Surroundings m) (settings : Settings) (batch : Batch) :
    List OutboundRequest → ExceptT Failure m (List Bid)
  | [] => pure []
  | request :: rest => do
    let reply ← around.exchange settings.defaultTimeoutMs request
    let reply ← around.report (reply.mapError .adapter)
    let bids ← around.report (bidsOf batch reply)
    let others ← bidsFor around settings batch rest
    pure (bids ++ others)

/-- Holds an auction for the fixture in a file. -/
def auction (around : Surroundings m) (settings : Settings) (path : String) :
    ExceptT Failure m (List Bid) := do
  let (fixture, requests) ← around.requestsIn settings path
  let bids ← around.bidsFor settings fixture.batch requests
  around.log [.auctionFinished fixture.context.tid bids.length]
  pure bids

/-- Serves as the mock partner. -/
def mockPartner (around : Surroundings m) (port : UInt16) : m Outcome := do
  around.log [.mockRunning (Decimal.naturalText port.toNat)]
  match ← around.serve port with
  | .error e => pure (.failed (.io e))
  | .ok () => do
    around.log [.mockStopped]
    pure { exit := 0 }

/-- Carries out a command. -/
def perform (around : Surroundings m) (settings : Settings) : Command → m Outcome
  | .build path => do
    let requests ← (around.requestsIn settings path).run
    pure (.ofExcept OutboundRequest.codec (requests.map (·.2)))
  | .auction path endpoint => do
    let bids ← (around.auction (settings.withEndpoint endpoint) path).run
    pure (.ofExcept Bid.codec bids)
  | .mockPartner port => around.mockPartner port

/-- Carries out a command once its settings are loaded and the log is open. -/
def start (around : Surroundings m) (invocation : Invocation) : m Outcome := do
  let file ← around.read invocation.config
  match Settings.load invocation.config file with
  | .error e => pure (.failed (.adapter e))
  | .ok loaded => do
    let settings := loaded.getD {}
    let settings := { settings with logDir := invocation.logDir.getD settings.logDir }
    let isOpen ← around.openLog settings.logDir
    if isOpen then do
      around.log (if loaded.isSome then [] else [.settingsMissing invocation.config])
      around.perform settings invocation.command
    else pure { exit := breakdown }

/-- The run with some arguments. -/
def run (around : Surroundings m) (args : List String) : m Outcome :=
  match Request.ofArguments args with
  | .version => pure { exit := 0, stdout := versionText }
  | .help => pure { exit := 0 }
  | .refused => pure { exit := 2 }
  | .run invocation => around.start invocation

end Surroundings

end HeaderBidding.CommandLine
