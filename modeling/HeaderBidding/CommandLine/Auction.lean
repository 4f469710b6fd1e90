import HeaderBidding.Adapter
import HeaderBidding.Exchange.Transport
import HeaderBidding.Settings.Loading

/-!
# Auctions for a fixture

A fixture is a batch of ad units with the context of an auction. The program shows the requests for
it, or posts them and shows the bids that come back.
-/

namespace HeaderBidding.CommandLine

/-- A batch of ad units with the context of an auction. -/
structure Fixture where
  batch : Batch
  context : AuctionContext

/-- Fixtures in documents. -/
def Fixture.codec : Codec Fixture :=
  .record "AuctionFixture"
    (.required "adapterRequest" Batch.codec <|
     .required "context" AuctionContext.codec
     .nil)
    { make := fun (batch, context, ()) => { batch, context }
      parts := fun a => (a.batch, a.context, ())
      make_parts := fun _ => rfl }

/-- Why the program fails. -/
inductive Failure where
  | adapter (e : AdapterError)
  | io (e : IoError)
  /-- The text does not decode. -/
  | document (fault : Fault) (text : String)

/-- A failure as it is shown. -/
def Failure.diagnostic : Failure → String
  | adapter e => e.diagnostic
  | io e => e.diagnostic
  | document fault text =>
    let place := fault.position text
    "Error(" ++ Text.quoted fault.cause.message ++ ", line: " ++ Decimal.naturalText place.line ++
      ", column: " ++ Decimal.naturalText place.column ++ ")"

/-- The fixture in a file. -/
def Fixture.ofFile : FileRead → Except Failure Fixture
  | .error e => .error (.io e)
  | .ok text =>
    match codec.decode text with
    | .ok fixture => .ok fixture
    | .error fault => .error (.document fault text)

/-- The requests for a fixture, by the settings. -/
def requestsFor (settings : Settings) (fixture : Fixture) :
    Traced Failure (List OutboundRequest) := do
  let adapter ← (Adapter.ofSettings settings).mapError .adapter
  (adapter.requests fixture.batch fixture.context).mapError .adapter

/-- The bids of a reply. -/
def bidsOf (batch : Batch) (reply : Reply) : Traced Failure (List Bid) := do
  let drafts ← (Adapter.extractBids batch reply).mapError .adapter
  pure <| drafts.map fun draft =>
    (draft.complete (.responseTimeMs (some reply.responseTimeMs))).build

/-- Values, shown over several lines. -/
def shown {α : Type} (codec : Codec α) (values : List α) : String :=
  ((Codec.list codec).toJson values).toLines ++ "\n"

end HeaderBidding.CommandLine
