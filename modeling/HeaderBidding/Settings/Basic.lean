import HeaderBidding.Codec.Words

/-!
# Settings

Where the partner listens, how long it may take to answer when a request does not say, and where
logs are kept. Members that are absent take their default.
-/

namespace HeaderBidding

/-- The settings of the program. -/
structure Settings where
  endpoint : String := "http://bid.contextweb.com/header/ortb?src=prebid"
  defaultTimeoutMs : UInt64 := 250
  logDir : String := "logs"
  deriving DecidableEq

namespace Settings

/-- Settings in documents. -/
def codec : Codec Settings :=
  let default : Settings := {}
  .record "AdapterConfig"
    (.defaulted "endpoint" default.endpoint .text <|
     .defaulted "default_timeout_ms" default.defaultTimeoutMs (.word .uint64) <|
     .defaulted "log_dir" default.logDir .text
     .nil)
    { make := fun (endpoint, defaultTimeoutMs, logDir, ()) => { endpoint, defaultTimeoutMs, logDir }
      parts := fun a => (a.endpoint, a.defaultTimeoutMs, a.logDir, ())
      make_parts := fun _ => rfl }

/-- The settings with another endpoint, if one is given. -/
def withEndpoint (settings : Settings) (endpoint : Option String) : Settings :=
  { settings with endpoint := endpoint.getD settings.endpoint }

end Settings

end HeaderBidding
