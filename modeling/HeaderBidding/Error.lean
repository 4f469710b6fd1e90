import HeaderBidding.Decimal.Integer
import HeaderBidding.Text.Quoted

/-!
# Errors

Why the parameters of an ad unit are rejected, and why a call fails. `message` is the text for
people, `diagnostic` shows the value itself, and `kind` says where the blame lies.
-/

namespace HeaderBidding

/-- Why the parameters of an ad unit are rejected. -/
inductive ParamsError where
  | missingParams
  | malformed (reason : String)
  | missingPublisherId
  | missingTagId
  | missingAdSize
  | invalidAdSize (size : String)
  | invalidWidth (width : String)
  | invalidHeight (height : String)
  deriving DecidableEq

namespace ParamsError

/-- The message of an error. -/
def message : ParamsError → String
  | missingParams => "params section is missing"
  | malformed reason => reason
  | missingPublisherId => "missing publisher id"
  | missingTagId => "missing tag id"
  | missingAdSize => "missing ad size"
  | invalidAdSize size => "invalid ad size " ++ size
  | invalidWidth width => "invalid width " ++ width
  | invalidHeight height => "invalid height " ++ height

/-- The name of an error. -/
def name : ParamsError → String
  | missingParams => "MissingParams"
  | malformed _ => "Malformed"
  | missingPublisherId => "MissingPublisherId"
  | missingTagId => "MissingTagId"
  | missingAdSize => "MissingAdSize"
  | invalidAdSize _ => "InvalidAdSize"
  | invalidWidth _ => "InvalidWidth"
  | invalidHeight _ => "InvalidHeight"

/-- What an error carries. -/
def detail? : ParamsError → Option String
  | malformed text | invalidAdSize text | invalidWidth text | invalidHeight text => some text
  | _ => none

/-- The error as it is shown in diagnostics. -/
def diagnostic (e : ParamsError) : String :=
  match e.detail? with
  | some text => e.name ++ "(" ++ Text.quoted text ++ ")"
  | none => e.name

end ParamsError

/-- Why a file cannot be read, or an address not be used. -/
inductive IoError where
  | notFound
  | notDirectory
  | isDirectory
  | addressInUse
  | invalidText
  /-- Any other error, known by its text alone. -/
  | other (text : String)
  deriving DecidableEq

namespace IoError

/-- The number, the kind and the text that the system gives for an error. -/
def system? : IoError → Option (Nat × String × String)
  | notFound => some (2, "NotFound", "No such file or directory")
  | notDirectory => some (20, "NotADirectory", "Not a directory")
  | isDirectory => some (21, "IsADirectory", "Is a directory")
  | addressInUse => some (98, "AddrInUse", "Address already in use")
  | invalidText | other _ => none

/-- What is said of a text that is not made up of characters. -/
def invalidTextMessage : String := "stream did not contain valid UTF-8"

/-- The message of an error. -/
def message (e : IoError) : String :=
  match e, e.system? with
  | _, some (code, _, text) => text ++ " (os error " ++ Decimal.naturalText code ++ ")"
  | other text, none => text
  | _, none => invalidTextMessage

/-- The error as it is shown in diagnostics. -/
def diagnostic (e : IoError) : String :=
  match e, e.system? with
  | _, some (code, kind, text) =>
    "Os \x7b code: " ++ Decimal.naturalText code ++ ", kind: " ++ kind ++ ", message: " ++
      Text.quoted text ++ " \x7d"
  | other text, none => "Custom \x7b kind: Other, error: " ++ Text.quoted text ++ " \x7d"
  | _, none =>
    "Error \x7b kind: InvalidData, message: " ++ Text.quoted invalidTextMessage ++ " \x7d"

end IoError

/-- Where the blame for an error lies. -/
inductive ErrorKind where
  /-- The publisher has configured something wrongly. -/
  | configuration
  /-- There is nothing to bid for. -/
  | emptyRequest
  /-- The partner breaks the contract. -/
  | contractViolation
  /-- The exchange with the partner fails. -/
  | transport
  deriving DecidableEq

/-- The name of a kind of errors. -/
def ErrorKind.name : ErrorKind → String
  | configuration => "Configuration"
  | emptyRequest => "EmptyRequest"
  | contractViolation => "ContractViolation"
  | transport => "Transport"

/-- Why a call fails. -/
inductive AdapterError where
  | params (e : ParamsError)
  | videoWithoutData (unit : String)
  | noValidImpressions
  | unknownImpression (impid : String)
  | invalidEndpoint (url reason : String)
  | transport (reason : String)
  | timeout (ms : UInt64)
  | config (reason : String)
  | io (e : IoError)
  /-- A document that does not decode; the reason names the place. -/
  | document (reason : String)
  deriving DecidableEq

namespace AdapterError

/-- The kind of an error. -/
def kind : AdapterError → ErrorKind
  | params _ | videoWithoutData _ | invalidEndpoint .. | config _ | io _ => .configuration
  | noValidImpressions => .emptyRequest
  | unknownImpression _ => .contractViolation
  | transport _ | timeout _ | document _ => .transport

/-- The name of an error. -/
def name : AdapterError → String
  | params e => e.name
  | videoWithoutData _ => "VideoWithoutData"
  | noValidImpressions => "NoValidImpressions"
  | unknownImpression _ => "UnknownImpression"
  | invalidEndpoint .. => "InvalidEndpoint"
  | transport _ => "Transport"
  | timeout _ => "Timeout"
  | config _ => "Config"
  | io _ => "Io"
  | document _ => "Serde"

/-- The message of an error. -/
def message : AdapterError → String
  | params e => e.message
  | videoWithoutData unit => "invalid ad unit " ++ unit ++ ": video media type with no video data"
  | noValidImpressions => "no valid impressions"
  | unknownImpression impid => "unknown ad unit code '" ++ impid ++ "'"
  | invalidEndpoint url reason => "invalid endpoint url \x60" ++ url ++ "\x60: " ++ reason
  | transport reason => "transport: " ++ reason
  | timeout ms => "timeout: partner exceeded " ++ Decimal.naturalText ms.toNat ++ "ms"
  | config reason => "config: " ++ reason
  | io e => "io: " ++ e.message
  | document reason => "serde: " ++ reason

/-- The error as it is shown in diagnostics. -/
def diagnostic : AdapterError → String
  | params e => "Params(" ++ e.diagnostic ++ ")"
  | videoWithoutData unit =>
    "VideoWithoutData \x7b ad_unit_code: " ++ Text.quoted unit ++ " \x7d"
  | noValidImpressions => "NoValidImpressions"
  | unknownImpression impid => "UnknownImpression(" ++ Text.quoted impid ++ ")"
  | invalidEndpoint url reason =>
    "InvalidEndpoint \x7b url: " ++ Text.quoted url ++ ", reason: " ++ Text.quoted reason ++ " \x7d"
  | transport reason => "Transport(" ++ Text.quoted reason ++ ")"
  | timeout ms => "Timeout(" ++ Decimal.naturalText ms.toNat ++ ")"
  | config reason => "Config(" ++ Text.quoted reason ++ ")"
  | io e => "Io(" ++ e.diagnostic ++ ")"
  | document reason => "Serde(" ++ reason ++ ")"

end AdapterError

end HeaderBidding
