import HeaderBidding.Decimal.Integer

/-!
# Arguments

What the program is asked to do. Options stand before or behind the name of the command, depending
on what they belong to; each is given at most once, and its value stands behind an equals sign or is
the next argument.
-/

namespace HeaderBidding.CommandLine

/-- What the program is asked to do. -/
inductive Command where
  /-- Build the requests for a fixture and show them. -/
  | build (fixture : String)
  /-- Hold an auction for a fixture and show the bids. -/
  | auction (fixture : String) (endpoint : Option String)
  /-- Serve as a mock partner at a port. -/
  | mockPartner (port : UInt16)
  deriving DecidableEq

/-- How the program is called. -/
structure Invocation where
  config : String
  logDir : Option String
  command : Command
  deriving DecidableEq

/-- What the arguments come to. -/
inductive Request where
  | run (invocation : Invocation)
  | version
  | help
  | refused
  deriving DecidableEq

/-- Where settings are kept if no place is given. -/
def defaultConfig : String := "static/adapter_config.json"

/-- Where the fixture is kept if no place is given. -/
def defaultFixture : String := "static/adapter_request.json"

/-- Where the mock partner listens if no port is given. -/
def defaultPort : UInt16 := 9001

/-! ## Options -/

/-- What an argument means. -/
inductive Argument where
  /-- An option with a dash or two, and the value behind its equals sign. -/
  | option (name : String) (value : Option String)
  /-- The end of the options. -/
  | separator
  | word (text : String)
  deriving DecidableEq

/-- Splits a text at its first equals sign. -/
def splitValue (s : List Char) : List Char × Option String :=
  match s.dropWhile (· != '=') with
  | '=' :: value => (s.takeWhile (· != '='), some (String.ofList value))
  | _ => (s, none)

/-- What an argument means. The value of a short option may stand directly behind its letter. -/
def Argument.ofText (text : String) : Argument :=
  match text.toList with
  | ['-', '-'] => .separator
  | '-' :: '-' :: name =>
    let (name, value) := splitValue name
    .option (String.ofList ('-' :: '-' :: name)) value
  | '-' :: letter :: [] => .option (String.ofList ['-', letter]) none
  | '-' :: letter :: '=' :: value =>
    .option (String.ofList ['-', letter]) (some (String.ofList value))
  | '-' :: letter :: value => .option (String.ofList ['-', letter]) (some (String.ofList value))
  | _ => .word text

/-- The value of an option: behind its equals sign, or the next argument if that is a word. -/
def optionValue (value : Option String) (rest : List String) : Option (String × List String) :=
  match value, rest with
  | some value, rest => some (value, rest)
  | none, next :: rest =>
    match Argument.ofText next with
    | .word text => some (text, rest)
    | _ => none
  | none, [] => none

theorem optionValue_length_le {value : Option String} {rest left : List String} {text : String}
    (h : optionValue value rest = some (text, left)) : left.length ≤ rest.length := by
  unfold optionValue at h
  split at h
  · simp_all
  · split at h
    · simp_all
    · simp at h
  · simp at h

/-- Whether an option asks for help. Only its short form may have something behind it. -/
def isHelp (name : String) (value : Option String) : Bool :=
  name == "-h" || (name == "--help" && value.isNone)

/-- Whether an option asks for the version. Only its short form may have something behind it. -/
def isVersion (name : String) (value : Option String) : Bool :=
  name == "-V" || (name == "--version" && value.isNone)

/-- An option of a command. -/
structure CommandOption where
  names : List String
  /-- Whether the option takes a value. -/
  accepts : String → Bool := fun _ => true

/-- Reads the options of a command. The values are given in the order of the options. -/
def readOptions (known : List CommandOption) (given : List (Option String)) (args : List String) :
    Except Request (List (Option String)) :=
  match args with
  | [] => .ok given
  | arg :: rest =>
    match Argument.ofText arg with
    | .separator => if rest = [] then .ok given else .error .refused
    | .word _ => .error .refused
    | .option name value =>
      if isHelp name value then .error .help
      else
        match known.findIdx? (·.names.contains name) with
        | none => .error .refused
        | some place =>
          match h : optionValue value rest with
          | none => .error .refused
          | some (text, left) =>
            if (given.getD place none).isNone ∧ known[place]?.any (·.accepts text) then
              have := optionValue_length_le h
              readOptions known (given.set place (some text)) left
            else .error .refused
termination_by args.length

/-- A port: a whole number below `2 ^ 16`. -/
def port? (text : String) : Option UInt16 :=
  match Decimal.intOf? text.toList with
  | some n => if 0 ≤ n ∧ n < 0x10000 then some (UInt16.ofNat n.toNat) else none
  | none => none

/-- The option that names a fixture. -/
def requestOption : CommandOption where
  names := ["--request"]

/-- The option that names an endpoint. -/
def endpointOption : CommandOption where
  names := ["--endpoint"]

/-- The option that names a port. -/
def portOption : CommandOption where
  names := ["--port", "-p"]
  accepts text := (port? text).isSome

/-- The names of all commands. -/
def commandNames : List String := ["build", "auction", "mock-dsp", "help"]

/-- Reads what stands behind the name of a command. -/
def readCommand (name : String) (args : List String) : Except Request Command :=
  if name = "build" then do
    let given ← readOptions [requestOption] [none] args
    pure (.build ((given.getD 0 none).getD defaultFixture))
  else if name = "auction" then do
    let given ← readOptions [requestOption, endpointOption] [none, none] args
    pure (.auction ((given.getD 0 none).getD defaultFixture) (given.getD 1 none))
  else if name = "mock-dsp" then do
    let given ← readOptions [portOption] [none] args
    pure (.mockPartner (((given.getD 0 none).bind port?).getD defaultPort))
  else if name = "help" then
    match args with
    | [] => .error .help
    | [name] => .error (if commandNames.contains name then .help else .refused)
    | _ => .error .refused
  else .error .refused

/-- Reads arguments, behind those that have given the place of the settings and of the logs. -/
def readArguments (config logDir : Option String) (args : List String) : Request :=
  match args with
  | [] => .refused
  | arg :: rest =>
    match Argument.ofText arg with
    | .separator => .refused
    | .word name =>
      match readCommand name rest with
      | .ok command => .run { config := config.getD defaultConfig, logDir, command }
      | .error request => request
    | .option name value =>
      if isHelp name value then .help
      else if isVersion name value then .version
      else if name = "--config" ∧ config = none then
        match h : optionValue value rest with
        | some (text, left) =>
          have := optionValue_length_le h
          readArguments (some text) logDir left
        | none => .refused
      else if name = "--log-dir" ∧ logDir = none then
        match h : optionValue value rest with
        | some (text, left) =>
          have := optionValue_length_le h
          readArguments config (some text) left
        | none => .refused
      else .refused
termination_by args.length

/-- What the arguments come to. -/
def Request.ofArguments (args : List String) : Request :=
  readArguments none none args

end HeaderBidding.CommandLine
