import HeaderBidding.CommandLine.FileTree
import HeaderBidding.CommandLine.Run
import HeaderBidding.Exchange.Partner
import HeaderBidding.MockPartner.Server

/-!
# Worlds that are known beforehand

A `World` is all that a run can read or change. In it, the files are those of a tree, and whoever
is met follows a script.
-/

namespace HeaderBidding.CommandLine

/-- What a run can read or change. -/
structure World where
  files : FileTree := {}
  /-- Where the log is kept, once it has been opened. -/
  logDir : Option String := none
  events : List Event := []
  /-- What the partner has read. -/
  posted : List Posting := []

/-- Whom a run meets. -/
structure Script where
  partner : Partner := .refuses
  /-- Where the partner listens. -/
  site : Partner.Site := {}
  /-- Whether another program listens at the port of the mock partner. -/
  isBusy : Bool := false
  /-- What the mock partner receives before it is stopped. -/
  incoming : List MockPartner.Incoming := []

namespace World

/-- Opens the log in a directory. -/
def openLog (dir : String) : StateM World Bool := do
  let world ← get
  match world.files.makeDirectory? dir with
  | some files => do
    set { world with files, logDir := some dir }
    pure true
  | none => pure false

/-- Logs events. -/
def log (events : List Event) : StateM World Unit :=
  modify fun world => { world with events := world.events ++ events }

/-- Posts a request to the partner of a script. -/
def exchange (script : Script) (timeout : UInt64) (request : OutboundRequest) :
    StateM World (Traced AdapterError Reply) := do
  let (reply, posted) := script.partner.exchange script.site timeout request
  modify fun world => { world with posted := world.posted ++ posted }
  pure reply

/-- Serves those that a script names. -/
def serve (script : Script) : StateM World (Except IoError Unit) :=
  if script.isBusy then pure (.error .addressInUse)
  else do
    log (script.incoming.flatMap (·.events))
    pure (.ok ())

/-- A world in which a script is followed. -/
def surroundings (script : Script) : Surroundings (StateM World) where
  read path := do
    let world ← get
    pure (world.files.read path)
  openLog
  log
  exchange := exchange script
  serve _ := serve script

section

variable (script : Script) (world : World)

@[simp]
theorem run_read (path : String) :
    ((surroundings script).read path).run world = pure (world.files.read path, world) :=
  rfl

@[simp]
theorem run_openLog (dir : String) :
    ((surroundings script).openLog dir).run world =
      match world.files.makeDirectory? dir with
      | some files => pure (true, { world with files, logDir := some dir })
      | none => pure (false, world) := by
  cases h : world.files.makeDirectory? dir <;> simp [surroundings, openLog, h]

@[simp]
theorem run_log (events : List Event) :
    ((surroundings script).log events).run world =
      pure ((), { world with events := world.events ++ events }) :=
  rfl

end

/-- The run with some arguments in a world: how it ends, and what becomes of the world. -/
def run (world : World) (script : Script) (args : List String) : Outcome × World :=
  ((surroundings script).run args).run world

end World

end HeaderBidding.CommandLine
