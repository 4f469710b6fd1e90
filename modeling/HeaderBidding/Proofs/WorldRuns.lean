import HeaderBidding.CommandLine.World
import HeaderBidding.Proofs.Trace

/-!
# Auctions in a known world

In a world that is known beforehand, an auction first prepares its requests and then posts them.
The preparation changes nothing but the log; what is posted is what the exchange with the partner
says.
-/

namespace HeaderBidding.CommandLine

/-- What is prepared for an auction, by the settings and the file with the fixture. -/
def preparation (settings : Settings) (file : FileRead) :
    Traced Failure (Fixture × List OutboundRequest) := do
  let fixture ← Traced.silent (Fixture.ofFile file)
  let requests ← requestsFor settings fixture
  pure (fixture, requests)

namespace World

variable {α β : Type} {script : Script} {world next : World} {settings : Settings} {path : String}

/-- The world with more in its log. -/
def logged (world : World) (events : List Event) : World :=
  { world with events := world.events ++ events }

@[simp]
theorem logged_logged (first second : List Event) :
    (world.logged first).logged second = world.logged (first ++ second) := by
  simp [logged]

/-! ## Steps -/

/-- What comes of a step in a world, and what becomes of the world. -/
def take (world : World) (step : ExceptT Failure (StateM World) α) : Except Failure α × World :=
  step.run.run world

theorem take_bind (step : ExceptT Failure (StateM World) α)
    (rest : α → ExceptT Failure (StateM World) β) :
    world.take (step >>= rest) =
      match world.take step with
      | (.ok a, next) => next.take (rest a)
      | (.error e, next) => (.error e, next) := by
  simp only [take, ExceptT.run_bind, StateT.run_bind]
  rcases step.run.run world with ⟨_ | _, next⟩ <;> rfl

theorem take_report (a : Traced Failure α) :
    world.take ((surroundings script).report a) = (a.outcome, world.logged a.events) :=
  rfl

theorem take_read (path : String) :
    world.take (liftM ((surroundings script).read path)) = (.ok (world.files.read path), world) :=
  rfl

theorem take_log (events : List Event) :
    world.take (liftM ((surroundings script).log events)) = (.ok (), world.logged events) :=
  rfl

theorem take_exchange (timeout : UInt64) (request : OutboundRequest) :
    world.take (liftM ((surroundings script).exchange timeout request)) =
      let (reply, posted) := script.partner.exchange script.site timeout request
      (.ok reply, { world with posted := world.posted ++ posted }) :=
  rfl

theorem ext_take {first second : ExceptT Failure (StateM World) α}
    (same : ∀ world : World, world.take first = world.take second) : first = second :=
  ExceptT.ext (StateT.ext same)

/-- Steps on the way to an outcome are reported one after the other. -/
theorem report_bind (a : Traced Failure α) (rest : α → Traced Failure β) :
    (surroundings script).report (a >>= rest) =
      (surroundings script).report a >>= fun value => (surroundings script).report (rest value) := by
  refine ext_take fun world => ?_
  obtain ⟨_ | value, events⟩ := a
  · rfl
  · simp only [take_bind, take_report, logged_logged]
    rfl

theorem report_pure (value : α) :
    (surroundings script).report (pure value) = pure value := by
  refine ext_take fun world => ?_
  change (Except.ok value, { world with events := world.events ++ [] }) = _
  rw [List.append_nil]
  rfl

/-! ## Auctions -/

theorem requestsIn_eq :
    (surroundings script).requestsIn settings path =
      liftM ((surroundings script).read path) >>= fun file =>
        (surroundings script).report (preparation settings file) := by
  simp only [Surroundings.requestsIn, preparation, report_bind, report_pure]

/-- Preparing changes nothing but the log. -/
theorem take_requestsIn :
    world.take ((surroundings script).requestsIn settings path) =
      ((preparation settings (world.files.read path)).outcome,
        world.logged (preparation settings (world.files.read path)).events) := by
  rw [requestsIn_eq, take_bind, take_read]
  rfl

/-- If there is no request to post, nothing is posted. -/
theorem take_auction_of_error {e : Failure}
    (failed : (preparation settings (world.files.read path)).outcome = .error e) :
    world.take ((surroundings script).auction settings path) =
      (.error e, world.logged (preparation settings (world.files.read path)).events) := by
  rw [Surroundings.auction, take_bind, take_requestsIn, failed]

theorem bidsFor_single (batch : Batch) (request : OutboundRequest) :
    (surroundings script).bidsFor settings batch [request] =
      liftM ((surroundings script).exchange settings.defaultTimeoutMs request) >>= fun reply =>
        (surroundings script).report (reply.mapError .adapter >>= bidsOf batch) := by
  simp only [Surroundings.bidsFor, report_bind, pure_bind, List.append_nil, bind_pure]

/-- A request that has been prepared is posted, and its reply says what the bids are. -/
theorem take_auction_of_ok {fixture : Fixture} {request : OutboundRequest}
    {reply : Traced AdapterError Reply} {posted : List Posting}
    (prepared : (preparation settings (world.files.read path)).outcome = .ok (fixture, [request]))
    (exchanged : script.partner.exchange script.site settings.defaultTimeoutMs request =
      (reply, posted)) :
    ∃ next, world.take ((surroundings script).auction settings path) =
        ((reply.mapError .adapter >>= bidsOf fixture.batch).outcome, next) ∧
      next.posted = world.posted ++ posted := by
  rw [Surroundings.auction, take_bind, take_requestsIn, prepared]
  simp only [bidsFor_single, take_bind, take_exchange, take_report, take_log, exchanged]
  cases (reply.mapError .adapter >>= bidsOf fixture.batch).outcome with
  | error e => exact ⟨_, rfl, rfl⟩
  | ok bids => exact ⟨_, rfl, rfl⟩

/-! ## Runs -/

variable {args : List String} {invocation : Invocation} {endpoint? : Option String}

theorem run_of_asked (asked : Request.ofArguments args = .run invocation) :
    world.run script args = ((surroundings script).start invocation).run world := by
  rw [World.run, Surroundings.run, asked]

/-- A run whose settings cannot be loaded fails and changes nothing. -/
theorem run_of_no_settings {e : AdapterError} (asked : Request.ofArguments args = .run invocation)
    (failed : Settings.load invocation.config (world.files.read invocation.config) = .error e) :
    world.run script args = (.failed (.adapter e), world) := by
  rw [run_of_asked asked, Surroundings.start, StateT.run_bind, run_read]
  simp only [pure_bind, failed]
  rfl

/-- A run whose settings have been loaded opens the log, and holds the auction then. -/
theorem run_auction (script : Script) {loaded : Option Settings} {files : FileTree}
    (asked : Request.ofArguments args = .run invocation)
    (command : invocation.command = .auction path endpoint?)
    (load : Settings.load invocation.config (world.files.read invocation.config) = .ok loaded)
    (room : world.files.makeDirectory? (invocation.logDir.getD (loaded.getD {}).logDir) =
      some files) :
    ∃ (start : World) (settings : Settings), start.files = files ∧ start.posted = world.posted ∧
      settings.endpoint = endpoint?.getD (loaded.getD {}).endpoint ∧
      settings.defaultTimeoutMs = (loaded.getD {}).defaultTimeoutMs ∧
      ∀ result next,
        start.take ((surroundings script).auction settings path) = (result, next) →
        world.run script args = (.ofExcept Bid.codec result, next) := by
  rw [run_of_asked asked, Surroundings.start, StateT.run_bind, run_read]
  simp only [pure_bind, load, StateT.run_bind, run_openLog, room, run_log, command,
    Surroundings.perform, if_true]
  refine ⟨_, _, ?_, ?_, ?_, ?_, fun result next taken => congrArg
    (fun taken : Except Failure (List Bid) × World => (Outcome.ofExcept Bid.codec taken.1, taken.2))
    taken⟩
  · rfl
  · rfl
  · rfl
  · rfl

end World

end HeaderBidding.CommandLine
