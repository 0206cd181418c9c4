import CharacterSim.Server.Simulation

/-! The worker that owns a simulation. It handles commands one at a time and lets the simulation tick
at intervals; a tick is told how long ago the one before it was, however late it comes. -/

namespace CharacterSim

/-- What a worker can be asked to do. -/
inductive Command where
  | login (payload : List UInt8) (client : Option ClientId)
  | disconnect (entity : EntityId)
  | damage (entity : EntityId) (amount : Float)
  | respawn (entity : EntityId)
  | status (entity : EntityId)

/-- The answer to a command. -/
inductive Reply where
  | entered (outcome : Except ServerError EntityId)
  | left (outcome : Except ServerError Disconnect)
  | done (outcome : Except ServerError Unit)
  | status (found : Option CharacterStatus)

/-- Measures the time between ticks. -/
structure TickClock where
  last : Duration

/-- The time since the last tick, upon a tick. -/
def TickClock.lap (clock : TickClock) (now : Duration) : Duration × TickClock :=
  (now - clock.last, { last := now })

/-- When ticks are due. -/
structure Schedule where
  period : Duration
  deadline : Duration

namespace Schedule

/-- A tick that is at most this late does not delay those after it. -/
def tolerance : Duration := .ofMillis 5

/-- The time that clocks never reach. -/
def never : Duration := .ofParts Int64.maxValue.toInt.toNat 0

/-- How far off a tick is put that would be due after all time. -/
def farOff : Duration := .ofParts (30 * 365 * 86400) 0

def isDue (schedule : Schedule) (now : Duration) : Bool := schedule.deadline ≤ now

/-- The schedule after a tick. After one that is late there has to be time left for the next. -/
def next? (schedule : Schedule) (now : Duration) : Option Schedule :=
  let isLate := !(now - schedule.deadline ≤ tolerance)
  let deadline := (if isLate then now else schedule.deadline) + schedule.period
  if !(never ≤ deadline) then some { schedule with deadline }
  else if isLate then none
  else some { schedule with deadline := now + farOff }

/-- No more ticks than this are due. -/
def ticksDue (schedule : Schedule) (now : Duration) : Nat :=
  (now - schedule.deadline).nanoseconds / schedule.period.nanoseconds + 1

end Schedule

structure Worker where
  simulation : Simulation
  clock : TickClock
  schedule : Schedule

namespace Worker

/-- A worker whose first tick is due at once. There is none without time between ticks. -/
def start? (simulation : Simulation) (period now : Duration) : Option Worker :=
  if period.isZero then none
  else some { simulation, clock := ⟨now⟩, schedule := { period, deadline := now } }

/-- One tick of the simulation. -/
def tick (worker : Worker) (now : Duration) : Step Worker := do
  match worker.schedule.next? now with
  | none => Step.fail .clockOverflow
  | some schedule =>
    let (elapsed, clock) := worker.clock.lap now
    let (simulation, events) ← worker.simulation.tick elapsed
    Step.emit (events.map .published)
    return { simulation, clock, schedule }

/-- The ticks that are due. -/
def runDue (worker : Worker) (now : Duration) : Nat → Step Worker
  | 0 => return worker
  | limit + 1 => do
    if worker.schedule.isDue now then
      (← worker.tick now).runDue now limit
    else return worker

/-- The event of a character that was admitted. -/
def loginEvents (simulation : Simulation) : Except ServerError EntityId → List Effect
  | .ok entity =>
    match simulation.character? entity with
    | some character => [.published (.loggedIn entity character.databaseId)]
    | none => []
  | .error _ => []

def disconnectEvents (entity : EntityId) : Except ServerError Disconnect → List Effect
  | .ok outcome => [.published (.disconnected entity outcome)]
  | .error _ => []

/-- Handles one command. No character of a server is ever in a transaction, so no session has to be
alive. -/
def handle (worker : Worker) : Command → Step (Worker × Reply)
  | .login payload client => do
    let (simulation, outcome) ← worker.simulation.login payload client
    Step.emit (loginEvents simulation outcome)
    return ({ worker with simulation }, .entered outcome)
  | .disconnect entity => do
    let (simulation, outcome) ← worker.simulation.disconnect (fun _ => false) entity
    Step.emit (disconnectEvents entity outcome)
    return ({ worker with simulation }, .left outcome)
  | .damage entity amount => do
    let (simulation, outcome) ← worker.simulation.damage entity amount
    return ({ worker with simulation }, .done outcome)
  | .respawn entity => do
    let (simulation, outcome) ← worker.simulation.respawn entity
    return ({ worker with simulation }, .done outcome)
  | .status entity => return (worker, .status (← worker.simulation.status entity))

end Worker

/-- A worker and the clock it reads. The worker is gone once a mistake has stopped it. -/
structure Server where
  worker : Option Worker
  now : Duration := .zero

namespace Server

/-- Lets the worker act; a mistake is the end of it, but what was done before has been done. -/
def perform {α : Type} (server : Server) (act : Worker → Step (Worker × α)) :
    List Effect × Server × Except ServerError α :=
  match server.worker with
  | none => ([], server, .error .commandChannelClosed)
  | some worker =>
    let step := act worker
    match step.result with
    | .ok (worker, answer) => (step.effects, { server with worker := some worker }, .ok answer)
    | .error _ => (step.effects, { server with worker := none }, .error .replyChannelClosed)

/-- The ticks that are due now. -/
def catchUp (server : Server) : List Effect × Server :=
  let (effects, server, _) := server.perform fun worker => do
    return (← worker.runDue server.now (worker.schedule.ticksDue server.now), ())
  (effects, server)

/-- Starts a worker, whose first tick happens at once. -/
def start (simulation : Simulation) (period : Duration) : List Effect × Server :=
  catchUp { worker := Worker.start? simulation period .zero }

/-- Sends the worker a command and awaits the answer. -/
def request (server : Server) (command : Command) :
    List Effect × Server × Except ServerError Reply :=
  server.perform (·.handle command)

/-- Moves the clock in one jump. -/
def advance (server : Server) (span : Duration) : List Effect × Server :=
  catchUp { server with now := server.now + span }

/-- Awaits the end of the worker. -/
def shutdown (server : Server) : List Effect × Except ServerError Unit :=
  match server.worker with
  | none => ([], .error .workerJoin)
  | some worker =>
    ([.logged { level := .info, message := "simulation worker stopped",
                fields := [("characters", s!"{worker.simulation.size}")] }], .ok ())

end Server

end CharacterSim
