import CharacterSim.Server.Channel
import CharacterSim.Server.Worker

/-! How callers reach a worker. Any number of handles place commands in one queue; the worker takes out
one command at a time, in order, or lets the simulation tick when that is due, whichever it turns to
first. Once the last handle is gone and the queue is empty it comes to its end. A caller may go away
before it is answered. The queue may be any that keeps the order of what is placed. -/

namespace CharacterSim

/-- What a command is called in the log. -/
def Command.label : Command → String
  | login .. => "Login"
  | disconnect _ => "Disconnect"
  | damage .. => "Damage"
  | respawn _ => "Respawn"
  | status _ => "Status"

/-- A command on its way to the worker, under the number of the call that it belongs to. -/
structure Letter where
  call : Nat
  command : Command

/-- A server with its handles and the queue between them. -/
structure Exchange (κ : Type) where
  server : Server
  queue : κ
  handles : Nat := 1
  /-- How many commands have been placed in the queue. -/
  calls : Nat := 0
  /-- The calls whose callers have gone away. -/
  forsaken : List Nat := []
  /-- What callers were answered. -/
  answers : List (Nat × Reply) := []
  /-- The worker has come to its end. -/
  stopped : Bool := false

/-- One thing that happens, by a caller, by the clock or by the worker. A handle may be dropped at any
time; that a caller who awaits an answer holds on to its handle is no restriction. -/
inductive Move where
  | clone
  | drop
  | place (command : Command)
  /-- A caller no longer awaits its answer. -/
  | forsake (call : Nat)
  | wait (span : Duration)
  /-- The worker handles the first command of the queue. -/
  | receive
  /-- The worker lets the simulation tick. -/
  | tick
  /-- The worker finds that there is nobody left to ask it for anything. -/
  | stop

namespace Exchange

variable {κ : Type}

/-- The worker, unless it is gone. -/
def worker? (exchange : Exchange κ) : Option Worker :=
  if exchange.stopped then none else exchange.server.worker

/-- Delivers a reply, unless the caller has gone away. -/
def answer (exchange : Exchange κ) (letter : Letter) (reply : Reply) : List Effect × Exchange κ :=
  if letter.call ∈ exchange.forsaken then
    ([.logged { level := .debug
                message := s!"{letter.command.label} reply channel closed (caller dropped)" }],
      exchange)
  else ([], { exchange with answers := exchange.answers ++ [(letter.call, reply)] })

variable [Mailbox κ Letter]

/-- A server that is asked for nothing yet, with one handle. -/
def open? (simulation : Simulation) (period : Duration) (capacity : Nat) : Option (Exchange κ) := do
  let worker ← Worker.start? simulation period .zero
  let queue ← Mailbox.open? capacity
  return { server := { worker := some worker }, queue }

/-- The commands that wait, the first of them in front. -/
def waiting (exchange : Exchange κ) : List Letter := Mailbox.waiting exchange.queue

/-- What comes of the worker's acting. A mistake is the end of it and of all that is in the queue. -/
def settle {α : Type} (exchange : Exchange κ) (done : List Effect × Server × Except ServerError α)
    (conclude : Exchange κ → α → List Effect × Exchange κ) : List Effect × Exchange κ :=
  match done with
  | (effects, server, .ok value) =>
    let (more, exchange) := conclude { exchange with server } value
    (effects ++ more, exchange)
  | (effects, server, .error _) =>
    (effects, { exchange with server, queue := Mailbox.close exchange.queue })

/-- What happens by a move, if it is possible. -/
def move (exchange : Exchange κ) : Move → Option (List Effect × Exchange κ)
  | .clone =>
    if exchange.handles = 0 then none
    else some ([], { exchange with handles := exchange.handles + 1 })
  | .drop =>
    if exchange.handles = 0 then none
    else some ([], { exchange with handles := exchange.handles - 1 })
  | .place command =>
    if exchange.handles = 0 then none
    else
      match Mailbox.send exchange.queue ⟨exchange.calls, command⟩ with
      | .ok queue => some ([], { exchange with queue, calls := exchange.calls + 1 })
      | .error _ => none
  | .forsake call =>
    if call < exchange.calls then
      some ([], { exchange with forsaken := call :: exchange.forsaken })
    else none
  | .wait span =>
    some ([], { exchange with
      server := { exchange.server with now := exchange.server.now + span } })
  | .receive =>
    match exchange.worker?, Mailbox.take? exchange.queue with
    | some _, some (letter, queue) =>
      some ({ exchange with queue }.settle (exchange.server.request letter.command)
        (·.answer letter))
    | _, _ => none
  | .tick =>
    match exchange.worker? with
    | some worker =>
      if worker.schedule.isDue exchange.server.now then
        some (exchange.settle
          (exchange.server.perform fun worker => do
            return (← worker.tick exchange.server.now, ()))
          fun exchange _ => ([], exchange))
      else none
    | none => none
  | .stop =>
    match exchange.worker?, Mailbox.take? exchange.queue with
    | some _, none =>
      if exchange.handles = 0 then
        some (exchange.server.shutdown.1,
          { exchange with stopped := true, queue := Mailbox.close exchange.queue })
      else none
    | _, _ => none

/-- One move after the other, if all are possible. -/
def run (exchange : Exchange κ) : List Move → Option (List Effect × Exchange κ)
  | [] => some ([], exchange)
  | move :: rest => do
    let (first, next) ← exchange.move move
    let (later, last) ← next.run rest
    return (first ++ later, last)

end Exchange

end CharacterSim
