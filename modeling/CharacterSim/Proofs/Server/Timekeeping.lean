import CharacterSim.Proofs.Ability.Timing
import CharacterSim.Proofs.Server.Service

/-! How a worker keeps time. What its simulation is told to let pass, tick by tick, adds up to the
time that its clock has shown to pass, however late the ticks come and whatever it is asked for in
between; and timers run down by the same sum however it is divided. -/

namespace CharacterSim

/-- The time that an operation lets pass. -/
def Simulation.Operation.span? : Simulation.Operation → Option Duration
  | tick elapsed => some elapsed
  | _ => none

namespace Worker

open Simulation

/-- The reading of the clock at which the simulation is let tick in a turn. -/
def Turn.reading? : Turn → Option Duration
  | letter _ => none
  | tick now => some now

/-- What the simulation is asked for in a turn, by the clock of the worker: what a letter commands,
or to let pass the time since the last tick. -/
def Turn.operation? (clock : TickClock) : Turn → Option Operation
  | letter posted => posted.command.operation?
  | tick now => some (.tick (clock.lap now).1)

/-- The clock of the worker after a turn. -/
def Turn.clock (clock : TickClock) : Turn → TickClock
  | letter _ => clock
  | tick now => (clock.lap now).2

/-- The readings at which the simulation is let tick, in order. -/
def readings (turns : List Turn) : List Duration := turns.filterMap Turn.reading?

/-- What the simulation is asked for, turn by turn. -/
def operations (clock : TickClock) : List Turn → List Operation
  | [] => []
  | turn :: rest => (turn.operation? clock).toList ++ operations (turn.clock clock) rest

/-- The spans that the simulation is told to let pass, in order. -/
def spans (operations : List Operation) : List Duration := operations.filterMap Operation.span?

/-- A tick at a reading of the clock, if there is time left for the next, is a tick of the
simulation by a span. -/
def TicksBy (worker : Worker) (now span : Duration) : Prop :=
  ∀ schedule, worker.schedule.next? now = some schedule → worker.tick now = do
    let (simulation, events) ← worker.simulation.tick span
    Step.emit (events.map .published)
    return { simulation, clock := ⟨now⟩, schedule }

variable {first worker after : Worker} {turns : List Turn} {turn : Turn} {clock : TickClock}
  {replies more : List (Nat × Reply)}

/-! ### The clock -/

theorem operations_concat (clock : TickClock) (turns : List Turn) (turn : Turn) :
    operations clock (turns ++ [turn]) =
      operations clock turns ++ (turn.operation? (turns.foldl Turn.clock clock)).toList := by
  induction turns generalizing clock with
  | nil => exact List.append_nil _
  | cons head rest ih =>
    rw [List.cons_append, operations, ih, operations, List.append_assoc]
    rfl

theorem spans_letter (letter : Letter) (operations : List Operation) :
    spans (letter.command.operation?.toList ++ operations) = spans operations := by
  obtain ⟨call, command⟩ := letter
  cases command <;> rfl

theorem spans_tick (now : Duration) (clock : TickClock) (turns : List Turn) :
    spans (operations clock (.tick now :: turns)) =
      (now - clock.last) :: spans (operations ⟨now⟩ turns) := rfl

/-- As long as readings do not go back, the clock has moved on by what was told to pass. -/
theorem last_eq (hmonotone : (clock.last :: readings turns).Pairwise (· ≤ ·)) :
    (turns.foldl Turn.clock clock).last =
      clock.last + Duration.total (spans (operations clock turns)) := by
  induction turns generalizing clock with
  | nil => rfl
  | cons turn rest ih =>
    -- a letter leaves the clock alone, and a tick moves it to its reading
    cases turn with
    | letter letter =>
      rw [operations, Turn.operation?, spans_letter]
      exact ih hmonotone
    | tick now =>
      obtain ⟨hlater, hrest⟩ := List.pairwise_cons.1 hmonotone
      have hforward : clock.last.nanoseconds ≤ now.nanoseconds := hlater now List.mem_cons_self
      rw [List.foldl_cons, spans_tick, Duration.total_cons]
      refine (ih hrest).trans (Duration.ext ?_)
      simp only [Duration.nanoseconds_add, Duration.nanoseconds_sub]
      omega

/-! ### The simulation -/

/-- A command that is handled is one operation of the simulation, or a mere question. -/
theorem simulation_of_handle {command : Command} {reply : Reply}
    (h : (worker.handle command).result = .ok (after, reply)) : after.clock = worker.clock ∧
      match command.operation? with
      | some operation => ∃ answer,
        (worker.simulation.respond operation).result = .ok (after.simulation, answer)
      | none => after.simulation = worker.simulation := by
  cases command with
  | login payload client =>
    obtain ⟨⟨simulation, outcome⟩, houtcome, hlast, -⟩ := Step.bind_eq_ok h
    cases hlast
    exact ⟨rfl, .login outcome, Step.result_bind_of_ok houtcome rfl⟩
  | disconnect entity =>
    obtain ⟨⟨simulation, outcome⟩, houtcome, hlast, -⟩ := Step.bind_eq_ok h
    cases hlast
    exact ⟨rfl, .disconnect outcome, Step.result_bind_of_ok houtcome rfl⟩
  | damage entity amount =>
    obtain ⟨⟨simulation, outcome⟩, houtcome, hlast, -⟩ := Step.bind_eq_ok h
    cases hlast
    exact ⟨rfl, .damage outcome, Step.result_bind_of_ok houtcome rfl⟩
  | respawn entity =>
    obtain ⟨⟨simulation, outcome⟩, houtcome, hlast, -⟩ := Step.bind_eq_ok h
    cases hlast
    exact ⟨rfl, .respawn outcome, Step.result_bind_of_ok houtcome rfl⟩
  | status entity =>
    obtain ⟨found, -, hlast, -⟩ := Step.bind_eq_ok h
    cases hlast
    exact ⟨rfl, rfl⟩

theorem ticksBy_lap (worker : Worker) (now : Duration) :
    worker.TicksBy now (worker.clock.lap now).1 := by
  intro schedule hnext
  rw [tick, hnext]
  rfl

theorem simulation_of_tick {now : Duration} (h : (worker.tick now).result = .ok after) :
    after.clock = ⟨now⟩ ∧ ∃ answer,
      (worker.simulation.respond (.tick (worker.clock.lap now).1)).result =
        .ok (after.simulation, answer) := by
  cases hnext : worker.schedule.next? now with
  | none =>
    rw [tick, hnext] at h
    cases h
  | some schedule =>
    rw [worker.ticksBy_lap now schedule hnext] at h
    obtain ⟨⟨simulation, events⟩, hevents, hlast, -⟩ := Step.bind_eq_ok h
    cases hlast
    exact ⟨rfl, .tick events, Step.result_bind_of_ok hevents rfl⟩

/-- A turn does with the simulation what it is asked for, and moves the clock. -/
theorem simulation_of_serve (h : (worker.serve turn).result = .ok (after, more)) :
    after.clock = turn.clock worker.clock ∧
      match turn.operation? worker.clock with
      | some operation => ∃ answer,
        (worker.simulation.respond operation).result = .ok (after.simulation, answer)
      | none => after.simulation = worker.simulation := by
  cases turn with
  | letter letter =>
    obtain ⟨⟨next, reply⟩, hhandle, hlast, -⟩ := Step.bind_eq_ok h
    cases hlast
    exact simulation_of_handle hhandle
  | tick now =>
    obtain ⟨next, htick, hlast, -⟩ := Step.bind_eq_ok h
    cases hlast
    exact simulation_of_tick htick

/-- What a worker does, its simulation does that is asked for the same. -/
theorem simulation_of_serveAll (h : (first.serveAll turns).result = .ok (worker, replies)) :
    worker.clock = turns.foldl Turn.clock first.clock ∧ ∃ history,
      (first.simulation.respondAll (operations first.clock turns)).result =
        .ok (worker.simulation, history) := by
  induction turns using List.reverseRecOn generalizing worker replies with
  | nil =>
    cases h
    exact ⟨rfl, [], rfl⟩
  | append_singleton earlier turn ih =>
    rw [serveAll_concat] at h
    obtain ⟨⟨before, given⟩, hbefore, h, -⟩ := Step.bind_eq_ok h
    obtain ⟨⟨next, more⟩, hserve, h, -⟩ := Step.bind_eq_ok h
    cases h
    obtain ⟨hclock, history, hhistory⟩ := ih hbefore
    obtain ⟨hnext, hasked⟩ := simulation_of_serve hserve
    rw [List.foldl_concat, ← hclock, operations_concat, ← hclock]
    refine ⟨hnext, ?_⟩
    cases hoperation : turn.operation? before.clock with
    | none =>
      rw [hoperation] at hasked
      refine ⟨history, ?_⟩
      rw [Option.toList_none, List.append_nil, hhistory, hasked]
    | some operation =>
      rw [hoperation] at hasked
      obtain ⟨answer, hanswer⟩ := hasked
      refine ⟨history ++ [(operation, answer)], ?_⟩
      rw [Option.toList_some, respondAll_concat]
      exact Step.result_bind_of_ok hhistory (Step.result_bind_of_ok hanswer rfl)

/-- What is left of a timer after some time is what was left before less the total of it, and so depends
on the total only; and no time is lost. Whatever a worker
was asked for before a tick, and however late that and the ticks before it come: as long as the
readings of its clock do not go back, what its simulation is told to let pass adds up, with this
tick, to all the time since the reading that the clock starts from. -/
theorem time_passes_in_full :
    (∀ (abilities : Abilities) (pieces : List Duration),
      (∀ id, (pieces.foldl .tick abilities).remaining? id =
        (abilities.remaining? id).map (· - Duration.total pieces)) ∧
      (pieces.foldl .tick abilities).globalCooldown =
        abilities.globalCooldown - Duration.total pieces ∧
      ∀ others : List Duration, Duration.total pieces = Duration.total others →
        pieces.foldl .tick abilities = others.foldl .tick abilities) ∧
    ∀ (first worker : Worker) (turns : List Turn) (replies : List (Nat × Reply)) (now : Duration),
      (first.serveAll turns).result = .ok (worker, replies) →
      (first.clock.last :: readings (turns ++ [.tick now])).Pairwise (· ≤ ·) →
        (∃ history, (first.simulation.respondAll (operations first.clock turns)).result =
          .ok (worker.simulation, history)) ∧
        ∃ span, worker.TicksBy now span ∧
          Duration.total (spans (operations first.clock turns) ++ [span]) =
            now - first.clock.last := by
  refine ⟨fun abilities pieces => ⟨fun id => ?_, ?_, fun others htotal => ?_⟩,
    fun first worker turns replies now hrun hmonotone => ?_⟩
  · rw [abilities.foldl_tick, abilities.remaining?_tick]
  · rw [abilities.foldl_tick]
    rfl
  · rw [abilities.foldl_tick, abilities.foldl_tick, htotal]
  · obtain ⟨hclock, hhistory⟩ := simulation_of_serveAll hrun
    refine ⟨hhistory, _, worker.ticksBy_lap now, ?_⟩
    have hsame : spans (operations first.clock (turns ++ [.tick now])) =
        spans (operations first.clock turns) ++ [(worker.clock.lap now).1] := by
      rw [operations_concat, ← hclock, spans, List.filterMap_append]
      rfl
    have hlast := last_eq hmonotone
    rw [List.foldl_concat, hsame] at hlast
    have hreading : now = first.clock.last + _ := hlast
    exact Duration.ext (Nat.eq_sub_of_add_eq' (congrArg Duration.nanoseconds hreading).symm)

/-- A worker whose second tick is late, and who admits somebody before it. -/
def lateTurns : List Turn :=
  [.tick .zero, .letter ⟨0, .login Character.sampleLogin none⟩, .tick (.ofMillis 350)]

/-- A tick at half a second lets pass what is left of it; and a second in two pieces is a second. -/
theorem time_passes_late : (∀ abilities : Abilities,
      [.ofMillis 600, .ofMillis 400].foldl .tick abilities =
        [.ofMillis 1000].foldl .tick abilities ∧
      ([.ofMillis 600, .ofMillis 400].foldl .tick abilities).globalCooldown =
        abilities.globalCooldown - .ofMillis 1000) ∧
    ∃ first worker replies span, start? .sample (.ofMillis 100) .zero = some first ∧
      (first.serveAll lateTurns).result = .ok (worker, replies) ∧
      worker.TicksBy (.ofMillis 500) span ∧
      Duration.total (spans (operations first.clock lateTurns) ++ [span]) = .ofMillis 500 := by
  obtain ⟨hpieces, hworker⟩ := time_passes_in_full
  refine ⟨fun abilities => ?_, ?_⟩
  · obtain ⟨-, hcooldown, hsame⟩ := hpieces abilities [.ofMillis 600, .ofMillis 400]
    exact ⟨hsame [.ofMillis 1000] rfl, hcooldown⟩
  have hview : (start? .sample (.ofMillis 100) .zero).map (fun first =>
      ((first.serveAll lateTurns).result.isOk, first.clock.last)) = some (true, .zero) := by
    decide +kernel
  obtain ⟨first, hstart, hview⟩ := Option.map_eq_some_iff.1 hview
  obtain ⟨hok, hlast⟩ := Prod.mk.inj hview
  cases hrun : (first.serveAll lateTurns).result with
  | error fault =>
    rw [hrun] at hok
    cases hok
  | ok outcome =>
    have hmonotone : (first.clock.last :: readings (lateTurns ++ [.tick (.ofMillis 500)])).Pairwise
        (· ≤ ·) := by
      rw [hlast]
      decide
    obtain ⟨-, span, hticks, htotal⟩ :=
      hworker first outcome.1 lateTurns outcome.2 (.ofMillis 500) hrun hmonotone
    rw [hlast] at htotal
    exact ⟨first, outcome.1, outcome.2, span, hstart, hrun, hticks, htotal⟩

end Worker

end CharacterSim
