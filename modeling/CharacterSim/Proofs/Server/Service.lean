import CharacterSim.Proofs.Server.Visit
import CharacterSim.Server.Exchange

/-! What a worker does turn by turn: it handles the letters that it is handed, and lets the simulation
tick in between. No turn stops it, whatever it is asked for, as long as scripts take no component away
and its clock has not come to its end. -/

namespace CharacterSim

/-- While there is time for one more tick after this, a tick that is due has one after it. -/
theorem Schedule.exists_next {schedule : Schedule} {now : Duration}
    (hdue : schedule.isDue now = true) (htime : ¬ Schedule.never ≤ now + schedule.period) :
    ∃ next, schedule.next? now = some next ∧ next.period = schedule.period := by
  have hreached : schedule.deadline.nanoseconds ≤ now.nanoseconds := of_decide_eq_true hdue
  have hsoon : ¬ Schedule.never.nanoseconds ≤ now.nanoseconds + schedule.period.nanoseconds := htime
  by_cases hlate : now - schedule.deadline ≤ Schedule.tolerance
  · have hnext : ¬ Schedule.never ≤ schedule.deadline + schedule.period := by
      show ¬ Schedule.never.nanoseconds ≤
        schedule.deadline.nanoseconds + schedule.period.nanoseconds
      omega
    exact ⟨{ schedule with deadline := schedule.deadline + schedule.period },
      by simp [Schedule.next?, hlate, hnext], rfl⟩
  · exact ⟨{ schedule with deadline := now + schedule.period },
      by simp [Schedule.next?, hlate, htime], rfl⟩

/-- Whoever is asked for, there is an answer. -/
theorem Simulation.Sound.exists_status {simulation : Simulation} (h : simulation.Sound)
    (entity : EntityId) : ∃ found, (simulation.status entity).result = .ok found := by
  unfold Simulation.status
  cases hcharacter : simulation.character? entity with
  | none => exact ⟨none, rfl⟩
  | some character =>
    have hcomplete := (h.characters entity character hcharacter).complete
    obtain ⟨being, hbeing⟩ := hcomplete.being
    obtain ⟨actor, hactor⟩ := hcomplete.actor
    have hplace : character.place = pure (actor.map, actor.position) := by
      rw [Character.place, Character.requireActor, hactor]
      rfl
    simp only [hplace, Character.name, Character.lifecycleState, Character.requireBeing_eq hbeing,
      pure_bind]
    exact ⟨_, rfl⟩

namespace Worker

open Simulation

/-- What a worker does at one time. -/
inductive Turn where
  | letter (letter : Letter)
  | tick (now : Duration)

/-- The letter that is handled in a turn. -/
def Turn.letter? : Turn → Option Letter
  | .letter posted => some posted
  | .tick _ => none

/-- The letters that are handled, in order. -/
def letters (turns : List Turn) : List Letter := turns.filterMap Turn.letter?

/-- One turn. The answer is what is replied, and to which call. -/
def serve (worker : Worker) : Turn → Step (Worker × List (Nat × Reply))
  | .letter letter => do
    let (worker, reply) ← worker.handle letter.command
    return (worker, [(letter.call, reply)])
  | .tick now => return (← worker.tick now, [])

/-- One turn after the other, with all that is replied. -/
def serveAll (worker : Worker) (turns : List Turn) : Step (Worker × List (Nat × Reply)) :=
  turns.foldlM (fun state turn => do
    let (worker, replies) ← state.1.serve turn
    return (worker, state.2 ++ replies)) (worker, [])

/-- Those who were admitted, as the replies say. -/
def entrants (replies : List (Nat × Reply)) : List EntityId :=
  replies.filterMap fun reply => reply.2.entrant?

variable {first worker after : Worker} {turns : List Turn} {turn : Turn}
  {replies more : List (Nat × Reply)} {told : List ServerEvent}

@[simp] theorem letters_append (later : List Turn) :
    letters (turns ++ later) = letters turns ++ letters later :=
  List.filterMap_append

@[simp] theorem entrants_append : entrants (replies ++ more) = entrants replies ++ entrants more :=
  List.filterMap_append

theorem serveAll_concat (first : Worker) (turns : List Turn) (turn : Turn) :
    first.serveAll (turns ++ [turn]) = do
      let (worker, replies) ← first.serveAll turns
      let (worker, more) ← worker.serve turn
      return (worker, replies ++ more) := by
  simp [serveAll]

/-- One more turn: its events come after those before. -/
theorem events_serveAll_concat (hrun : (first.serveAll turns).result = .ok (worker, replies))
    (turn : Turn) : Effect.events (first.serveAll (turns ++ [turn])).effects =
      Effect.events (first.serveAll turns).effects ++ Effect.events (worker.serve turn).effects := by
  rw [serveAll_concat, Step.bind_of_ok hrun]
  dsimp only
  rw [Step.effects_bind_pure, Effect.events_append]

/-- One more turn: its replies come after those before. -/
theorem result_serveAll_concat (hrun : (first.serveAll turns).result = .ok (worker, replies))
    (hserve : (worker.serve turn).result = .ok (after, more)) :
    (first.serveAll (turns ++ [turn])).result = .ok (after, replies ++ more) := by
  rw [serveAll_concat, Step.bind_of_ok hrun]
  dsimp only
  rw [Step.bind_of_ok hserve]
  rfl

theorem effects_serve_letter (worker : Worker) (letter : Letter) :
    (worker.serve (.letter letter)).effects = (worker.handle letter.command).effects :=
  Step.effects_bind_pure _ _

theorem effects_serve_tick (worker : Worker) (now : Duration) :
    (worker.serve (.tick now)).effects = (worker.tick now).effects :=
  Step.effects_bind_pure _ _

/-- Replies go to the calls that the letters belong to, one to each. -/
theorem map_fst_of_serve (h : (worker.serve turn).result = .ok (after, more)) :
    more.map Prod.fst = (letters [turn]).map Letter.call := by
  cases turn with
  | letter letter =>
    obtain ⟨⟨next, reply⟩, -, hlast, -⟩ := Step.bind_eq_ok h
    cases hlast
    rfl
  | tick now =>
    obtain ⟨next, -, hlast, -⟩ := Step.bind_eq_ok h
    cases hlast
    rfl

/-! ### Nothing stops a worker -/

/-- What a worker is that has served some turns and replied so, since it was another. -/
structure Served (first : Worker) (turns : List Turn) (worker : Worker)
    (replies : List (Nat × Reply)) : Prop where
  result : (first.serveAll turns).result = .ok (worker, replies)
  calls : replies.map Prod.fst = (letters turns).map Letter.call
  period : worker.schedule.period = first.schedule.period
  chronicles : worker.simulation.Chronicles (entrants replies)
    (Effect.events (first.serveAll turns).effects)

theorem served_start {context : CharacterContext} {format : Load Unit}
    (hkeeping : context.callbacks.Keeping) {period : Duration}
    (h : Worker.start? { context, format } period .zero = some first) :
    first.Served [] first [] ∧ first.schedule.period = period := by
  rw [start?] at h
  split at h
  · cases h
  · cases h
    exact ⟨⟨rfl, rfl, rfl, chronicles_start hkeeping⟩, rfl⟩

/-- One more turn that has come to its end. -/
theorem Served.concat (h : first.Served turns worker replies)
    (hserve : (worker.serve turn).result = .ok (after, more))
    (hperiod : after.schedule.period = worker.schedule.period)
    (hchronicles : after.simulation.Chronicles (entrants replies ++ entrants more)
      (Effect.events (first.serveAll turns).effects ++
        Effect.events (worker.serve turn).effects)) :
    first.Served (turns ++ [turn]) after (replies ++ more) := by
  refine ⟨result_serveAll_concat h.result hserve, ?_, hperiod.trans h.period, ?_⟩
  · rw [List.map_append, h.calls, map_fst_of_serve hserve, letters_append, List.map_append]
  · rwa [entrants_append, events_serveAll_concat h.result]

/-- A letter is handled to the end and replied to. -/
theorem Served.letter (h : first.Served turns worker replies) (letter : Letter) :
    ∃ after reply, (worker.handle letter.command).result = .ok (after, reply) ∧
      first.Served (turns ++ [.letter letter]) after (replies ++ [(letter.call, reply)]) := by
  obtain ⟨call, command⟩ := letter
  have hserve : ∀ {after reply}, (worker.handle command).result = .ok (after, reply) →
      (worker.serve (.letter ⟨call, command⟩)).result = .ok (after, [(call, reply)]) := by
    intro after reply hhandle
    rw [serve, Step.bind_of_ok hhandle]
    rfl
  cases hasked : command.operation? with
  | some operation =>
    obtain ⟨simulation, answer, hrespond, hchronicles⟩ := h.chronicles.respond operation
    obtain ⟨reply, hhandle, hentrant, hevents⟩ := handle_of_respond hasked hrespond
    refine ⟨_, reply, hhandle, h.concat (hserve hhandle) rfl ?_⟩
    have hentered : entrants [(call, reply)] =
        (History.admitted? (operation, answer)).toList := by
      rw [← hentrant]
      cases hreply : reply.entrant? <;> simp [entrants, hreply]
    rw [hentered, effects_serve_letter, hevents]
    exact hchronicles
  | none =>
    cases command with
    | status entity =>
      obtain ⟨found, hfound⟩ := h.chronicles.sound.exists_status entity
      obtain ⟨hhandle, hevents⟩ := handle_of_question hfound
      refine ⟨worker, .status found, hhandle, h.concat (hserve hhandle) rfl ?_⟩
      have hnobody : entrants [(call, Reply.status found)] = [] := rfl
      rw [hnobody, effects_serve_letter, hevents, List.append_nil, List.append_nil]
      exact h.chronicles
    | _ => cases hasked

/-- A tick that is due in time is done. -/
theorem Served.tick (h : first.Served turns worker replies) {now : Duration}
    (hdue : worker.schedule.isDue now = true)
    (htime : ¬ Schedule.never ≤ now + first.schedule.period) :
    ∃ after, (worker.tick now).result = .ok after ∧
      first.Served (turns ++ [.tick now]) after replies := by
  rw [← h.period] at htime
  obtain ⟨schedule, hnext, hperiod⟩ := Schedule.exists_next hdue htime
  obtain ⟨simulation, answer, hrespond, hchronicles⟩ :=
    h.chronicles.respond (.tick (now - worker.clock.last))
  obtain ⟨htick, hevents⟩ := tick_of_respond hnext hrespond
  have hserve : (worker.serve (.tick now)).result =
      .ok ({ simulation, clock := ⟨now⟩, schedule }, []) := by
    rw [serve, Step.bind_of_ok htick]
    rfl
  have hnobody : History.admitted? (.tick (now - worker.clock.last), answer) = none := by
    obtain ⟨⟨next, events⟩, -, hanswer, -⟩ := Step.bind_eq_ok hrespond
    cases hanswer
    rfl
  have hserved : first.Served (turns ++ [.tick now]) { simulation, clock := ⟨now⟩, schedule }
      (replies ++ []) := by
    refine h.concat hserve hperiod ?_
    rw [effects_serve_tick, hevents]
    rwa [hnobody] at hchronicles
  rw [List.append_nil] at hserved
  exact ⟨_, htick, hserved⟩

end Worker

end CharacterSim
