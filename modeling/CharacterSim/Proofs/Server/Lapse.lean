import CharacterSim.Proofs.Ability.Timer
import CharacterSim.Proofs.Server.Acts
import CharacterSim.Proofs.Server.Serialization
import CharacterSim.Proofs.Server.Timekeeping

/-! How timers run down while a worker lets characters in. Nothing is then requested of the world, and
each tick takes from every timer all the time since the tick before; so over a whole run a timer loses
as much as the clock of the worker moves on. -/

namespace CharacterSim

theorem Step.require_eq_ok {α : Type} {kind : ComponentKind} {found : Option α} {component : α}
    (h : (Step.require kind found).result = .ok component) : found = some component := by
  cases found with
  | none => cases h
  | some other =>
    cases h
    rfl

/-- A timer loses nothing by a span without time. -/
theorem Duration.map_sub_self {found : Option Duration} {reading : Duration} :
    (found.map fun left => left - (reading - reading)) = found := by
  have hnone : reading - reading = .zero := Duration.ext (Nat.sub_self _)
  rw [hnone]
  exact Option.map_id'

namespace Character

variable {character after : Character} {timer : AbilityTimer} {elapsed : Duration}

/-- What is left of a timer of the character. -/
def left? (character : Character) (timer : AbilityTimer) : Option Duration :=
  character.entity.abilities?.bind timer.left?

theorem left?_tick (h : (character.tick elapsed).result = .ok after) :
    after.left? timer = (character.left? timer).map fun left => left - elapsed := by
  obtain ⟨abilities, hrequired, hlast, -⟩ := Step.bind_eq_ok h
  have habilities := Step.require_eq_ok hrequired
  cases hlast
  rw [left?, withAbilities, Entity.abilities?_setAbilities, left?, habilities]
  exact AbilityTimer.left?_tick elapsed

/-- To take note of changes leaves timers alone. -/
theorem left?_absorb (h : character.absorb.result = .ok after) :
    after.left? timer = character.left? timer := by
  obtain ⟨being, hbeing, hrest, -⟩ := Step.bind_eq_ok h
  obtain ⟨-, -, hrest, -⟩ := Step.bind_eq_ok hrest
  obtain ⟨abilities, hrequired, -, -⟩ := Step.bind_eq_ok hrest
  have habilities := Step.require_eq_ok hrequired
  rw [absorb_eq (Step.require_eq_ok hbeing) habilities] at h
  cases h
  have hkept : (character.absorbed being abilities).entity.abilities? = some abilities.clearSignals :=
    Entity.abilities?_setAbilities abilities.clearSignals
  rw [left?, hkept, left?, habilities]
  exact AbilityTimer.left?_clearSignals

theorem left?_flush {channels : SyncChannels} (h : (character.flush channels).result = .ok after) :
    after.left? timer = character.left? timer := by
  rw [flush_eq] at h
  cases h
  rfl

theorem left?_update (h : character.update.result = .ok after) :
    after.left? timer = character.left? timer := by
  obtain ⟨absorbed, habsorbed, hrest, -⟩ := Step.bind_eq_ok h
  obtain ⟨dead, -, hrest, -⟩ := Step.bind_eq_ok hrest
  rw [← left?_absorb habsorbed]
  cases dead with
  | true =>
    cases hrest
    rfl
  | false => exact left?_flush hrest

/-- In its turn a character lets time pass for its timers, and does nothing else to them. -/
theorem left?_turn (h : (character.turn elapsed).result = .ok after) :
    after.left? timer = (character.left? timer).map fun left => left - elapsed := by
  obtain ⟨ticked, hticked, hrest, -⟩ := Step.bind_eq_ok h
  obtain ⟨updated, hupdated, hrest, -⟩ := Step.bind_eq_ok hrest
  obtain ⟨absorbed, habsorbed, hflushed, -⟩ := Step.bind_eq_ok hrest
  rw [left?_flush hflushed, left?_absorb habsorbed, left?_update hupdated, left?_tick hticked]

end Character

namespace Simulation

variable {simulation after : Simulation} {entity : EntityId} {timer : AbilityTimer}
  {elapsed : Duration}

/-- What is left of a timer of a character that is there. -/
def left? (simulation : Simulation) (entity : EntityId) (timer : AbilityTimer) : Option Duration :=
  (simulation.character? entity).bind (·.left? timer)

/-- A tick lets time pass for the timers of every character, where nobody is to be moved or removed. -/
theorem left?_of_tick {events : List ServerEvent} (hworld : simulation.world = {})
    (h : (simulation.tick elapsed).result = .ok (after, events)) :
    after.context = simulation.context ∧ after.format = simulation.format ∧ after.world = {} ∧
      ∀ entity timer,
        after.left? entity timer = (simulation.left? entity timer).map fun left => left - elapsed := by
  have hturn : ∀ entity character, simulation.character? entity = some character →
      (character.turn elapsed).Ensures (fun _ => True) (fun _ => True) fun _ => True :=
    fun _ _ _ => Step.ensures_trivial
  have hticks := tick_separates (fun _ _ => trivial) hturn fun _ _ _ _ _ => trivial
  have hseparates := hticks.result _ h
  have hrest : after = { simulation with characters := after.characters, world := {} } :=
    hseparates.rest
  refine ⟨by rw [hrest], by rw [hrest], by rw [hrest], fun entity timer => ?_⟩
  have hcharacter : after.character? entity = simulation.arrival elapsed entity := by
    have hfound := hseparates.character entity
    rwa [hworld, if_neg List.not_mem_nil] at hfound
  rw [left?, hcharacter, left?]
  cases hbefore : simulation.character? entity with
  | none =>
    have hnobody : simulation.arrival elapsed entity = none := by simp [arrival, hbefore]
    rw [hnobody]
    rfl
  | some character =>
    obtain ⟨later, hlater⟩ := hseparates.acted entity character hbefore
    rw [arrival_of_ok hbefore hlater, hworld]
    exact Character.left?_turn hlater

/-- A login admits nobody, or one character under the next id; all others stay as they are. -/
theorem login_cases {payload : List UInt8} {client : Option ClientId}
    {outcome : Except ServerError EntityId}
    (h : (simulation.login payload client).result = .ok (after, outcome)) :
    (∃ error, (simulation.entrant payload client).result = .ok (.error error) ∧
        after = simulation ∧ outcome = .error (.construction error)) ∨
      ∃ character, (simulation.entrant payload client).result = .ok (.ok character) ∧
        after = { simulation.setCharacter ⟨simulation.nextId⟩ character with
          nextId := simulation.nextId + 1 } ∧ outcome = .ok ⟨simulation.nextId⟩ := by
  have hobeyed : (simulation.obey (.login payload client)).result =
      .ok (after, .answered (.login outcome)) :=
    Step.result_bind_of_ok (Step.result_bind_of_ok h rfl) rfl
  rw [obey_login] at hobeyed
  obtain ⟨entered, hentered, hlast, -⟩ := Step.bind_eq_ok hobeyed
  cases entered with
  | error refusal =>
    cases hlast
    exact .inl ⟨refusal, hentered, rfl, rfl⟩
  | ok character =>
    cases hlast
    exact .inr ⟨character, hentered, rfl, rfl⟩

/-- A login does not touch those who are there. -/
theorem left?_of_login {payload : List UInt8} {client : Option ClientId}
    {outcome : Except ServerError EntityId}
    (h : (simulation.login payload client).result = .ok (after, outcome))
    (hother : outcome ≠ .ok entity) : after.left? entity timer = simulation.left? entity timer := by
  obtain ⟨error, -, rfl, -⟩ | ⟨character, -, rfl, houtcome⟩ := login_cases h
  · rfl
  · have hne : entity ≠ ⟨simulation.nextId⟩ := by
      rintro rfl
      exact hother houtcome
    rw [left?, left?]
    exact congrArg (Option.bind · _) (SortedMap.get?_insert_of_ne _ hne _)

end Simulation

/-- The command is to let somebody in. -/
def Command.IsLogin : Command → Prop
  | login .. => True
  | _ => False

namespace Worker

variable {worker after : Worker} {turn : Turn} {replies : List (Nat × Reply)} {entity : EntityId}
  {timer : AbilityTimer} {context : CharacterContext} {format : Load Unit}

/-- Nothing is requested of the world. -/
structure Calm (context : CharacterContext) (format : Load Unit) (worker : Worker) : Prop where
  context : worker.simulation.context = context
  format : worker.simulation.format = format
  world : worker.simulation.world = {}

/-- Who is let in is announced. -/
theorem loggedIn_mem_effects {payload : List UInt8} {client : Option ClientId}
    {simulation : Simulation}
    (h : (worker.simulation.login payload client).result = .ok (simulation, .ok entity)) :
    ∃ databaseId, .published (.loggedIn entity databaseId) ∈
      (worker.handle (.login payload client)).effects := by
  obtain ⟨error, -, -, hrefused⟩ | ⟨character, -, hafter, hentity⟩ := Simulation.login_cases h
  · cases hrefused
  · cases hentity
    have hthere : simulation.character? ⟨worker.simulation.nextId⟩ = some character := by
      rw [hafter]
      exact SortedMap.get?_insert_self ..
    refine ⟨character.databaseId, ?_⟩
    rw [handle, Step.bind_of_ok h]
    simp only [Step.emit_bind, loginEvents, hthere]
    exact List.mem_append_right _ List.mem_cons_self

theorem Calm.serve (h : worker.Calm context format)
    (hlogin : ∀ letter, turn = .letter letter → letter.command.IsLogin)
    (hserve : (worker.serve turn).result = .ok (after, replies)) : after.Calm context format := by
  obtain ⟨-, hasked⟩ := simulation_of_serve hserve
  cases turn with
  | letter letter =>
    obtain ⟨call, command⟩ := letter
    have hcommand := hlogin _ rfl
    cases command with
    | login payload client =>
      obtain ⟨answer, hrespond⟩ := hasked
      obtain ⟨⟨simulation, outcome⟩, hentered, hlast, -⟩ := Step.bind_eq_ok hrespond
      cases hlast
      obtain ⟨error, -, heq, -⟩ | ⟨character, -, heq, -⟩ := Simulation.login_cases hentered
      · exact ⟨heq ▸ h.context, heq ▸ h.format, heq ▸ h.world⟩
      · exact ⟨heq ▸ h.context, heq ▸ h.format, heq ▸ h.world⟩
    | _ => exact hcommand.elim
  | tick now =>
    obtain ⟨answer, hrespond⟩ := hasked
    obtain ⟨⟨simulation, events⟩, hticked, hlast, -⟩ := Step.bind_eq_ok hrespond
    cases hlast
    obtain ⟨hcontext, hformat, hworld, -⟩ := Simulation.left?_of_tick h.world hticked
    exact ⟨hcontext.trans h.context, hformat.trans h.format, hworld⟩

/-- In a turn timers lose as much as the clock of the worker moves on, as long as nobody is let in under
the id of their owner. -/
theorem Calm.left?_serve (h : worker.Calm context format)
    (hlogin : ∀ letter, turn = .letter letter → letter.command.IsLogin)
    (hserve : (worker.serve turn).result = .ok (after, replies))
    (honce : ∀ databaseId,
      .published (.loggedIn entity databaseId) ∉ (worker.serve turn).effects) :
    after.simulation.left? entity timer = (worker.simulation.left? entity timer).map
      fun left => left - (after.clock.last - worker.clock.last) := by
  obtain ⟨hclock, hasked⟩ := simulation_of_serve hserve
  cases turn with
  | letter letter =>
    obtain ⟨call, command⟩ := letter
    have hcommand := hlogin _ rfl
    cases command with
    | login payload client =>
      obtain ⟨answer, hrespond⟩ := hasked
      obtain ⟨⟨simulation, outcome⟩, hentered, hlast, -⟩ := Step.bind_eq_ok hrespond
      cases hlast
      have hother : outcome ≠ .ok entity := by
        rintro rfl
        obtain ⟨databaseId, htold⟩ := loggedIn_mem_effects hentered
        rw [effects_serve_letter] at honce
        exact honce databaseId htold
      rw [Simulation.left?_of_login hentered hother, hclock]
      exact Duration.map_sub_self.symm
    | _ => exact hcommand.elim
  | tick now =>
    obtain ⟨answer, hrespond⟩ := hasked
    obtain ⟨⟨simulation, events⟩, hticked, hlast, -⟩ := Step.bind_eq_ok hrespond
    cases hlast
    obtain ⟨-, -, -, hleft⟩ := Simulation.left?_of_tick h.world hticked
    rw [hleft, hclock]
    rfl

end Worker

namespace Exchange

variable {κ : Type} {exchange next last : Exchange κ} {move : Move} {moves rest : List Move}
  {effects more : List Effect} {worker after : Worker} {entity : EntityId} {timer : AbilityTimer}
  {context : CharacterContext} {format : Load Unit}

/-- What is left of a timer of a character, as long as the worker is there. -/
def left? (exchange : Exchange κ) (entity : EntityId) (timer : AbilityTimer) : Option Duration :=
  exchange.worker?.bind (·.simulation.left? entity timer)

theorem left?_of_worker? (h : exchange.worker? = some worker) :
    exchange.left? entity timer = worker.simulation.left? entity timer := by
  rw [left?, h]
  rfl

/-! ### What a worker does by a move -/

variable [Mailbox κ Letter]

/-- A worker that is there after it was let act came to the end of what it did. -/
theorem result_of_settle {α : Type} {server : Server} {act : Worker → Step (Worker × α)}
    {conclude : Exchange κ → α → List Effect × Exchange κ} (hworker : server.worker = some worker)
    (hconclude : ∀ exchange value, (conclude exchange value).2.server = exchange.server)
    (h : exchange.settle (server.perform act) conclude = (effects, next))
    (hafter : next.worker? = some after) :
    ∃ answer, (act worker).result = .ok (after, answer) ∧ (act worker).effects ⊆ effects := by
  have hthere := (running_of_worker? hafter).2
  cases hresult : (act worker).result with
  | error fault =>
    rw [Server.perform, hworker] at h
    simp only [hresult, settle, Prod.mk.injEq] at h
    rw [← h.2] at hthere
    cases hthere
  | ok outcome =>
    obtain ⟨acted, answer⟩ := outcome
    rw [Server.perform_of_ok hworker hresult] at h
    simp only [settle, Prod.mk.injEq] at h
    obtain ⟨heffects, hnext⟩ := h
    rw [← hnext, hconclude] at hthere
    cases hthere
    exact ⟨answer, rfl, heffects ▸ List.subset_append_left _ _⟩

/-- A worker that is there after a move was there before, and came to the end of its turn. -/
theorem serve_of_move (h : exchange.move move = some (effects, next))
    (hafter : next.worker? = some after) : ∃ worker, exchange.worker? = some worker ∧
      match exchange.turn? move with
      | some turn => ∃ replies, (worker.serve turn).result = .ok (after, replies) ∧
        (worker.serve turn).effects ⊆ effects
      | none => after = worker := by
  cases happens_of_move h with
  | @receive worker letter queue _ _ hworker htake hsettle =>
    have hwaiting : exchange.waiting = letter :: Mailbox.waiting queue := Mailbox.waiting_take htake
    obtain ⟨reply, hhandle, hsubset⟩ := result_of_settle (running_of_worker? hworker).2
      (fun exchange reply => by rw [answer_snd]) hsettle hafter
    refine ⟨worker, hworker, ?_⟩
    rw [turn?, hwaiting]
    refine ⟨[(letter.call, reply)], Step.result_bind_of_ok hhandle rfl, ?_⟩
    rw [Worker.effects_serve_letter]
    exact hsubset
  | @tick worker _ _ hworker hdue hsettle =>
    obtain ⟨answer, hacted, hsubset⟩ := result_of_settle (running_of_worker? hworker).2
      (fun _ _ => rfl) hsettle hafter
    obtain ⟨ticked, hticked, hlast, -⟩ := Step.bind_eq_ok hacted
    cases hlast
    rw [Step.effects_bind_pure] at hsubset
    refine ⟨worker, hworker, [], Step.result_bind_of_ok hticked rfl, ?_⟩
    rw [Worker.effects_serve_tick]
    exact hsubset
  | clone | drop | place | forsake | wait => exact ⟨after, hafter, rfl⟩
  | stop => cases hafter

/-- After a tick the clock of the worker shows the time. -/
theorem clock_of_tick (h : exchange.move .tick = some (effects, next))
    (hafter : next.worker? = some after) : after.clock.last = next.server.now := by
  obtain ⟨worker, -, replies, hserve, -⟩ := serve_of_move h hafter
  rw [(Worker.simulation_of_serve hserve).1]
  cases happens_of_move h with
  | tick hworker hdue hsettle =>
    exact (now_of_settle (Server.now_perform _ _) (fun _ _ => rfl) hsettle).symm

/-- Nothing but a tick sets the clock of a worker. -/
theorem clock_of_ne_tick (h : exchange.move move = some (effects, next)) (htick : move ≠ .tick)
    (hafter : next.worker? = some after) :
    ∃ worker, exchange.worker? = some worker ∧ after.clock = worker.clock := by
  obtain ⟨worker, hworker, hserved⟩ := serve_of_move h hafter
  refine ⟨worker, hworker, ?_⟩
  split at hserved
  · next turn hturn =>
    obtain ⟨replies, hserve, -⟩ := hserved
    cases move with
    | tick => exact absurd rfl htick
    | receive =>
      obtain ⟨letter, -, rfl⟩ := Option.map_eq_some_iff.1 hturn
      exact (Worker.simulation_of_serve hserve).1
    | _ => cases hturn
  · rw [hserved]

/-! ### Letting characters in -/

theorem mem_waiting_of_settle {α : Type} {done : List Effect × Server × Except ServerError α}
    {conclude : Exchange κ → α → List Effect × Exchange κ} {letter : Letter}
    (hconclude : ∀ exchange value, (conclude exchange value).2.queue = exchange.queue)
    (h : exchange.settle done conclude = (effects, next)) (hmem : letter ∈ next.waiting) :
    letter ∈ exchange.waiting := by
  obtain rfl : next = _ := congrArg Prod.snd h.symm
  obtain ⟨told, server, outcome⟩ := done
  cases outcome with
  | ok value =>
    rw [settle] at hmem
    dsimp only at hmem
    rwa [waiting, hconclude] at hmem
  | error refusal =>
    exact absurd hmem (List.eq_nil_iff_forall_not_mem.1 (Mailbox.waiting_close _) letter)

/-- Nothing gets into the queue but what is placed there. -/
theorem mem_waiting_of_move {letter : Letter} (h : exchange.move move = some (effects, next))
    (hmem : letter ∈ next.waiting) :
    letter ∈ exchange.waiting ∨ move = .place letter.command := by
  cases happens_of_move h with
  | @receive worker first queue _ _ hworker htake hsettle =>
    have hwaiting : exchange.waiting = first :: Mailbox.waiting queue := Mailbox.waiting_take htake
    have hrest : letter ∈ Mailbox.waiting queue :=
      mem_waiting_of_settle (fun exchange reply => by rw [answer_snd]) hsettle hmem
    rw [hwaiting]
    exact .inl (List.mem_cons_of_mem _ hrest)
  | tick hworker hdue hsettle => exact .inl (mem_waiting_of_settle (fun _ _ => rfl) hsettle hmem)
  | @place command queue hheld hsend =>
    have hplaced : letter ∈ exchange.waiting ++ [⟨exchange.calls, command⟩] :=
      Mailbox.waiting_send hsend ▸ hmem
    rcases List.mem_append.1 hplaced with hbefore | hnow
    · exact .inl hbefore
    · obtain rfl := List.mem_singleton.1 hnow
      exact .inr rfl
  | clone | drop | forsake | wait => exact .inl hmem
  | stop =>
    exact absurd hmem (List.eq_nil_iff_forall_not_mem.1 (Mailbox.waiting_close _) letter)

/-- The worker is asked for nothing but to let characters in. -/
structure Admits (context : CharacterContext) (format : Load Unit) (exchange : Exchange κ) :
    Prop where
  queued : ∀ letter ∈ exchange.waiting, letter.command.IsLogin
  calm : ∀ worker, exchange.worker? = some worker → worker.Calm context format
  reached : ∀ worker, exchange.worker? = some worker →
    worker.clock.last ≤ exchange.server.now

/-- Who moves places nothing but logins. -/
def Seeks (moves : List Move) : Prop := ∀ command, .place command ∈ moves → command.IsLogin

theorem admits_open {period : Duration} {capacity : Nat}
    (h : Exchange.open? { context, format } period capacity = some exchange) :
    exchange.Admits context format := by
  obtain ⟨first, hfirst, hrest⟩ := Option.bind_eq_some_iff.1 h
  obtain ⟨queue, hqueue, heq⟩ := Option.bind_eq_some_iff.1 hrest
  cases heq
  rw [Worker.start?] at hfirst
  split at hfirst
  · cases hfirst
  · cases hfirst
    have hnone : Mailbox.waiting queue = [] := Mailbox.waiting_open hqueue
    refine ⟨fun letter hmem => ?_, fun worker hworker => ?_, fun worker hworker => ?_⟩
    · exact absurd hmem (List.eq_nil_iff_forall_not_mem.1 hnone letter)
    · cases hworker
      exact ⟨rfl, rfl, rfl⟩
    · cases hworker
      exact Nat.le_refl _

theorem Admits.turn_isLogin (h : exchange.Admits context format) {turn : Worker.Turn}
    (hturn : exchange.turn? move = some turn) :
    ∀ letter, turn = .letter letter → letter.command.IsLogin := by
  rintro letter rfl
  cases move with
  | receive =>
    obtain ⟨posted, hposted, heq⟩ := Option.map_eq_some_iff.1 hturn
    cases heq
    exact h.queued letter (List.mem_of_mem_head? hposted)
  | _ => cases hturn

/-- A turn does not set the clock of the worker back, nor ahead of the time. -/
theorem Admits.clock_of_serve (h : exchange.Admits context format)
    (hworker : exchange.worker? = some worker) {turn : Worker.Turn} {replies : List (Nat × Reply)}
    (hturn : exchange.turn? move = some turn)
    (hserve : (worker.serve turn).result = .ok (after, replies)) :
    worker.clock.last ≤ after.clock.last ∧ after.clock.last ≤ exchange.server.now := by
  have hreached := h.reached worker hworker
  rw [(Worker.simulation_of_serve hserve).1]
  cases turn with
  | letter letter => exact ⟨Nat.le_refl _, hreached⟩
  | tick now =>
    cases move with
    | tick =>
      cases hturn
      exact ⟨hreached, Nat.le_refl _⟩
    | receive =>
      obtain ⟨letter, -, heq⟩ := Option.map_eq_some_iff.1 hturn
      cases heq
    | _ => cases hturn

theorem Admits.step (h : exchange.Admits context format) (hseeks : Seeks [move])
    (hmove : exchange.move move = some (effects, next)) : next.Admits context format := by
  have hnow := now_le_of_move hmove
  refine ⟨fun letter hmem => ?_, fun after hafter => ?_, fun after hafter => ?_⟩
  · rcases mem_waiting_of_move hmove hmem with hbefore | rfl
    · exact h.queued letter hbefore
    · exact hseeks letter.command List.mem_cons_self
  · obtain ⟨worker, hworker, hserved⟩ := serve_of_move hmove hafter
    have hcalm := h.calm worker hworker
    split at hserved
    · next turn hturn =>
      obtain ⟨replies, hserve, -⟩ := hserved
      exact hcalm.serve (h.turn_isLogin hturn) hserve
    · rwa [hserved]
  · obtain ⟨worker, hworker, hserved⟩ := serve_of_move hmove hafter
    split at hserved
    · next turn hturn =>
      obtain ⟨replies, hserve, -⟩ := hserved
      exact Nat.le_trans (h.clock_of_serve hworker hturn hserve).2 hnow
    · rw [hserved]
      exact Nat.le_trans (h.reached worker hworker) hnow

/-- By a move timers lose as much as the clock of the worker moves on, as long as nobody is let in under
the id of their owner. -/
theorem Admits.left?_move (h : exchange.Admits context format) (timer : AbilityTimer)
    (hmove : exchange.move move = some (effects, next)) (hafter : next.worker? = some after)
    (honce : ∀ databaseId, .published (.loggedIn entity databaseId) ∉ effects) :
    ∃ worker, exchange.worker? = some worker ∧ worker.clock.last ≤ after.clock.last ∧
      next.left? entity timer = (exchange.left? entity timer).map
        fun left => left - (after.clock.last - worker.clock.last) := by
  obtain ⟨worker, hworker, hserved⟩ := serve_of_move hmove hafter
  refine ⟨worker, hworker, ?_⟩
  rw [left?_of_worker? hafter, left?_of_worker? hworker]
  split at hserved
  · next turn hturn =>
    obtain ⟨replies, hserve, hsubset⟩ := hserved
    refine ⟨(h.clock_of_serve hworker hturn hserve).1, ?_⟩
    exact (h.calm worker hworker).left?_serve (h.turn_isLogin hturn) hserve
      fun databaseId hmem => honce databaseId (hsubset hmem)
  · rw [hserved, Duration.map_sub_self]
    exact ⟨Nat.le_refl _, rfl⟩

/-! ### Runs -/

theorem run_append (exchange : Exchange κ) (moves rest : List Move) : exchange.run (moves ++ rest) =
    (exchange.run moves).bind fun first =>
      (first.2.run rest).map fun later => (first.1 ++ later.1, later.2) := by
  induction moves generalizing exchange with
  | nil => simp [run]
  | cons move moves ih =>
    rw [List.cons_append, run, run]
    cases hmove : exchange.move move with
    | none => rfl
    | some first =>
      simp only [Option.bind_eq_bind, Option.bind_some, ih]
      cases first.2.run moves with
      | none => rfl
      | some middle =>
        cases hrest : middle.2.run rest with
        | none => simp [hrest]
        | some later => simp [hrest]

/-- The last move of a run comes after the others. -/
theorem run_concat (h : exchange.run (moves ++ [move]) = some (effects, last)) :
    ∃ before middle given, exchange.run moves = some (before, middle) ∧
      middle.move move = some (given, last) := by
  rw [run_append] at h
  obtain ⟨⟨before, middle⟩, hbefore, h⟩ := Option.bind_eq_some_iff.1 h
  obtain ⟨⟨given, next⟩, hgiven, heq⟩ := Option.map_eq_some_iff.1 h
  obtain ⟨first, between, later, hmove, hrest, -⟩ := run_cons hgiven
  cases hrest
  cases heq
  exact ⟨before, middle, first, hbefore, hmove⟩

theorem Seeks.of_sublist (h : Seeks rest) (hsub : moves ⊆ rest) : Seeks moves :=
  fun command hmem => h command (hsub hmem)

theorem Admits.run (h : exchange.Admits context format) (hseeks : Seeks moves)
    (hrun : exchange.run moves = some (effects, last)) : last.Admits context format := by
  induction moves generalizing exchange effects with
  | nil =>
    cases hrun
    exact h
  | cons move rest ih =>
    obtain ⟨first, middle, later, hmove, hrest, -⟩ := run_cons hrun
    have hmiddle := h.step (hseeks.of_sublist (by simp)) hmove
    exact ih hmiddle (hseeks.of_sublist (List.subset_cons_self _ _)) hrest

/-- Over a run timers lose as much as the clock of the worker moves on. -/
theorem Admits.left?_run (h : exchange.Admits context format) (timer : AbilityTimer)
    (hseeks : Seeks moves)
    (hrun : exchange.run moves = some (effects, last)) (hafter : last.worker? = some after)
    (honce : ∀ databaseId, .published (.loggedIn entity databaseId) ∉ effects) :
    ∃ worker, exchange.worker? = some worker ∧ worker.clock.last ≤ after.clock.last ∧
      last.left? entity timer = (exchange.left? entity timer).map
        fun left => left - (after.clock.last - worker.clock.last) := by
  induction moves generalizing exchange effects with
  | nil =>
    cases hrun
    refine ⟨after, hafter, Nat.le_refl _, ?_⟩
    rw [Duration.map_sub_self]
  | cons move rest ih =>
    obtain ⟨first, middle, later, hmove, hrest, rfl⟩ := run_cons hrun
    have hmiddle := h.step (hseeks.of_sublist (by simp)) hmove
    obtain ⟨between, hbetween, hlater, hleft⟩ :=
      ih hmiddle (hseeks.of_sublist (List.subset_cons_self _ _)) hrest
        fun databaseId hmem => honce databaseId (List.mem_append_right _ hmem)
    obtain ⟨worker, hworker, hearlier, hbefore⟩ := h.left?_move timer hmove hbetween
      fun databaseId hmem => honce databaseId (List.mem_append_left _ hmem)
    refine ⟨worker, hworker, Nat.le_trans hearlier hlater, ?_⟩
    rw [hleft, hbefore, Option.map_map]
    have hspan : (between.clock.last - worker.clock.last) +
        (after.clock.last - between.clock.last) = after.clock.last - worker.clock.last :=
      Duration.ext ((Nat.add_comm _ _).trans (Nat.sub_add_sub_cancel hlater hearlier))
    simp only [Function.comp_def, Duration.sub_sub, hspan]

end Exchange

end CharacterSim
