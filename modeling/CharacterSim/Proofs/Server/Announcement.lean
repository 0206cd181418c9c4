import CharacterSim.Proofs.Server.Presence
import CharacterSim.Server.Worker

/-! Only the worker announces anything: whatever a simulation does, it leaves it to its worker to tell
others who entered, whose client is gone and who left. The worker tells of an operation what its answer
says, and nothing else. -/

namespace CharacterSim

namespace Effect

/-- The event that an effect announces. -/
def event? : Effect → Option ServerEvent
  | published event => some event
  | _ => none

/-- The events that are announced, in order. -/
def events (effects : List Effect) : List ServerEvent := effects.filterMap event?

variable {effects more : List Effect}

@[simp] theorem events_nil : events [] = [] := rfl

@[simp] theorem events_append : events (effects ++ more) = events effects ++ events more :=
  List.filterMap_append

@[simp] theorem events_map_published (announced : List ServerEvent) :
    events (announced.map published) = announced := by
  rw [events, List.filterMap_map]
  exact List.filterMap_some

theorem events_eq_nil (h : ∀ effect ∈ effects, effect.event? = none) : events effects = [] :=
  List.filterMap_eq_nil_iff.2 h

end Effect

namespace Step

variable {α β : Type} {step : Step α}

/-- The step announces nothing. -/
def Discreet (step : Step α) : Prop := ∀ effect ∈ step.effects, effect.event? = none

theorem Discreet.events_eq_nil (h : step.Discreet) : Effect.events step.effects = [] :=
  Effect.events_eq_nil h

theorem Discreet.bind {next : α → Step β} (h : step.Discreet)
    (hnext : ∀ value, (next value).Discreet) : (step >>= next).Discreet := by
  intro effect hmem
  cases hresult : step.result with
  | error fault =>
    rw [bind_of_error hresult] at hmem
    exact h effect hmem
  | ok value =>
    rw [bind_of_ok hresult] at hmem
    rcases List.mem_append.1 hmem with hfirst | hlater
    · exact h effect hfirst
    · exact hnext value effect hlater

/-- What follows a discreet step announces what there is to announce. -/
theorem Discreet.events_bind {value : α} (h : step.Discreet) (hresult : step.result = .ok value)
    (next : α → Step β) :
    Effect.events (step >>= next).effects = Effect.events (next value).effects := by
  rw [bind_of_ok hresult, Effect.events_append, h.events_eq_nil, List.nil_append]

theorem discreet_pure (value : α) : (pure value : Step α).Discreet := by
  intro effect hmem
  cases hmem

theorem discreet_require (kind : ComponentKind) (component : Option α) :
    (require kind component).Discreet := by
  cases component <;> intro effect hmem <;> cases hmem

theorem discreet_emit {effects : List Effect} (h : ∀ effect ∈ effects, effect.event? = none) :
    (emit effects).Discreet :=
  h

theorem discreet_log (level : LogLevel) (message : String) (fields : List (String × String)) :
    (log level message fields).Discreet := by
  intro effect hmem
  obtain rfl := List.mem_singleton.1 hmem
  rfl

theorem discreet_foldlM {operation : β → α → Step β} (h : ∀ state item, (operation state item).Discreet)
    (items : List α) (state : β) : (items.foldlM operation state).Discreet := by
  induction items generalizing state with
  | nil => exact discreet_pure state
  | cons item rest ih =>
    rw [List.foldlM_cons]
    exact (h state item).bind ih

end Step

namespace Character

variable {character : Character}

theorem discreet_isDead : character.isDead.Discreet :=
  (Step.discreet_require _ _).bind fun _ => Step.discreet_pure _

theorem discreet_place : character.place.Discreet :=
  (Step.discreet_require _ _).bind fun _ => Step.discreet_pure _

theorem discreet_name : character.name.Discreet :=
  (Step.discreet_require _ _).bind fun _ => Step.discreet_pure _

/-! ### Every tick -/

theorem discreet_tick (elapsed : Duration) : (character.tick elapsed).Discreet :=
  (Step.discreet_require _ _).bind fun _ => Step.discreet_pure _

theorem discreet_absorb : character.absorb.Discreet := by
  apply (Step.discreet_require _ _).bind
  intro being
  apply Step.Discreet.bind
  · intro effect hmem
    obtain ⟨id, -, hupdate⟩ := List.mem_filterMap.1 hmem
    obtain ⟨record, -, rfl⟩ := Option.map_eq_some_iff.1 hupdate
    rfl
  · intro _
    exact (Step.discreet_require _ _).bind fun _ => Step.discreet_pure _

theorem discreet_flush (channels : SyncChannels) : (character.flush channels).Discreet := by
  rw [flush_eq]
  intro effect hmem
  obtain ⟨message, -, rfl⟩ := List.mem_map.1 hmem
  cases hclient : character.client <;> rfl

theorem discreet_update : character.update.Discreet := by
  apply discreet_absorb.bind
  intro absorbed
  apply discreet_isDead.bind
  intro dead
  cases dead with
  | true => exact Step.discreet_pure absorbed
  | false => exact discreet_flush _

theorem discreet_sendStatus : character.sendStatus.Discreet :=
  discreet_absorb.bind fun _ => discreet_flush _

/-! ### Death, revival and the loss of the client -/

theorem discreet_notify (callback : Option (ScriptHistory → Entity → Entity)) (hook : Hook)
    (history : ScriptHistory) (entity : Entity) :
    (ScriptCallbacks.notify callback hook history entity).Discreet := by
  cases callback with
  | none => exact Step.discreet_pure (entity, history)
  | some change =>
    exact (Step.discreet_emit (by simp [Effect.event?])).bind fun _ => Step.discreet_pure _

theorem discreet_onDeathAccepted (callbacks : ScriptCallbacks) (history : ScriptHistory)
    (entity : Entity) : (callbacks.onDeathAccepted history entity).Discreet := by
  unfold ScriptCallbacks.onDeathAccepted
  split
  · exact (Step.discreet_emit (by simp [Effect.event?])).bind fun _ => Step.discreet_pure _
  · exact Step.discreet_pure _

theorem discreet_die : character.die.Discreet := by
  apply (Step.discreet_require _ _).bind
  intro being
  split
  · exact Step.discreet_pure _
  · exact (discreet_notify _ _ _ _).bind fun _ => Step.discreet_pure _

theorem discreet_applyDamage (amount : Float) : (character.applyDamage amount).Discreet := by
  apply (Step.discreet_require _ _).bind
  intro being
  split
  · exact Step.discreet_pure character
  · split
    · exact Step.discreet_pure character
    · dsimp only
      split
      · exact discreet_die.bind fun _ => Step.discreet_pure _
      · exact Step.discreet_pure _

theorem discreet_respawn : character.respawn.Discreet := by
  apply (Step.discreet_require _ _).bind
  intro being
  split
  · exact (Step.discreet_log _ _ _).bind fun _ => Step.discreet_pure _
  · apply (discreet_onDeathAccepted _ _ _).bind
    rintro ⟨entity, handled, scripted⟩
    cases handled with
    | true => exact Step.discreet_pure _
    | false =>
      apply (Step.discreet_require _ _).bind
      intro revived
      exact (Step.discreet_emit (by simp [Effect.event?])).bind fun _ => Step.discreet_pure _

theorem discreet_cancelTransaction (alive : SessionId → Bool) :
    (character.cancelTransaction alive).Discreet := by
  have hcancel : (character.transaction.cancel alive).Ensures (fun effect => effect.event? = none)
      (fun _ => True) fun _ => True :=
    Transaction.cancel_ensures (fun _ => rfl) (fun _ => rfl) alive
  exact Step.Discreet.bind hcancel.effects fun _ => Step.discreet_pure _

theorem discreet_disconnected (alive : SessionId → Bool) :
    (character.disconnected alive).Discreet := by
  apply (discreet_cancelTransaction alive).bind
  intro detached
  apply discreet_isDead.bind
  intro dead
  cases dead with
  | true => exact discreet_respawn.bind fun _ => Step.discreet_pure _
  | false => exact (Step.discreet_emit (by simp [Effect.event?])).bind fun _ => Step.discreet_pure _

/-! ### Construction -/

theorem discreet_ofMessage {entity : EntityId} {context : CharacterContext} {format : Load Unit}
    {client : Option ClientId} {message : Cursor} :
    (ofMessage entity context format client message).Discreet := by
  intro effect hmem
  obtain ⟨event, rfl⟩ := ofMessage_ensures.effects effect hmem
  rfl

theorem discreet_triggerLoginCallback : character.triggerLoginCallback.Discreet :=
  (discreet_notify _ _ _ _).bind fun _ => Step.discreet_pure _

end Character

namespace Simulation

variable {simulation : Simulation} {entity : EntityId}

theorem discreet_login (payload : List UInt8) (client : Option ClientId) :
    (simulation.login payload client).Discreet := by
  apply Character.discreet_ofMessage.bind
  rintro ⟨outcome, rest⟩
  cases outcome with
  | error refusal => exact Step.discreet_pure _
  | ok character =>
    apply Character.discreet_triggerLoginCallback.bind
    intro greeted
    apply Character.discreet_name.bind
    intro name
    exact (Step.discreet_log _ _ _).bind fun _ => Step.discreet_pure _

theorem discreet_operate {α : Type} {operation : Step (Character × α)} (h : operation.Discreet) :
    (simulation.operate entity operation).Discreet := by
  have hrequests : operation.withRequests.Discreet := h
  exact hrequests.bind fun _ => Step.discreet_pure _

theorem discreet_disconnect (alive : SessionId → Bool) :
    (simulation.disconnect alive entity).Discreet := by
  unfold disconnect
  split
  · exact Step.discreet_pure _
  · apply (discreet_operate (Character.discreet_disconnected alive)).bind
    intro outcome
    exact (Step.discreet_log _ _ _).bind fun _ => Step.discreet_pure _

theorem discreet_respawn : (simulation.respawn entity).Discreet := by
  unfold respawn
  split
  · exact Step.discreet_pure _
  · exact (discreet_operate Character.discreet_respawn).bind fun _ => Step.discreet_pure _

theorem discreet_damage (amount : Float) : (simulation.damage entity amount).Discreet := by
  unfold damage
  split
  · exact Step.discreet_pure _
  · exact (Character.discreet_applyDamage amount).bind fun _ => Step.discreet_pure _

theorem discreet_status : (simulation.status entity).Discreet := by
  unfold status
  split
  · exact Step.discreet_pure _
  · apply Character.discreet_place.bind
    intro place
    apply Character.discreet_name.bind
    intro name
    apply Step.Discreet.bind
    · exact (Step.discreet_require _ _).bind fun _ => Step.discreet_pure _
    · intro lifecycle
      exact Step.discreet_pure _

theorem discreet_forEach {operation : Character → Step Character}
    (h : ∀ character, (operation character).Discreet)
    (characters : SortedMap EntityId Character) : (forEach operation characters).Discreet := by
  apply Step.discreet_foldlM
  intro changed entry
  exact (h entry.2).bind fun _ => Step.discreet_pure _

theorem discreet_applyWarp (characters : SortedMap EntityId Character) (warp : Warp) :
    (applyWarp characters warp).Discreet := by
  unfold applyWarp
  dsimp only
  split
  · exact (Step.discreet_log _ _ _).bind fun _ => Step.discreet_pure _
  · exact (Step.discreet_log _ _ _).bind fun _ => Step.discreet_pure _

theorem discreet_applyRemoval (state : SortedMap EntityId Character × List ServerEvent)
    (entity : EntityId) : (applyRemoval state entity).Discreet := by
  unfold applyRemoval
  split
  · exact Step.discreet_pure _
  · apply Character.discreet_place.bind
    intro place
    exact (Step.discreet_log _ _ _).bind fun _ => Step.discreet_pure _

theorem discreet_tick (elapsed : Duration) : (simulation.tick elapsed).Discreet := by
  apply (discreet_forEach (fun _ => Character.discreet_tick elapsed) _).bind
  intro ticked
  apply (discreet_forEach (fun _ => Character.discreet_update) _).bind
  intro updated
  apply (discreet_forEach (fun _ => Character.discreet_sendStatus) _).bind
  intro sent
  apply (Step.discreet_foldlM discreet_applyWarp _ _).bind
  intro warped
  exact (Step.discreet_foldlM discreet_applyRemoval _ _).bind fun _ => Step.discreet_pure _

/-! ### What is announced of an operation -/

/-- Of an operation that is answered, this is announced, if the simulation is such afterwards. -/
def announcements (after : Simulation) : Operation × Answer → List ServerEvent
  | (_, .login (.ok entity)) =>
    ((after.character? entity).map fun character =>
      .loggedIn entity character.databaseId).toList
  | (.disconnect _ entity, .disconnect (.ok outcome)) => [.disconnected entity outcome]
  | (_, .tick events) => events
  | _ => []

/-- A tick tells of nothing but removals. -/
theorem tells_of_tick {elapsed : Duration} {after : Simulation} {events : List ServerEvent}
    (h : (simulation.tick elapsed).result = .ok (after, events)) :
    ∀ event ∈ events, ∃ entity, event.tells entity = true := by
  rw [tick_eq] at h
  obtain ⟨moved, -, h, -⟩ := Step.bind_eq_ok h
  obtain ⟨left, hleft, h, -⟩ := Step.bind_eq_ok h
  cases h
  have hleave : (simulation.world.removals.foldlM applyRemoval (moved, [])).Ensures Effect.Notes
      (fun _ => True) (Left moved simulation.world.removals) :=
    removals_leave _ fun _ _ _ _ _ => trivial
  exact (hleave.result left hleft).known

end Simulation

/-- The operation that a command asks for, unless it is a mere question. -/
def Command.operation? : Command → Option Simulation.Operation
  | login payload client => some (.login payload client)
  | disconnect entity => some (.disconnect (fun _ => false) entity)
  | damage entity amount => some (.damage entity amount)
  | respawn entity => some (.respawn entity)
  | status _ => none

/-- The character that a reply says was admitted. -/
def Reply.entrant? : Reply → Option EntityId
  | entered (.ok entity) => some entity
  | _ => none

namespace Worker

open Simulation

variable {worker : Worker} {simulation : Simulation} {operation : Operation} {answer : Answer}
  {command : Command}

/-- To handle a command that asks for an operation is to let the simulation do it, to announce it and
to reply. -/
theorem handle_of_respond (h : command.operation? = some operation)
    (hrespond : (worker.simulation.respond operation).result = .ok (simulation, answer)) :
    ∃ reply, (worker.handle command).result = .ok ({ worker with simulation }, reply) ∧
      reply.entrant? = History.admitted? (operation, answer) ∧
      Effect.events (worker.handle command).effects =
        simulation.announcements (operation, answer) := by
  cases command with
  | login payload client =>
    cases h
    obtain ⟨⟨after, outcome⟩, houtcome, hanswer, -⟩ := Step.bind_eq_ok hrespond
    cases hanswer
    refine ⟨.entered outcome, ?_, ?_, ?_⟩
    · rw [handle, Step.bind_of_ok houtcome]
      rfl
    · cases outcome <;> rfl
    · rw [handle, (discreet_login payload client).events_bind houtcome]
      cases outcome with
      | error refusal => rfl
      | ok entity =>
        simp only [loginEvents, announcements]
        cases simulation.character? entity <;> rfl
  | disconnect entity =>
    cases h
    obtain ⟨⟨after, outcome⟩, houtcome, hanswer, -⟩ := Step.bind_eq_ok hrespond
    cases hanswer
    refine ⟨.left outcome, ?_, rfl, ?_⟩
    · rw [handle, Step.bind_of_ok houtcome]
      rfl
    · rw [handle, (discreet_disconnect _).events_bind houtcome]
      cases outcome <;> rfl
  | damage entity amount =>
    cases h
    obtain ⟨⟨after, outcome⟩, houtcome, hanswer, -⟩ := Step.bind_eq_ok hrespond
    cases hanswer
    refine ⟨.done outcome, ?_, rfl, ?_⟩
    · rw [handle, Step.bind_of_ok houtcome]
      rfl
    · rw [handle, (discreet_damage amount).events_bind houtcome]
      rfl
  | respawn entity =>
    cases h
    obtain ⟨⟨after, outcome⟩, houtcome, hanswer, -⟩ := Step.bind_eq_ok hrespond
    cases hanswer
    refine ⟨.done outcome, ?_, rfl, ?_⟩
    · rw [handle, Step.bind_of_ok houtcome]
      rfl
    · rw [handle, discreet_respawn.events_bind houtcome]
      rfl
  | status entity => cases h

/-- A command that asks for no operation changes nothing and is not announced. -/
theorem handle_of_question {entity : EntityId} {found : Option CharacterStatus}
    (h : (worker.simulation.status entity).result = .ok found) :
    (worker.handle (.status entity)).result = .ok (worker, .status found) ∧
      Effect.events (worker.handle (.status entity)).effects = [] := by
  rw [handle, discreet_status.events_bind h, Step.bind_of_ok h]
  exact ⟨rfl, rfl⟩

/-- A tick that leaves time for the next is one of the simulation, which is announced. -/
theorem tick_of_respond {now : Duration} {schedule : Schedule}
    (hnext : worker.schedule.next? now = some schedule)
    (hrespond : (worker.simulation.respond (.tick (now - worker.clock.last))).result =
      .ok (simulation, answer)) :
    (worker.tick now).result = .ok { simulation, clock := ⟨now⟩, schedule } ∧
      Effect.events (worker.tick now).effects =
        simulation.announcements (.tick (now - worker.clock.last), answer) := by
  obtain ⟨⟨after, events⟩, hevents, hanswer, -⟩ := Step.bind_eq_ok hrespond
  cases hanswer
  have htick : worker.tick now = do
      let ticked ← worker.simulation.tick (now - worker.clock.last)
      Step.emit (ticked.2.map .published)
      return { simulation := ticked.1, clock := ⟨now⟩, schedule } := by
    rw [tick, hnext]
    rfl
  constructor
  · rw [htick, Step.bind_of_ok hevents]
    rfl
  · rw [htick, (discreet_tick _).events_bind hevents]
    show Effect.events (events.map .published ++ []) = events
    rw [List.append_nil, Effect.events_map_published]

end Worker

end CharacterSim
