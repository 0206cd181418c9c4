import CharacterSim.Proofs.Server.Survival

/-! Everything that can be asked of a simulation, where no script interferes. A character that dies
while its removal awaits the end of the tick is killed by damage at that very time. -/

namespace CharacterSim

namespace WorldQueue

/-- The removals asked for are queued behind those that were. -/
theorem mem_removals_enqueueAll {queue : WorldQueue} {requests : List WorldRequest}
    {entity : EntityId} : entity ∈ (queue.enqueueAll requests).removals ↔
      entity ∈ queue.removals ∨ .removal entity ∈ requests := by
  induction requests generalizing queue with
  | nil => simp [enqueueAll]
  | cons request rest ih =>
    have hcons : queue.enqueueAll (request :: rest) = (queue.enqueue request).enqueueAll rest := rfl
    rw [hcons, ih]
    cases request with
    | warp other map position => simp [enqueue]
    | removal other => simp [enqueue, or_assoc]

end WorldQueue

namespace Simulation

/-- The operations of a simulation. What they answer is left out. -/
inductive Operation where
  | login (payload : List UInt8) (client : Option ClientId)
  | disconnect (alive : SessionId → Bool) (entity : EntityId)
  | damage (entity : EntityId) (amount : Float)
  | respawn (entity : EntityId)
  | tick (elapsed : Duration)

def perform (simulation : Simulation) : Operation → Step Simulation
  | .login payload client => return (← simulation.login payload client).1
  | .disconnect alive entity => return (← simulation.disconnect alive entity).1
  | .damage entity amount => return (← simulation.damage entity amount).1
  | .respawn entity => return (← simulation.respawn entity).1
  | .tick elapsed => return (← simulation.tick elapsed).1

/-- One operation after the other. -/
def performAll (simulation : Simulation) (operations : List Operation) : Step Simulation :=
  operations.foldlM perform simulation

/-- No script is registered, formats keep to their calls, and every character is intact under its
id. -/
structure Scriptless (simulation : Simulation) : Prop where
  callbacks : simulation.context.callbacks = {}
  format : simulation.format.Proper
  characters : ∀ entity character, simulation.character? entity = some character →
    character.Intact ∧ character.id = entity ∧ character.context = simulation.context

theorem Scriptless.allIntact {simulation : Simulation} (h : simulation.Scriptless) :
    AllIntact simulation.characters :=
  fun entity character hcharacter => (h.characters entity character hcharacter).1

/-- The character with an id is there and is alive. -/
def LivesAt (simulation : Simulation) (entity : EntityId) : Prop :=
  ∃ character, simulation.character? entity = some character ∧ character.Lives

/-- The character with an id is there and is dead. -/
def DeadAt (simulation : Simulation) (entity : EntityId) : Prop :=
  ∃ character, simulation.character? entity = some character ∧ character.Dead

variable {simulation before after : Simulation} {entity other : EntityId} {character : Character}

theorem character?_setCharacter_self :
    (simulation.setCharacter entity character).character? entity = some character :=
  SortedMap.get?_insert_self ..

theorem character?_setCharacter_of_ne (h : other ≠ entity) :
    (simulation.setCharacter entity character).character? other = simulation.character? other :=
  SortedMap.get?_insert_of_ne _ h _

theorem not_deadAt_setCharacter (h : character.Lives) :
    ¬ (simulation.setCharacter entity character).DeadAt entity := by
  rintro ⟨found, hfound, hdead⟩
  cases character?_setCharacter_self.symm.trans hfound
  exact h.not_dead hdead

theorem deadAt_setCharacter_of_ne (h : other ≠ entity) :
    (simulation.setCharacter entity character).DeadAt other ↔ simulation.DeadAt other := by
  rw [DeadAt, DeadAt, character?_setCharacter_of_ne h]

theorem Scriptless.setCharacter (h : simulation.Scriptless) (hintact : character.Intact)
    (hid : character.id = entity) (hcontext : character.context = simulation.context) :
    (simulation.setCharacter entity character).Scriptless where
  callbacks := h.callbacks
  format := h.format
  characters other found hfound := by
    by_cases heq : other = entity
    · subst heq
      cases character?_setCharacter_self.symm.trans hfound
      exact ⟨hintact, hid, hcontext⟩
    · rw [character?_setCharacter_of_ne heq] at hfound
      exact h.characters other found hfound

/-! ### Operations on one character -/

/-- The later state of a simulation in which one character was saved from death. -/
structure Saved (entity : EntityId) (before after : Simulation) : Prop where
  scriptless : after.Scriptless
  saved : ¬ after.DeadAt entity
  others : ∀ other, after.DeadAt other → before.DeadAt other
  removals : ∀ other ≠ entity, other ∈ after.world.removals → other ∈ before.world.removals

theorem Scriptless.saved_setCharacter (h : simulation.Scriptless) (hintact : character.Intact)
    (hid : character.id = entity) (hcontext : character.context = simulation.context)
    (hlives : character.Lives) :
    simulation.Saved entity (simulation.setCharacter entity character) where
  scriptless := h.setCharacter hintact hid hcontext
  saved := not_deadAt_setCharacter hlives
  others other hdead := by
    by_cases heq : other = entity
    · subst heq
      exact absurd hdead (not_deadAt_setCharacter hlives)
    · exact (deadAt_setCharacter_of_ne heq).1 hdead
  removals _ _ hmem := hmem

theorem Saved.enqueueAll (h : before.Saved entity after) {requests : List WorldRequest}
    (hrequests : ∀ other, .removal other ∈ requests → other = entity) :
    before.Saved entity { after with world := after.world.enqueueAll requests } where
  scriptless := ⟨h.scriptless.callbacks, h.scriptless.format, h.scriptless.characters⟩
  saved := h.saved
  others := h.others
  removals other hne hmem := by
    rcases WorldQueue.mem_removals_enqueueAll.1 hmem with hmem | hmem
    · exact h.removals other hne hmem
    · exact absurd (hrequests other hmem) hne

/-- A character that an operation leaves alive, and that asks for no removal but its own. -/
theorem Scriptless.operate_ensures {α : Type} {operation : Step (Character × α)}
    {mistake : Fault → Prop} (h : simulation.Scriptless)
    (hcharacter : simulation.character? entity = some character)
    (hoperation : operation.Ensures (Effect.RemovesAtMost character.id) mistake fun result =>
      character.Persists result.1 ∧ result.1.Lives) :
    (simulation.operate entity operation).Ensures (fun _ => True) mistake fun result =>
      simulation.Saved entity result.1 := by
  obtain ⟨-, hid, hcontext⟩ := h.characters entity character hcharacter
  refine hoperation.withRequests.anyEffects.bind ?_
  rintro ⟨⟨changed, answer⟩, requests⟩ ⟨⟨hpersists, hlives⟩, hrequests⟩
  apply Step.ensures_pure
  have hsaved := h.saved_setCharacter hpersists.intact (hpersists.id.trans hid)
    (hpersists.context.trans hcontext) hlives
  exact hsaved.enqueueAll fun other hmem => (hrequests _ hmem other rfl).trans hid

/-- What one operation of a simulation may do. A character whose death awaits its removal was dead
and awaited it before, unless damage kills it just now. -/
structure Advances (operation : Operation) (before after : Simulation) : Prop where
  scriptless : after.Scriptless
  awaits : ∀ entity ∈ after.world.removals, after.DeadAt entity →
    entity ∈ before.world.removals ∧
      (before.DeadAt entity ∨
        before.LivesAt entity ∧ ∃ amount, operation = .damage entity amount)

theorem Saved.advances (h : before.Saved entity after) (operation : Operation) :
    before.Advances operation after where
  scriptless := h.scriptless
  awaits other hmem hdead := by
    have hne : other ≠ entity := fun heq => h.saved (heq ▸ hdead)
    exact ⟨h.removals other hne hmem, .inl (h.others other hdead)⟩

theorem Scriptless.advances_self (h : simulation.Scriptless) (operation : Operation) :
    simulation.Advances operation simulation :=
  ⟨h, fun _ hmem hdead => ⟨hmem, .inl hdead⟩⟩

variable {mistake : Fault → Prop}

theorem Scriptless.respawn_ensures (h : simulation.Scriptless) (entity : EntityId) :
    (simulation.perform (.respawn entity)).Ensures (fun _ => True) mistake
      (simulation.Advances (.respawn entity)) := by
  rw [perform, respawn]
  cases hcharacter : simulation.character? entity with
  | none => exact Step.ensures_pure (h.advances_self _)
  | some character =>
    obtain ⟨hintact, -, hcontext⟩ := h.characters entity character hcharacter
    have hnone : character.context.callbacks = {} := hcontext ▸ h.callbacks
    simp only [bind_assoc, pure_bind]
    exact (h.operate_ensures hcharacter (hintact.respawn_lives hnone)).bind fun _ hsaved =>
      Step.ensures_pure (hsaved.advances _)

theorem Scriptless.disconnect_ensures (h : simulation.Scriptless) (alive : SessionId → Bool)
    (entity : EntityId) :
    (simulation.perform (.disconnect alive entity)).Ensures (fun _ => True) mistake
      (simulation.Advances (.disconnect alive entity)) := by
  rw [perform, disconnect]
  cases hcharacter : simulation.character? entity with
  | none => exact Step.ensures_pure (h.advances_self _)
  | some character =>
    obtain ⟨hintact, -, hcontext⟩ := h.characters entity character hcharacter
    have hnone : character.context.callbacks = {} := hcontext ▸ h.callbacks
    simp only [bind_assoc, pure_bind, Step.log]
    refine (h.operate_ensures hcharacter (hintact.disconnected_lives hnone alive)).bind ?_
    rintro ⟨after, outcome⟩ hsaved
    rw [Step.emit_bind]
    apply Step.ensures_ok (fun _ _ => trivial)
    cases outcome with
    | respawned =>
      have hown : ∀ other, .removal other ∈ [WorldRequest.removal entity] → other = entity :=
        fun _ hmem => by simpa using hmem
      exact (hsaved.enqueueAll hown).advances _
    | removed => exact hsaved.advances _

theorem Scriptless.damage_ensures (h : simulation.Scriptless) (entity : EntityId)
    (amount : Float) :
    (simulation.perform (.damage entity amount)).Ensures (fun _ => True) mistake
      (simulation.Advances (.damage entity amount)) := by
  rw [perform, damage]
  cases hcharacter : simulation.character? entity with
  | none => exact Step.ensures_pure (h.advances_self _)
  | some character =>
    obtain ⟨hintact, hid, hcontext⟩ := h.characters entity character hcharacter
    simp only [bind_assoc, pure_bind]
    refine (hintact.applyDamage_ensures amount).anyEffects.bind ?_
    intro hurt hedited
    have hpersists := hedited.persists hintact
    have hafter := h.setCharacter hpersists.intact (hpersists.id.trans hid)
      (hpersists.context.trans hcontext)
    refine Step.ensures_pure ⟨hafter, fun other hmem hdead => ⟨hmem, ?_⟩⟩
    by_cases heq : other = entity
    · subst heq
      rcases Character.lives_or_dead hintact.complete with hlives | hdead
      · exact .inr ⟨⟨character, hcharacter, hlives⟩, amount, rfl⟩
      · exact .inl ⟨character, hcharacter, hdead⟩
    · exact .inl ((deadAt_setCharacter_of_ne heq).1 hdead)

theorem Scriptless.login_ensures (h : simulation.Scriptless) (payload : List UInt8)
    (client : Option ClientId) :
    (simulation.perform (.login payload client)).Ensures (fun _ => True) (fun _ => False)
      (simulation.Advances (.login payload client)) := by
  rw [perform, login]
  simp only [bind_assoc]
  have hgentle : simulation.context.callbacks.Gentle := h.callbacks ▸ ScriptCallbacks.gentle_none
  refine (Character.ofMessage_lives hgentle h.format).anyEffects.bind ?_
  rintro ⟨outcome, rest⟩ hborn
  cases outcome with
  | error refusal => exact Step.ensures_pure (h.advances_self _)
  | ok character =>
    obtain ⟨hintact, hid, hcontext, hlives⟩ := hborn character rfl
    obtain ⟨being, hbeing⟩ := hintact.complete.being
    dsimp only
    rw [Character.triggerLoginCallback_of_none (hcontext ▸ h.callbacks), pure_bind,
      Character.name, Character.requireBeing_eq hbeing]
    simp only [pure_bind, Step.log, Step.emit_bind]
    have hadvances := (h.saved_setCharacter hintact hid hcontext hlives).advances
      (.login payload client)
    exact Step.ensures_ok (fun _ _ => trivial)
      ⟨⟨hadvances.scriptless.callbacks, hadvances.scriptless.format,
        hadvances.scriptless.characters⟩, hadvances.awaits⟩

/-- A tick leaves no removal to be awaited. -/
theorem Scriptless.tick_advances (h : simulation.Scriptless) (elapsed : Duration) :
    (simulation.perform (.tick elapsed)).Ensures (fun _ => True) mistake
      (simulation.Advances (.tick elapsed)) := by
  refine (tick_ensures h.allIntact elapsed).bind ?_
  rintro ⟨after, events⟩ ⟨characters, -, hpreserves, hleaving, hrest⟩
  apply Step.ensures_pure
  dsimp only at hrest hleaving ⊢
  rw [hrest]
  refine ⟨⟨h.callbacks, h.format, fun entity character hcharacter => ?_⟩,
    fun _ hmem => by cases hmem⟩
  obtain ⟨earlier, hearlier, hsteady⟩ :=
    hpreserves.get?_before (hleaving.remaining entity character hcharacter)
  obtain ⟨-, hid, hcontext⟩ := h.characters entity earlier hearlier
  exact ⟨hsteady.intact, hsteady.id.trans hid, hsteady.context.trans hcontext⟩

theorem Scriptless.perform_ensures (h : simulation.Scriptless) (operation : Operation) :
    (simulation.perform operation).Ensures (fun _ => True) (fun _ => False)
      (simulation.Advances operation) := by
  cases operation with
  | login payload client => exact h.login_ensures payload client
  | disconnect alive entity => exact h.disconnect_ensures alive entity
  | damage entity amount => exact h.damage_ensures entity amount
  | respawn entity => exact h.respawn_ensures entity
  | tick elapsed => exact h.tick_advances elapsed

/-! ### A simulation -/

/-- A simulation that no one has entered. -/
def sample : Simulation := { context := { registry := .sample } }

/-- Someone enters and goes away. -/
def sampleVisit : List Operation :=
  [.login Character.sampleLogin none, .disconnect (fun _ => false) ⟨1⟩]

end Simulation

end CharacterSim
