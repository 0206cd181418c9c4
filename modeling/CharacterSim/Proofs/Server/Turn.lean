import CharacterSim.Proofs.Server.Separation

/-! What one operation does to the population of a simulation, whatever its scripts do short of
taking components away. A login admits a character under the next id, the loss of a client requests
a removal, a tick carries out what was requested, and nothing else changes who is there. -/

namespace CharacterSim

namespace Simulation

/-- What an operation answers. -/
inductive Answer where
  | login (result : Except ServerError EntityId)
  | disconnect (result : Except ServerError Disconnect)
  | damage (result : Except ServerError Unit)
  | respawn (result : Except ServerError Unit)
  | tick (events : List ServerEvent)

/-- An operation and its answer. -/
def respond (simulation : Simulation) : Operation → Step (Simulation × Answer)
  | .login payload client => do
    let (simulation, result) ← simulation.login payload client
    return (simulation, .login result)
  | .disconnect alive entity => do
    let (simulation, result) ← simulation.disconnect alive entity
    return (simulation, .disconnect result)
  | .damage entity amount => do
    let (simulation, result) ← simulation.damage entity amount
    return (simulation, .damage result)
  | .respawn entity => do
    let (simulation, result) ← simulation.respawn entity
    return (simulation, .respawn result)
  | .tick elapsed => do
    let (simulation, events) ← simulation.tick elapsed
    return (simulation, .tick events)

/-- The entities that are there. -/
def hosted (simulation : Simulation) : List EntityId := simulation.characters.keys

/-- Once it is told that an entity leaves if it does, and otherwise never. -/
def ToldOnceIf (leaves : Prop) (entity : EntityId) (events : List ServerEvent) : Prop :=
  (leaves → events.countP (·.tells entity) = 1) ∧ (¬ leaves → events.countP (·.tells entity) = 0)

/-- What an operation does to the population, by what it answers. -/
inductive Turn (before after : Simulation) : Operation → Answer → Prop where
  | admits {payload : List UInt8} {client : Option ClientId}
    (hnext : after.nextId = before.nextId + 1)
    (hhosted : ∀ entity, entity ∈ after.hosted ↔ entity = ⟨before.nextId⟩ ∨ entity ∈ before.hosted)
    (hremovals : after.world.removals = before.world.removals) :
    Turn before after (.login payload client) (.login (.ok ⟨before.nextId⟩))
  | detaches {alive : SessionId → Bool} {entity : EntityId} {outcome : Disconnect}
    (hthere : entity ∈ before.hosted) (hnext : after.nextId = before.nextId)
    (hhosted : after.hosted = before.hosted)
    (hremovals : ∀ other, other ∈ after.world.removals ↔
      other ∈ before.world.removals ∨ other = entity) :
    Turn before after (.disconnect alive entity) (.disconnect (.ok outcome))
  | empties {elapsed : Duration} {events : List ServerEvent}
    (hnext : after.nextId = before.nextId)
    (hhosted : ∀ entity, entity ∈ after.hosted ↔
      entity ∈ before.hosted ∧ entity ∉ before.world.removals)
    (hremovals : after.world.removals = [])
    (htold : ∀ entity, ToldOnceIf (entity ∈ before.hosted ∧ entity ∈ before.world.removals) entity
      events) :
    Turn before after (.tick elapsed) (.tick events)
  | refuses {operation : Operation} {answer : Answer} (hnext : after.nextId = before.nextId)
    (hhosted : after.hosted = before.hosted)
    (hremovals : ∀ entity, entity ∈ after.world.removals ↔ entity ∈ before.world.removals)
    (hlogin : ∀ entity, answer ≠ .login (.ok entity))
    (hdisconnect : ∀ outcome, answer ≠ .disconnect (.ok outcome))
    (htick : ∀ events, answer ≠ .tick events) :
    Turn before after operation answer

variable {context : CharacterContext} {characters : SortedMap EntityId Character}
  {entity : EntityId} {character : Character} {mistake : Fault → Prop}

/-! ### One operation -/

/-- Callbacks take no component away, and every character is whole. -/
structure Sound (simulation : Simulation) : Prop where
  callbacks : simulation.context.callbacks.Keeping
  characters : AllWhole simulation.context simulation.characters

variable {simulation after : Simulation}

theorem Sound.setCharacter (h : simulation.Sound)
    (hwhole : character.Whole entity simulation.context) :
    (simulation.setCharacter entity character).Sound :=
  ⟨h.callbacks, h.characters.insert hwhole⟩

theorem mem_hosted_of_character (h : simulation.character? entity = some character) :
    entity ∈ simulation.hosted :=
  SortedMap.mem_keys_iff.2 ⟨character, h⟩

theorem hosted_setCharacter (h : entity ∈ simulation.hosted) (character : Character) :
    (simulation.setCharacter entity character).hosted = simulation.hosted :=
  SortedMap.keys_insert_of_mem h character

/-- What an operation promises: to go on soundly, and to change the population only as its answer
says. -/
def Responds (simulation : Simulation) (operation : Operation) : Prop :=
  (simulation.respond operation).Ensures (fun _ => True) (fun _ => False) fun result =>
    result.1.Sound ∧ simulation.Turn result.1 operation result.2

/-- An error is answered. -/
inductive Answer.Fails : Answer → Prop where
  | login (error : ServerError) : Fails (.login (.error error))
  | disconnect (error : ServerError) : Fails (.disconnect (.error error))
  | damage (error : ServerError) : Fails (.damage (.error error))
  | respawn (error : ServerError) : Fails (.respawn (.error error))

/-- To answer an error and do nothing else is sound. -/
theorem Sound.fails_ensures (h : simulation.Sound) {operation : Operation} {answer : Answer}
    (hfails : answer.Fails) :
    (pure (simulation, answer) : Step (Simulation × Answer)).Ensures (fun _ => True) mistake
      fun result => result.1.Sound ∧ simulation.Turn result.1 operation result.2 := by
  refine Step.ensures_pure ⟨h, .refuses rfl rfl (fun _ => .rfl) ?_ ?_ ?_⟩
  · rintro entity rfl
    cases hfails
  · rintro outcome rfl
    cases hfails
  · rintro events rfl
    cases hfails

theorem Sound.responds_login (h : simulation.Sound) (payload : List UInt8)
    (client : Option ClientId) : simulation.Responds (.login payload client) := by
  unfold Responds
  rw [respond, login]
  simp only [bind_assoc]
  refine Character.ofMessage_whole.bind ?_
  rintro ⟨outcome, rest⟩ hborn
  cases outcome with
  | error refusal =>
    simp only [pure_bind]
    exact h.fails_ensures (.login _)
  | ok character =>
    simp only [bind_assoc]
    refine ((hborn character rfl).triggerLoginCallback_ensures h.callbacks).bind ?_
    intro greeted hgreeted
    obtain ⟨being, hbeing⟩ := hgreeted.complete.being
    simp only [Character.name, Character.requireBeing_eq hbeing, pure_bind, Step.log,
      Step.emit_bind]
    have hsound := h.setCharacter hgreeted
    refine Step.ensures_ok (fun _ _ => trivial) ⟨⟨hsound.callbacks, hsound.characters⟩, ?_⟩
    exact .admits rfl (fun _ => SortedMap.mem_keys_insert) rfl

theorem Sound.responds_damage (h : simulation.Sound) (entity : EntityId) (amount : Float) :
    simulation.Responds (.damage entity amount) := by
  unfold Responds
  rw [respond, damage]
  cases hcharacter : simulation.character? entity with
  | none =>
    simp only [pure_bind]
    exact h.fails_ensures (.damage _)
  | some character =>
    simp only [bind_assoc, pure_bind]
    have hwhole := h.characters entity character hcharacter
    refine (hwhole.applyDamage_ensures h.callbacks amount).bind fun hurt hhurt => ?_
    have hhosted := hosted_setCharacter (mem_hosted_of_character hcharacter) hurt
    exact Step.ensures_pure ⟨h.setCharacter hhurt,
      .refuses rfl hhosted (fun _ => .rfl) (by simp) (by simp) (by simp)⟩

/-- A character operates; what it requests is queued. -/
theorem Sound.operate_ensures {α : Type} {operation : Step (Character × α)}
    (h : simulation.Sound) (outcome : α → List WorldRequest → Prop)
    (hcharacter : simulation.character? entity = some character)
    (hoperation : operation.withRequests.Ensures (fun _ => True) mistake fun answer =>
      answer.1.1.Whole entity simulation.context ∧ outcome answer.1.2 answer.2) :
    (simulation.operate entity operation).Ensures (fun _ => True) mistake fun result =>
      ∃ requests, outcome result.2 requests ∧ result.1.Sound ∧
        result.1.nextId = simulation.nextId ∧ result.1.hosted = simulation.hosted ∧
          result.1.world = simulation.world.enqueueAll requests := by
  refine hoperation.bind ?_
  rintro ⟨⟨changed, answer⟩, requests⟩ ⟨hwhole, houtcome⟩
  have hsound := h.setCharacter hwhole
  have hhosted := hosted_setCharacter (mem_hosted_of_character hcharacter) changed
  exact Step.ensures_pure ⟨requests, houtcome, ⟨hsound.callbacks, hsound.characters⟩, rfl, hhosted,
    rfl⟩

theorem Sound.responds_respawn (h : simulation.Sound) (entity : EntityId) :
    simulation.Responds (.respawn entity) := by
  unfold Responds
  rw [respond, respawn]
  cases hcharacter : simulation.character? entity with
  | none =>
    simp only [pure_bind]
    exact h.fails_ensures (.respawn _)
  | some character =>
    simp only [bind_assoc, pure_bind]
    have hwhole := h.characters entity character hcharacter
    refine (h.operate_ensures (fun _ requests => ∀ other, .removal other ∉ requests)
      hcharacter ?_).bind ?_
    · refine (hwhole.respawn_ensures h.callbacks).withRequests.anyEffects.imp ?_
      rintro answer ⟨hafter, hrequests⟩
      exact ⟨hafter, fun other hmem => by cases hrequests _ hmem⟩
    · rintro ⟨after, result⟩ ⟨requests, hnone, hsound, hnext, hhosted, hworld⟩
      refine Step.ensures_pure ⟨hsound, .refuses hnext hhosted (fun other => ?_) (by simp) (by simp)
        (by simp)⟩
      dsimp only at hworld ⊢
      rw [hworld, WorldQueue.mem_removals_enqueueAll]
      exact or_iff_left (hnone other)

theorem Sound.responds_disconnect (h : simulation.Sound) (alive : SessionId → Bool)
    (entity : EntityId) : simulation.Responds (.disconnect alive entity) := by
  unfold Responds
  rw [respond, disconnect]
  cases hcharacter : simulation.character? entity with
  | none =>
    simp only [pure_bind]
    exact h.fails_ensures (.disconnect _)
  | some character =>
    have hwhole := h.characters entity character hcharacter
    simp only [bind_assoc, pure_bind, Step.log]
    refine (h.operate_ensures (fun outcome requests => ∀ other,
      .removal other ∈ requests ↔ other = entity ∧ outcome = .removed) hcharacter
      (hwhole.disconnected_ensures h.callbacks alive)).bind ?_
    rintro ⟨after, outcome⟩ ⟨requests, hrequests, hsound, hnext, hhosted, hworld⟩
    rw [Step.emit_bind]
    refine Step.ensures_ok (fun _ _ => trivial) ⟨⟨hsound.callbacks, hsound.characters⟩, ?_⟩
    refine .detaches (mem_hosted_of_character hcharacter) hnext hhosted fun other => ?_
    -- either the character or the simulation asks for the removal
    have hqueued : other ∈ after.world.removals ↔
        other ∈ simulation.world.removals ∨ other = entity ∧ outcome = .removed := by
      dsimp only at hworld
      rw [hworld, WorldQueue.mem_removals_enqueueAll, hrequests]
    cases outcome with
    | removed => simpa using hqueued
    | respawned => simp [WorldQueue.enqueue, hqueued]

theorem Sound.responds_tick (h : simulation.Sound) (elapsed : Duration) :
    simulation.Responds (.tick elapsed) := by
  unfold Responds
  rw [respond]
  refine (h.characters.separates elapsed).anyEffects.bind ?_
  rintro ⟨after, events⟩ hseparates
  have hwhole := hseparates.allWhole h.characters
  obtain ⟨hrest, -, hcharacter, htold, -⟩ := hseparates
  dsimp only at hrest hwhole hcharacter htold
  have hthere : ∀ entity, entity ∈ simulation.hosted ↔
      ∃ character, simulation.arrival elapsed entity = some character :=
    fun _ => h.characters.mem_keys_iff_arrival elapsed
  have hsound : after.Sound := by
    rw [hrest]
    exact ⟨h.callbacks, hwhole⟩
  refine Step.ensures_pure ⟨hsound, .empties (by rw [hrest]) (fun entity => ?_) (by rw [hrest])
    fun entity => ?_⟩
  · rw [hthere]
    refine SortedMap.mem_keys_iff.trans ?_
    show (∃ character, after.character? entity = some character) ↔ _
    rw [hcharacter]
    by_cases hmem : entity ∈ simulation.world.removals
    · simp [hmem]
    · simp [hmem]
  · rw [ToldOnceIf, List.countP_eq_length_filter, htold, hthere]
    by_cases hmem : entity ∈ simulation.world.removals
    · cases harrival : simulation.arrival elapsed entity with
      | none => simp
      | some character =>
        obtain ⟨actor, hactor⟩ := (h.characters.arrival_whole harrival).complete.actor
        simp [hmem, Character.farewell, hactor]
    · simp [hmem]

/-- Nothing stops an operation, and it changes the population only as its answer says. -/
theorem Sound.responds (h : simulation.Sound) (operation : Operation) :
    simulation.Responds operation := by
  cases operation with
  | login payload client => exact h.responds_login payload client
  | disconnect alive entity => exact h.responds_disconnect alive entity
  | damage entity amount => exact h.responds_damage entity amount
  | respawn entity => exact h.responds_respawn entity
  | tick elapsed => exact h.responds_tick elapsed

end Simulation

end CharacterSim
