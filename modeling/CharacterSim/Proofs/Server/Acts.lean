import CharacterSim.Proofs.Server.Turn

/-! All that can happen to a simulation: somebody enters, time passes, or something is demanded of one
character. Whatever is demanded, the simulation takes the character as it is, puts what it became in
its place and queues what it requested; and in all that happens it can be told which character each
effect is due to. -/

namespace CharacterSim

theorem WorldQueue.enqueueAll_append (queue : WorldQueue) (requests more : List WorldRequest) :
    queue.enqueueAll (requests ++ more) = (queue.enqueueAll requests).enqueueAll more :=
  List.foldl_append

/-- Effects fall into shares, one for each entity and all in their order, and entries in the log. -/
def Effect.SplitInto (share : EntityId → List Effect) (effects : List Effect) : Prop :=
  ∃ labelled : List (Option EntityId × Effect), labelled.map Prod.snd = effects ∧
    (∀ entity, (labelled.filter (·.1 = some entity)).map Prod.snd = share entity) ∧
    ∀ item ∈ labelled, item.1 = none → ∃ event, item.2 = .logged event

namespace Effect

variable {share more : EntityId → List Effect} {effects rest : List Effect}

theorem SplitInto.append (h : SplitInto share effects) (hmore : SplitInto more rest) :
    SplitInto (fun entity => share entity ++ more entity) (effects ++ rest) := by
  obtain ⟨labelled, rfl, hshare, hnobody⟩ := h
  obtain ⟨labelled', rfl, hshare', hnobody'⟩ := hmore
  refine ⟨labelled ++ labelled', List.map_append, fun entity => ?_, fun item hmem => ?_⟩
  · rw [List.filter_append, List.map_append, hshare, hshare']
  · rcases List.mem_append.1 hmem with hmem | hmem
    · exact hnobody item hmem
    · exact hnobody' item hmem

theorem splitInto_of_logged (h : ∀ effect ∈ effects, ∃ event, effect = .logged event) :
    SplitInto (fun _ => []) effects := by
  refine ⟨effects.map (none, ·), by simp [Function.comp_def], fun entity => by simp,
    fun item hmem _ => ?_⟩
  obtain ⟨effect, heffect, rfl⟩ := List.mem_map.1 hmem
  exact h effect heffect

/-- What one entity does is its share alone. -/
theorem splitInto_of_one (entity : EntityId) (effects : List Effect) :
    SplitInto (fun other => if entity = other then effects else []) effects := by
  refine ⟨effects.map (some entity, ·), by simp [Function.comp_def], fun other => ?_,
    fun item hmem hnone => ?_⟩
  · by_cases heq : entity = other
    · simp [heq, List.filter_map, Function.comp_def]
    · simp [heq]
  · obtain ⟨effect, -, rfl⟩ := List.mem_map.1 hmem
    cases hnone

end Effect

namespace Simulation

/-- What can be demanded of one character. -/
inductive Demand where
  | disconnect (alive : SessionId → Bool)
  | damage (amount : Float)
  | respawn
  /-- Who holds the character operates it. What it requests is not queued then. -/
  | mutate (operation : Character.Operation)

/-- One thing that happens to a simulation. -/
inductive Act where
  | login (payload : List UInt8) (client : Option ClientId)
  | tick (elapsed : Duration)
  | demand (entity : EntityId) (demand : Demand)

/-- What is answered to an act. -/
inductive Reply where
  | answered (answer : Answer)
  /-- The character that was to be operated may not be there. -/
  | mutated (answer : Option Character.Answer)

def serve (simulation : Simulation) (operation : Operation) : Step (Simulation × Reply) := do
  let (after, answer) ← simulation.respond operation
  return (after, .answered answer)

def obey (simulation : Simulation) : Act → Step (Simulation × Reply)
  | .login payload client => simulation.serve (.login payload client)
  | .tick elapsed => simulation.serve (.tick elapsed)
  | .demand entity (.disconnect alive) => simulation.serve (.disconnect alive entity)
  | .demand entity (.damage amount) => simulation.serve (.damage entity amount)
  | .demand entity .respawn => simulation.serve (.respawn entity)
  | .demand entity (.mutate operation) =>
    match simulation.character? entity with
    | none => return (simulation, .mutated none)
    | some character => do
      let (character, answer) ← character.respond operation
      return (simulation.setCharacter entity character, .mutated (some answer))

/-! ### Demands -/

/-- What comes of a demand: the character afterwards, what is answered, and what is to be queued. -/
structure Outcome where
  character : Character
  reply : Reply
  requests : List WorldRequest

namespace Demand

/-- What is answered if nobody is there. -/
def refusal (entity : EntityId) : Demand → Reply
  | disconnect _ => .answered (.disconnect (.error (.unknownCharacter entity)))
  | damage _ => .answered (.damage (.error (.unknownCharacter entity)))
  | respawn => .answered (.respawn (.error (.unknownCharacter entity)))
  | mutate _ => .mutated none

/-- What a character does about a demand, whatever else there is in the simulation. -/
def meet (entity : EntityId) (character : Character) : Demand → Step Outcome
  | disconnect alive => do
    let ((after, outcome), requests) ← (character.disconnected alive).withRequests
    Step.log .debug "character disconnected"
      [("entity", entity.text), ("outcome", outcome.text)]
    return ⟨after, .answered (.disconnect (.ok outcome)),
      requests ++ if outcome = .respawned then [.removal entity] else []⟩
  | damage amount => return ⟨← character.applyDamage amount, .answered (.damage (.ok ())), []⟩
  | respawn => do
    let ((after, outcome), requests) ← character.respawn.withRequests
    return ⟨after, .answered (.respawn (outcome.mapError .lifecycle)), requests⟩
  | mutate operation => do
    let (after, answer) ← character.respond operation
    return ⟨after, .mutated (some answer), []⟩

end Demand

/-- The character is put in its place, and what it requested is queued. -/
def install (simulation : Simulation) (entity : EntityId) (outcome : Outcome) :
    Simulation × Reply :=
  ({ simulation.setCharacter entity outcome.character with
      world := simulation.world.enqueueAll outcome.requests }, outcome.reply)

variable {simulation : Simulation} {entity : EntityId} {character : Character}

theorem obey_of_absent (h : simulation.character? entity = none) (demand : Demand) :
    simulation.obey (.demand entity demand) = pure (simulation, demand.refusal entity) := by
  cases demand with
  | disconnect alive => rw [obey, serve, respond, disconnect, h]; rfl
  | damage amount => rw [obey, serve, respond, damage, h]; rfl
  | respawn => rw [obey, serve, respond, Simulation.respawn, h]; rfl
  | mutate operation => rw [obey, h]; rfl

theorem obey_of_present (h : simulation.character? entity = some character) (demand : Demand) :
    simulation.obey (.demand entity demand) =
      demand.meet entity character >>= fun outcome => pure (simulation.install entity outcome) := by
  cases demand with
  | disconnect alive =>
    rw [obey, serve, respond, disconnect, h]
    simp only [operate, Demand.meet, bind_assoc, pure_bind]
    refine bind_congr fun answer => bind_congr fun _ => ?_
    rw [install, WorldQueue.enqueueAll_append]
    cases answer.1.2 <;> rfl
  | damage amount =>
    rw [obey, serve, respond, damage, h]
    simp only [Demand.meet, bind_assoc, pure_bind]
    rfl
  | respawn =>
    rw [obey, serve, respond, Simulation.respawn, h]
    simp only [operate, Demand.meet, bind_assoc, pure_bind]
    rfl
  | mutate operation =>
    rw [obey, h]
    simp only [Demand.meet, bind_assoc, pure_bind]
    rfl

/-- The mistakes that who demands something can make. -/
def Demand.MayFail : Demand → Fault → Prop
  | mutate operation, fault => operation.MayFail fault
  | _, _ => False

/-- No script that comes with a demand takes a component away. -/
def Demand.Keeping : Demand → Prop
  | mutate operation => operation.Keeping
  | _ => True

/-- A faithful character stays faithful, whatever is demanded, and requests nothing for others. -/
theorem Demand.meet_ensures {context : CharacterContext} {demand : Demand}
    (h : character.Faithful entity context) (hkeeping : context.callbacks.Keeping)
    (hdemand : demand.Keeping) :
    (demand.meet entity character).Ensures (fun _ => True) demand.MayFail fun outcome =>
      outcome.character.Faithful entity context ∧
        ∀ request ∈ outcome.requests, request.entity = entity := by
  cases demand with
  | disconnect alive =>
    refine (h.disconnected_ensures hkeeping alive).withRequests.anyEffects.bind ?_
    intro answer hanswer
    obtain ⟨⟨after, outcome⟩, requests⟩ := answer
    obtain ⟨hafter, hrequests⟩ := hanswer
    simp only [Step.log, Step.emit_bind]
    refine Step.ensures_ok (fun _ _ => trivial) ⟨hafter, fun request hmem => ?_⟩
    rcases List.mem_append.1 hmem with hmem | hmem
    · exact hrequests request hmem request rfl
    · split at hmem
      · obtain rfl := List.mem_singleton.1 hmem
        rfl
      · cases hmem
  | damage amount =>
    exact (h.applyDamage_ensures hkeeping amount).anyEffects.bind fun after hafter =>
      Step.ensures_pure ⟨hafter, fun _ hmem => by cases hmem⟩
  | respawn =>
    refine (h.respawn_ensures hkeeping).withRequests.anyEffects.bind ?_
    intro answer hanswer
    obtain ⟨⟨after, outcome⟩, requests⟩ := answer
    obtain ⟨hafter, hrequests⟩ := hanswer
    exact Step.ensures_pure ⟨hafter, fun request hmem => hrequests request hmem request rfl⟩
  | mutate operation =>
    exact (h.respond_ensures hkeeping hdemand).bind fun result hresult =>
      Step.ensures_pure ⟨hresult, fun _ hmem => by cases hmem⟩

/-! ### Logins -/

/-- The character that a login message describes, greeted. Nothing of the simulation counts but the
id that is next and what its characters share. -/
def entrant (simulation : Simulation) (payload : List UInt8) (client : Option ClientId) :
    Step (Except ConstructionError Character) := do
  let entity : EntityId := ⟨simulation.nextId⟩
  let (outcome, _) ← Character.ofMessage entity simulation.context simulation.format client
    (.ofBytes payload)
  match outcome with
  | .error error => return .error error
  | .ok character =>
    let character ← character.triggerLoginCallback
    Step.log .info "character entered the simulation"
      [("entity", entity.text), ("database_id", s!"{character.databaseId.toInt}"),
        ("name", ← character.name)]
    return .ok character

/-- The simulation with a new character, if there is one. -/
def receive (simulation : Simulation) : Except ConstructionError Character → Simulation × Reply
  | .error error => (simulation, .answered (.login (.error (.construction error))))
  | .ok character =>
    ({ simulation.setCharacter ⟨simulation.nextId⟩ character with
        nextId := simulation.nextId + 1 }, .answered (.login (.ok ⟨simulation.nextId⟩)))

theorem obey_login (payload : List UInt8) (client : Option ClientId) :
    simulation.obey (.login payload client) =
      simulation.entrant payload client >>= fun outcome => pure (simulation.receive outcome) := by
  rw [obey, serve, respond, login, entrant]
  simp only [bind_assoc, pure_bind]
  refine bind_congr fun read => ?_
  obtain ⟨outcome, rest⟩ := read
  cases outcome with
  | error error => rfl
  | ok character =>
    simp only [bind_assoc, pure_bind]
    rfl

theorem entrant_faithful (hkeeping : simulation.context.callbacks.Keeping) (payload : List UInt8)
    (client : Option ClientId) :
    (simulation.entrant payload client).Ensures (fun _ => True) (fun _ => False) fun outcome =>
      ∀ character, outcome = .ok character →
        character.Faithful ⟨simulation.nextId⟩ simulation.context := by
  refine Character.ofMessage_faithful.bind ?_
  intro read hborn
  obtain ⟨outcome, rest⟩ := read
  cases outcome with
  | error error => exact Step.ensures_pure fun _ heq => by cases heq
  | ok character =>
    refine ((hborn character rfl).triggerLoginCallback_ensures hkeeping).anyEffects.bind ?_
    intro greeted hgreeted
    obtain ⟨being, hbeing⟩ := hgreeted.complete.being
    simp only [Character.name, Character.requireBeing_eq hbeing, pure_bind, Step.log,
      Step.emit_bind]
    refine Step.ensures_ok (fun _ _ => trivial) fun other heq => ?_
    cases heq
    exact hgreeted

/-! ### What each entity has a share in -/

/-- What the character with an id does by an operation, if it is there. -/
def deeds (operation : Character → Step Character) (characters : SortedMap EntityId Character)
    (entity : EntityId) : List Effect :=
  ((characters.get? entity).map fun character => (operation character).effects).getD []

/-- The effects that an act has by way of one entity: by its login, its turn in a tick, or what is
demanded of it. -/
def share (simulation : Simulation) (act : Act) (entity : EntityId) : List Effect :=
  match act with
  | .login .. => if ⟨simulation.nextId⟩ = entity then (simulation.obey act).effects else []
  | .tick elapsed => deeds (·.turn elapsed) simulation.characters entity
  | .demand other _ => if other = entity then (simulation.obey act).effects else []

variable {operation first second : Character → Step Character}
  {characters before after : SortedMap EntityId Character} {allowed : Effect → Prop}

theorem forEach_splits (h : (forEach operation characters).result = .ok after) :
    Effect.SplitInto (deeds operation characters) (forEach operation characters).effects := by
  have heffects : (forEach operation characters).effects =
      characters.entries.flatMap fun entry => (operation entry.2).effects := by
    refine Step.effects_foldlM (fun state entry next hnext => ?_) h
    obtain ⟨changed, -, -, heq⟩ := Step.bind_eq_ok hnext
    rw [heq, Step.effects_pure, List.append_nil]
  refine ⟨characters.entries.flatMap fun entry =>
    (operation entry.2).effects.map (some entry.1, ·), ?_, fun entity => ?_, fun item hmem hnone => ?_⟩
  · rw [heffects, List.map_flatMap]
    simp [Function.comp_def]
  · rw [deeds, ← characters.flatMap_entries_of_key, List.filter_flatMap, List.map_flatMap]
    congr 1
    funext entry
    by_cases heq : entry.1 = entity
    · simp [heq, List.filter_map, Function.comp_def]
    · simp [heq]
  · obtain ⟨entry, -, hitem⟩ := List.mem_flatMap.1 hmem
    obtain ⟨effect, -, rfl⟩ := List.mem_map.1 hitem
    cases hnone

/-- What a character does by one operation and by another after it. -/
theorem deeds_bind (h : Each first before after) (entity : EntityId) :
    deeds first before entity ++ deeds second after entity =
      deeds (fun character => first character >>= second) before entity := by
  have hrel := h entity
  unfold deeds
  generalize before.get? entity = found at hrel ⊢
  generalize after.get? entity = now at hrel ⊢
  cases hrel with
  | some hresult => simp [Step.bind_of_ok hresult]
  | none => rfl

theorem each_of_forEach (h : (forEach operation characters).result = .ok after) :
    Each operation characters after := by
  have heach : (forEach operation characters).Ensures _ _ _ :=
    forEach_each fun _ _ _ => Step.ensures_trivial
  exact (heach.result after h).1

theorem actAll_splits {elapsed : Duration} (h : (actAll characters elapsed).result = .ok after) :
    Effect.SplitInto (deeds (·.turn elapsed) characters) (actAll characters elapsed).effects := by
  unfold actAll at h ⊢
  obtain ⟨ticked, hticked, hrest, heffects⟩ := Step.bind_eq_ok h
  obtain ⟨updated, hupdated, hsent, hmore⟩ := Step.bind_eq_ok hrest
  rw [heffects, hmore]
  have hsplits := (forEach_splits hticked).append ((forEach_splits hupdated).append
    (forEach_splits hsent))
  simp only [deeds_bind (each_of_forEach hupdated), deeds_bind (each_of_forEach hticked)] at hsplits
  exact hsplits

theorem obey_tick (elapsed : Duration) : simulation.obey (.tick elapsed) =
    simulation.tick elapsed >>= fun outcome => pure (outcome.1, .answered (.tick outcome.2)) := by
  rw [obey, serve, respond]
  simp only [bind_assoc, pure_bind]

theorem moved_splits {elapsed : Duration} (h : (simulation.moved elapsed).result = .ok after) :
    Effect.SplitInto (deeds (·.turn elapsed) simulation.characters)
      (simulation.moved elapsed).effects := by
  rw [moved_eq] at h ⊢
  obtain ⟨acted, hacted, -, heffects⟩ := Step.bind_eq_ok h
  rw [heffects]
  have hwarps : Effect.SplitInto (fun _ => [])
      (simulation.world.warps.foldlM applyWarp acted).effects := by
    refine Effect.splitInto_of_logged fun effect hmem => ?_
    have hland : (simulation.world.warps.foldlM applyWarp acted).Ensures _ (fun _ => True) _ :=
      warps_land acted simulation.world.warps
    rcases hland.effects effect hmem with ⟨event, heq, -⟩ | ⟨warp, -, heq, -⟩
    · exact ⟨event, heq⟩
    · exact ⟨_, heq⟩
  have hsplits := (actAll_splits hacted).append hwarps
  simp only [List.append_nil] at hsplits
  exact hsplits

theorem tick_splits {elapsed : Duration} {outcome : Simulation × List ServerEvent}
    (h : (simulation.tick elapsed).result = .ok outcome) :
    Effect.SplitInto (deeds (·.turn elapsed) simulation.characters)
      (simulation.tick elapsed).effects := by
  rw [tick_eq] at h ⊢
  obtain ⟨moved, hmoved, hrest, heffects⟩ := Step.bind_eq_ok h
  obtain ⟨left, -, -, hmore⟩ := Step.bind_eq_ok hrest
  rw [heffects, hmore, Step.effects_pure, List.append_nil]
  have hremovals : Effect.SplitInto (fun _ => [])
      (simulation.world.removals.foldlM applyRemoval (moved, [])).effects := by
    refine Effect.splitInto_of_logged fun effect hmem => ?_
    have hleave : (simulation.world.removals.foldlM applyRemoval (moved, [])).Ensures _
        (fun _ => True) _ := removals_leave simulation.world.removals fun _ _ _ _ _ => trivial
    obtain ⟨event, heq, -⟩ := hleave.effects effect hmem
    exact ⟨event, heq⟩
  have hsplits := (moved_splits hmoved).append hremovals
  simp only [List.append_nil] at hsplits
  exact hsplits

/-- Every effect of an act is the share of one entity, or an entry in the log. -/
theorem obey_splits {act : Act} {outcome : Simulation × Reply}
    (h : (simulation.obey act).result = .ok outcome) :
    Effect.SplitInto (simulation.share act) (simulation.obey act).effects := by
  cases act with
  | login payload client => exact Effect.splitInto_of_one _ _
  | demand entity demand => exact Effect.splitInto_of_one _ _
  | tick elapsed =>
    rw [obey_tick] at h ⊢
    obtain ⟨ticked, hticked, -, heffects⟩ := Step.bind_eq_ok h
    rw [heffects, Step.effects_pure, List.append_nil]
    exact tick_splits hticked

end Simulation

end CharacterSim
