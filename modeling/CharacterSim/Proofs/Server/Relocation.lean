import CharacterSim.Proofs.Character.Revival
import CharacterSim.Proofs.Server.Presence

/-! Where characters are, when no script interferes. A character is where it entered until the first
tick after its first revival is over, and at the respawn point from then on; that is also what is
told of it when it leaves. -/

namespace CharacterSim

/-- A character that entered at some place is at another, which is the respawn point if the character
was revived and the same place otherwise. -/
def CharacterContext.Locates (context : CharacterContext) (revived : Prop)
    (entered place : MapId × Position) : Prop :=
  (revived → place = context.config.respawn.place) ∧ (¬ revived → place = entered)

namespace Simulation

namespace History

/-- The entity that an operation revived. -/
def revived? : Operation × Answer → Option EntityId
  | (.respawn entity, .respawn (.ok ())) => some entity
  | (.disconnect _ entity, .disconnect (.ok .respawned)) => some entity
  | _ => none

/-- An entity was revived. -/
def Revived (history : History) (entity : EntityId) : Prop := history.Met revived? entity

/-- A tick has passed since. -/
def Resettled (history : History) (entity : EntityId) : Prop :=
  history.MetBeforeTick revived? entity

/-- A login was answered by an entity, and its message describes a character at a place. -/
def EntersAt (context : CharacterContext) (format : Load Unit) (history : History)
    (entity : EntityId) (place : MapId × Position) : Prop :=
  ∃ payload client character rest, (.login payload client, .login (.ok entity)) ∈ history ∧
    (Character.ofMessage entity context format client (.ofBytes payload)).result =
      .ok (.ok character, rest) ∧ character.place.result = .ok place

variable {context : CharacterContext} {format : Load Unit} {history : History} {entity : EntityId}
  {place : MapId × Position} {turn : Operation × Answer}

theorem EntersAt.concat (h : history.EntersAt context format entity place) :
    EntersAt context format (history ++ [turn]) entity place := by
  obtain ⟨payload, client, character, rest, hmem, hborn⟩ := h
  exact ⟨payload, client, character, rest, List.mem_append_left _ hmem, hborn⟩

theorem revived?_eq_some (h : revived? turn = some entity) :
    admitted? turn = none ∧ ∀ elapsed events, turn ≠ (.tick elapsed, .tick events) := by
  unfold revived? at h
  split at h
  · exact ⟨rfl, fun _ _ heq => by cases heq⟩
  · exact ⟨rfl, fun _ _ heq => by cases heq⟩
  · cases h

end History

/-- The entity that an operation revives if it is dead. -/
def Operation.reviving? : Operation → Option EntityId
  | .respawn entity => some entity
  | .disconnect _ entity => some entity
  | _ => none

theorem History.reviving?_of_revived? {operation : Operation} {answer : Answer} {entity : EntityId}
    (h : revived? (operation, answer) = some entity) : operation.reviving? = some entity := by
  unfold revived? at h
  split at h
  · next heq => cases heq; exact h
  · next heq => cases heq; exact h
  · cases h

/-- The placement of the character with an id, if it is there. -/
def actorAt? (simulation : Simulation) (entity : EntityId) : Option Actor :=
  (simulation.character? entity).bind (·.entity.actor?)

/-- The warp of the revived. -/
def revivalWarp (context : CharacterContext) (entity : EntityId) : Warp :=
  ⟨entity, context.config.respawn.map, context.config.respawn.position⟩

/-- What one operation does to where characters are and will be, by what it answers. -/
inductive Moves (before after : Simulation) : Operation → Answer → Prop where
  | enters {payload : List UInt8} {client : Option ClientId} {character : Character}
    {rest : Cursor}
    (hborn : (Character.ofMessage ⟨before.nextId⟩ before.context before.format client
      (.ofBytes payload)).result = .ok (.ok character, rest))
    (hcharacters : after.characters = before.characters.insert ⟨before.nextId⟩ character)
    (hworld : after.world = before.world) :
    Moves before after (.login payload client) (.login (.ok ⟨before.nextId⟩))
  | revives {operation : Operation} {answer : Answer} {entity : EntityId}
    (hrevived : History.revived? (operation, answer) = some entity)
    (hdead : before.DeadAt entity) (hlives : after.LivesAt entity)
    (hactors : after.actorAt? = before.actorAt?)
    (hwarps : after.world.warps = before.world.warps ++ [revivalWarp before.context entity]) :
    Moves before after operation answer
  | lands {elapsed : Duration} {events : List ServerEvent}
    (hseparates : before.Separates elapsed (after, events)) :
    Moves before after (.tick elapsed) (.tick events)
  | stays {operation : Operation} {answer : Answer}
    (hadmitted : History.admitted? (operation, answer) = none)
    (hrevived : History.revived? (operation, answer) = none)
    (hspared : ∀ entity, operation.reviving? = some entity → ¬ before.DeadAt entity)
    (htick : ∀ elapsed events, (operation, answer) ≠ (.tick elapsed, .tick events))
    (hactors : after.actorAt? = before.actorAt?)
    (hwarps : after.world.warps = before.world.warps) :
    Moves before after operation answer

/-- An operation comes to its end, and moves characters only as its answer says. -/
def Relocates (simulation : Simulation) (operation : Operation) : Prop :=
  (simulation.respond operation).Ensures (fun _ => True) (fun _ => False) fun result =>
    result.1.context = simulation.context ∧ result.1.format = simulation.format ∧
      simulation.Moves result.1 operation result.2

variable {simulation before after : Simulation} {entity other : EntityId}
  {character changed : Character} {mistake : Fault → Prop}

theorem actorAt?_eq (h : simulation.character? entity = some character) :
    simulation.actorAt? entity = character.entity.actor? := by
  rw [actorAt?, h, Option.bind_some]

theorem actorAt?_setCharacter (h : simulation.character? entity = some character)
    (hactor : changed.entity.actor? = character.entity.actor?) :
    (simulation.setCharacter entity changed).actorAt? = simulation.actorAt? := by
  funext other
  by_cases heq : other = entity
  · rw [heq, actorAt?_eq character?_setCharacter_self, actorAt?_eq h, hactor]
  · rw [actorAt?, character?_setCharacter_of_ne heq, actorAt?]

theorem warns_warpDropped : (Effect.warpDropped entity).Warns := ⟨_, rfl, rfl⟩

/-- A character with warps to a place of its own ends up there, and one without stays. -/
theorem place_landed {warps : List Warp} {actor : Actor} {place : MapId × Position}
    (hactor : character.entity.actor? = some actor)
    (hwarps : ∀ warp ∈ warps, warp.entity = entity → (warp.map, warp.position) = place) :
    ∃ moved, (character.landed entity warps).entity.actor? = some moved ∧
      ((∃ warp ∈ warps, warp.entity = entity) → moved.place = place) ∧
      ((∀ warp ∈ warps, warp.entity ≠ entity) → moved.place = actor.place) := by
  induction warps using List.reverseRecOn with
  | nil =>
    refine ⟨actor, hactor, ?_, fun _ => rfl⟩
    rintro ⟨_, hmem, -⟩
    cases hmem
  | append_singleton earlier warp ih =>
    obtain ⟨moved, hmoved, hown, hnone⟩ := ih fun other hmem =>
      hwarps other (List.mem_append_left _ hmem)
    unfold Character.landed at hmoved ⊢
    by_cases heq : warp.entity = entity
    · have hlast : ((earlier ++ [warp]).filter (·.entity = entity)).foldl Character.movedTo character =
          ((earlier.filter (·.entity = entity)).foldl Character.movedTo character).movedTo warp := by
        simp [heq]
      rw [hlast, Character.movedTo, hmoved]
      refine ⟨moved.moveTo warp.map warp.position, rfl, fun _ => ?_, fun hnot => ?_⟩
      · exact hwarps warp (by simp) heq
      · exact absurd heq (hnot warp (by simp))
    · have hlast : (earlier ++ [warp]).filter (·.entity = entity) =
          earlier.filter (·.entity = entity) := by simp [heq]
      rw [hlast]
      refine ⟨moved, hmoved, ?_, fun hnot =>
        hnone fun other hmem => hnot other (List.mem_append_left _ hmem)⟩
      rintro ⟨other, hmem, hother⟩
      rcases List.mem_append.1 hmem with hmem | hmem
      · exact hown ⟨other, hmem, hother⟩
      · exact absurd (List.mem_singleton.1 hmem ▸ hother) heq

/-! ### One operation -/

/-- What it takes for a character to be revived, or not to be, at the request of its client. -/
theorem moves_of_revives {α : Type} {revived : α → Prop} {spared requests : List WorldRequest}
    {outcome : α} {operation : Operation} {answer : Answer}
    (hcharacter : simulation.character? entity = some character)
    (hreviving : operation.reviving? = some entity)
    (hrevives : character.Revives entity simulation.context revived spared
      ((changed, outcome), requests))
    (hanswer : revived outcome → History.revived? (operation, answer) = some entity)
    (hspared : ¬ revived outcome → History.revived? (operation, answer) = none ∧
      History.admitted? (operation, answer) = none ∧
      ∀ elapsed events, (operation, answer) ≠ (.tick elapsed, .tick events))
    (hnone : ∀ queue : WorldQueue, (queue.enqueueAll spared).warps = queue.warps)
    (hcharacters : after.characters = (simulation.setCharacter entity changed).characters)
    (hwarps : after.world.warps = (simulation.world.enqueueAll requests).warps) :
    simulation.Moves after operation answer := by
  have hactors : after.actorAt? = simulation.actorAt? := by
    rw [← actorAt?_setCharacter hcharacter hrevives.actor]
    funext other
    rw [actorAt?, actorAt?, character?, character?, hcharacters]
  by_cases hdead : character.Dead
  · obtain ⟨hrevived, hlives, hrequests⟩ := hrevives.dead hdead
    dsimp only at hrevived hlives hrequests
    have hthere : after.character? entity = some changed := by
      rw [character?, hcharacters]
      exact character?_setCharacter_self
    refine .revives (hanswer hrevived) ⟨character, hcharacter, hdead⟩ ⟨changed, hthere, hlives⟩
      hactors ?_
    rw [hwarps, hrequests]
    rfl
  · obtain ⟨hnot, hrequests⟩ := hrevives.alive hdead
    dsimp only at hnot hrequests
    obtain ⟨hrevived, hadmitted, htick⟩ := hspared hnot
    refine .stays hadmitted hrevived (fun other heq => ?_) htick hactors ?_
    · cases hreviving.symm.trans heq
      rintro ⟨found, hfound, hdying⟩
      cases hcharacter.symm.trans hfound
      exact hdead hdying
    · rw [hwarps, hrequests, hnone]

/-- A failure is answered, and nothing else is done. -/
theorem relocates_of_fails {answer : Answer} {operation : Operation} (hfails : answer.Fails)
    (habsent : ∀ entity, operation.reviving? = some entity → simulation.character? entity = none) :
    (pure (simulation, answer) : Step (Simulation × Answer)).Ensures (fun _ => True) mistake
      fun result => result.1.context = simulation.context ∧
        result.1.format = simulation.format ∧ simulation.Moves result.1 operation result.2 := by
  refine Step.ensures_pure ⟨rfl, rfl, .stays ?_ ?_ (fun entity heq => ?_) ?_ rfl rfl⟩
  · cases hfails <;> rfl
  · cases hfails <;> cases operation <;> rfl
  · rintro ⟨character, hcharacter, -⟩
    cases (habsent entity heq).symm.trans hcharacter
  · cases hfails <;> exact fun _ _ heq => by cases heq

theorem relocates_login (hnone : simulation.context.callbacks = {}) (payload : List UInt8)
    (client : Option ClientId) : simulation.Relocates (.login payload client) := by
  unfold Relocates
  rw [respond, login]
  simp only [bind_assoc]
  refine Character.ofMessage_whole.result_eq.bind ?_
  rintro ⟨outcome, rest⟩ ⟨hwhole, hborn⟩
  cases outcome with
  | error refusal =>
    simp only [pure_bind]
    exact relocates_of_fails (.login _) fun _ heq => by cases heq
  | ok character =>
    have hcharacter := hwhole character rfl
    obtain ⟨being, hbeing⟩ := hcharacter.complete.being
    simp only [Character.triggerLoginCallback_of_none (hcharacter.context ▸ hnone), pure_bind,
      Character.name, Character.requireBeing_eq hbeing, Step.log, bind_assoc, Step.emit_bind]
    exact Step.ensures_ok (fun _ _ => trivial) ⟨rfl, rfl, .enters hborn rfl rfl⟩

theorem Sound.relocates_damage (h : simulation.Sound) (hnone : simulation.context.callbacks = {})
    (entity : EntityId) (amount : Float) : simulation.Relocates (.damage entity amount) := by
  unfold Relocates
  rw [respond, damage]
  cases hcharacter : simulation.character? entity with
  | none =>
    simp only [pure_bind]
    exact relocates_of_fails (.damage _) fun _ heq => by cases heq
  | some character =>
    simp only [bind_assoc, pure_bind]
    have hwhole := h.characters entity character hcharacter
    refine (hwhole.applyDamage_stays hnone amount).bind fun hurt hactor => ?_
    exact Step.ensures_pure ⟨rfl, rfl, .stays rfl rfl (fun _ heq => by cases heq)
      (fun _ _ heq => by cases heq) (actorAt?_setCharacter hcharacter hactor) rfl⟩

theorem Sound.relocates_respawn (h : simulation.Sound) (hnone : simulation.context.callbacks = {})
    (entity : EntityId) : simulation.Relocates (.respawn entity) := by
  unfold Relocates
  rw [respond, respawn]
  cases hcharacter : simulation.character? entity with
  | none =>
    simp only [pure_bind]
    exact relocates_of_fails (.respawn _) fun _ heq => by cases heq; exact hcharacter
  | some character =>
    have hwhole := h.characters entity character hcharacter
    simp only [operate, bind_assoc, pure_bind]
    refine (hwhole.respawn_revives hnone).bind ?_
    rintro ⟨⟨changed, outcome⟩, requests⟩ hrevives
    refine Step.ensures_pure ⟨rfl, rfl, moves_of_revives hcharacter rfl hrevives ?_ ?_
      (fun _ => rfl) rfl rfl⟩
    · rintro rfl
      rfl
    · intro hnot
      refine ⟨?_, rfl, fun _ _ heq => by cases heq⟩
      cases outcome with
      | ok result => exact absurd rfl hnot
      | error refusal => rfl

theorem Sound.relocates_disconnect (h : simulation.Sound)
    (hnone : simulation.context.callbacks = {}) (alive : SessionId → Bool) (entity : EntityId) :
    simulation.Relocates (.disconnect alive entity) := by
  unfold Relocates
  rw [respond, disconnect]
  cases hcharacter : simulation.character? entity with
  | none =>
    simp only [pure_bind]
    exact relocates_of_fails (.disconnect _) fun _ heq => by cases heq; exact hcharacter
  | some character =>
    have hwhole := h.characters entity character hcharacter
    simp only [operate, bind_assoc, pure_bind, Step.log]
    refine (hwhole.disconnected_revives hnone alive).bind ?_
    rintro ⟨⟨changed, outcome⟩, requests⟩ hrevives
    rw [Step.emit_bind]
    refine Step.ensures_ok (fun _ _ => trivial) ⟨rfl, rfl, moves_of_revives hcharacter rfl
      hrevives ?_ ?_ (fun _ => rfl) rfl ?_⟩
    · rintro rfl
      rfl
    · intro hnot
      refine ⟨?_, rfl, fun _ _ heq => by cases heq⟩
      cases outcome with
      | respawned => exact absurd rfl hnot
      | removed => rfl
    · cases outcome <;> rfl

theorem Sound.relocates (h : simulation.Sound) (hnone : simulation.context.callbacks = {})
    (operation : Operation) : simulation.Relocates operation := by
  cases operation with
  | login payload client => exact relocates_login hnone payload client
  | disconnect alive entity => exact h.relocates_disconnect hnone alive entity
  | damage entity amount => exact h.relocates_damage hnone entity amount
  | respawn entity => exact h.relocates_respawn hnone entity
  | tick elapsed =>
    unfold Relocates
    rw [respond]
    refine (h.characters.separates elapsed).anyEffects.bind ?_
    rintro ⟨after, events⟩ hseparates
    have hrest := hseparates.rest
    dsimp only at hrest
    refine Step.ensures_pure ⟨by rw [hrest], by rw [hrest], .lands hseparates⟩

/-- The dead are revived by a respawn and by the loss of their client, and the living by nothing. -/
theorem Sound.revived?_eq_some_iff (h : before.Sound) (hnone : before.context.callbacks = {})
    {operation : Operation} {answer : Answer}
    (hafter : (before.respond operation).result = .ok (after, answer)) :
    History.revived? (operation, answer) = some entity ↔
      operation.reviving? = some entity ∧ before.DeadAt entity := by
  obtain ⟨-, -, hmoves⟩ := (h.relocates hnone operation).result _ hafter
  cases hmoves with
  | enters hborn hcharacters hworld =>
    exact iff_of_false (fun heq => by cases heq) fun hboth => by cases hboth.1
  | lands hseparates => exact iff_of_false (fun heq => by cases heq) fun hboth => by cases hboth.1
  | revives hrevived hdead hlives hactors hwarps =>
    have hasked := History.reviving?_of_revived? hrevived
    constructor
    · intro heq
      cases hrevived.symm.trans heq
      exact ⟨hasked, hdead⟩
    · rintro ⟨heq, -⟩
      cases hasked.symm.trans heq
      exact hrevived
  | stays hadmitted hrevived hspared htick hactors hwarps =>
    refine iff_of_false (fun heq => ?_) fun hboth => hspared entity hboth.1 hboth.2
    cases hrevived.symm.trans heq

/-! ### Runs -/

/-- Every character that was given an id of its own is where its history has it, and every warp that
its history calls for is queued. -/
structure Whereabouts (history : History) (simulation : Simulation) : Prop where
  entered : ∀ entity actor, simulation.actorAt? entity = some actor → entity ∈ history.entrants
  revived : ∀ entity, history.Revived entity → entity ∈ history.entrants
  queued : ∀ warp ∈ simulation.world.warps, ∃ entity, warp = revivalWarp simulation.context entity ∧
    history.Revived entity ∧ ∃ actor, simulation.actorAt? entity = some actor
  awaits : ∀ entity, history.Revived entity → ¬ history.Resettled entity →
    revivalWarp simulation.context entity ∈ simulation.world.warps
  placed : ∀ entity actor, simulation.actorAt? entity = some actor →
    history.entrants.count entity = 1 → ∃ entered,
      history.EntersAt simulation.context simulation.format entity entered ∧
        simulation.context.Locates (history.Resettled entity) entered actor.place
  told : history.EachTick fun earlier events => ∀ entity databaseId map position,
    .removed entity databaseId map position ∈ events → entity ∈ earlier.entrants ∧
      (earlier.entrants.count entity = 1 → ∃ entered,
        earlier.EntersAt simulation.context simulation.format entity entered ∧
          simulation.context.Locates (earlier.Revived entity) entered (map, position))

variable {history : History} {operation : Operation} {answer : Answer}

theorem exists_actorAt?_of_deadAt (h : before.Sound) (hdead : before.DeadAt entity) :
    ∃ actor, before.actorAt? entity = some actor := by
  obtain ⟨character, hcharacter, -⟩ := hdead
  obtain ⟨actor, hactor⟩ := (h.characters entity character hcharacter).complete.actor
  exact ⟨actor, (actorAt?_eq hcharacter).trans hactor⟩

/-- Nobody is moved, and the warps of those revived are queued. -/
theorem Whereabouts.concat (h : Whereabouts history before) {turn : Operation × Answer}
    (hcontext : after.context = before.context) (hformat : after.format = before.format)
    (hadmitted : History.admitted? turn = none)
    (htick : ∀ elapsed events, turn ≠ (.tick elapsed, .tick events))
    (hactors : after.actorAt? = before.actorAt?)
    (hthere : ∀ entity, History.revived? turn = some entity →
      ∃ actor, before.actorAt? entity = some actor)
    (hwarps : after.world.warps = before.world.warps ++
      (History.revived? turn).toList.map (revivalWarp before.context)) :
    Whereabouts (history ++ [turn]) after := by
  have hentrants : History.entrants (history ++ [turn]) = history.entrants := by
    simp [History.entrants_concat, hadmitted]
  have hresettled : ∀ entity, History.Resettled (history ++ [turn]) entity ↔
      history.Resettled entity := fun _ => History.metBeforeTick_concat_of_ne_tick htick
  refine ⟨?_, fun entity hrevived => ?_, fun warp hmem => ?_, fun entity hrevived hlies => ?_, ?_,
    ?_⟩
  · rw [hentrants, hactors]
    exact h.entered
  · rw [hentrants]
    rcases History.met_concat.1 hrevived with hbefore | hnow
    · exact h.revived entity hbefore
    · obtain ⟨actor, hactor⟩ := hthere entity hnow
      exact h.entered entity actor hactor
  · rw [hcontext, hactors]
    rw [hwarps, List.mem_append, List.mem_map] at hmem
    rcases hmem with hmem | ⟨entity, hmem, rfl⟩
    · obtain ⟨entity, hwarp, hrevived, hactor⟩ := h.queued warp hmem
      exact ⟨entity, hwarp, History.met_concat.2 (.inl hrevived), hactor⟩
    · have hnow : History.revived? turn = some entity := by simpa using hmem
      exact ⟨entity, rfl, History.met_concat.2 (.inr hnow), hthere entity hnow⟩
  · rw [hcontext, hwarps, List.mem_append, List.mem_map]
    rcases History.met_concat.1 hrevived with hbefore | hnow
    · exact .inl (h.awaits entity hbefore fun hbefore => hlies ((hresettled entity).2 hbefore))
    · exact .inr ⟨entity, by simp [hnow], rfl⟩
  · intro entity actor hactor hcount
    rw [hactors] at hactor
    rw [hentrants] at hcount
    obtain ⟨entered, henters, hlocates⟩ := h.placed entity actor hactor hcount
    rw [hcontext, hformat, hresettled]
    exact ⟨entered, henters.concat, hlocates⟩
  · rw [hcontext, hformat]
    exact h.told.concat fun elapsed events heq => absurd heq (htick elapsed events)

theorem Whereabouts.enters (h : Whereabouts history before) {payload : List UInt8}
    {client : Option ClientId} {character : Character} {rest : Cursor}
    (hcontext : after.context = before.context) (hformat : after.format = before.format)
    (hborn : (Character.ofMessage ⟨before.nextId⟩ before.context before.format client
      (.ofBytes payload)).result = .ok (.ok character, rest))
    (hcharacters : after.characters = before.characters.insert ⟨before.nextId⟩ character)
    (hworld : after.world = before.world) :
    Whereabouts (history ++ [(.login payload client, .login (.ok ⟨before.nextId⟩))]) after := by
  obtain ⟨turn, hturn⟩ : ∃ turn : Operation × Answer,
      turn = (.login payload client, .login (.ok ⟨before.nextId⟩)) := ⟨_, rfl⟩
  have hentrants : History.entrants (history ++ [turn]) = history.entrants ++ [⟨before.nextId⟩] := by
    rw [hturn]
    exact History.entrants_concat
  have hrevived : ∀ entity, History.Revived (history ++ [turn]) entity ↔
      history.Revived entity := fun _ =>
    History.met_concat.trans (or_iff_left fun heq => by rw [hturn] at heq; cases heq)
  have hresettled : ∀ entity, History.Resettled (history ++ [turn]) entity ↔
      history.Resettled entity := fun _ =>
    History.metBeforeTick_concat_of_ne_tick fun _ _ heq => by rw [hturn] at heq; cases heq
  have hwhole : (Character.ofMessage ⟨before.nextId⟩ before.context before.format client
      (.ofBytes payload)).Ensures _ (fun _ => False) _ := Character.ofMessage_whole
  obtain ⟨actor, hactor⟩ := (hwhole.result _ hborn character rfl).complete.actor
  have hnew : after.actorAt? ⟨before.nextId⟩ = some actor := by
    rw [actorAt?, character?, hcharacters, SortedMap.get?_insert_self]
    exact hactor
  have hothers : ∀ entity, entity ≠ ⟨before.nextId⟩ →
      after.actorAt? entity = before.actorAt? entity := fun entity hne => by
    rw [actorAt?, character?, hcharacters, SortedMap.get?_insert_of_ne _ hne]
    rfl
  rw [← hturn]
  refine ⟨fun entity there hthere => ?_, fun entity hmet => ?_, fun warp hmem => ?_,
    fun entity hmet hlies => ?_, fun entity there hthere hcount => ?_, ?_⟩
  · rw [hentrants, List.mem_append, List.mem_singleton]
    by_cases heq : entity = ⟨before.nextId⟩
    · exact .inr heq
    · exact .inl (h.entered entity there (hothers entity heq ▸ hthere))
  · rw [hentrants]
    exact List.mem_append_left _ (h.revived entity ((hrevived entity).1 hmet))
  · rw [hworld] at hmem
    obtain ⟨entity, hwarp, hmet, hthere⟩ := h.queued warp hmem
    refine ⟨entity, hcontext ▸ hwarp, (hrevived entity).2 hmet, ?_⟩
    by_cases heq : entity = ⟨before.nextId⟩
    · exact ⟨actor, heq ▸ hnew⟩
    · rwa [hothers entity heq]
  · rw [hcontext, hworld]
    exact h.awaits entity ((hrevived entity).1 hmet) fun hsettled =>
      hlies ((hresettled entity).2 hsettled)
  · rw [hcontext, hformat, hresettled]
    rw [hentrants, List.count_append] at hcount
    by_cases heq : entity = ⟨before.nextId⟩
    · subst heq
      cases hthere.symm.trans hnew
      have hfresh : ¬ history.Resettled ⟨before.nextId⟩ := fun hsettled => by
        have hpositive := List.count_pos_iff.2 (h.revived _ hsettled.met)
        simp only [List.count_singleton_self] at hcount
        omega
      refine ⟨actor.place, ⟨payload, client, character, rest, by simp [hturn], hborn, ?_⟩,
        fun hsettled => absurd hsettled hfresh, fun _ => rfl⟩
      rw [Character.place_eq hactor]
      rfl
    · rw [hothers entity heq] at hthere
      have hnone : [(⟨before.nextId⟩ : EntityId)].count entity = 0 :=
        List.count_eq_zero.2 fun hmem => heq (List.mem_singleton.1 hmem)
      obtain ⟨entered, henters, hlocates⟩ := h.placed entity there hthere (by omega)
      exact ⟨entered, henters.concat, hlocates⟩
  · rw [hcontext, hformat]
    exact h.told.concat fun elapsed events heq => by rw [hturn] at heq; cases heq

/-- Before anybody leaves, those who were revived are at the respawn point. -/
theorem Whereabouts.exists_arrival (h : Whereabouts history before) (hsound : before.Sound)
    (elapsed : Duration) (harrival : before.arrival elapsed entity = some character) :
    entity ∈ history.entrants ∧ ∃ actor, character.entity.actor? = some actor ∧
      (history.entrants.count entity = 1 → ∃ entered,
        history.EntersAt before.context before.format entity entered ∧
          before.context.Locates (history.Revived entity) entered actor.place) := by
  obtain ⟨earlier, hearlier⟩ := SortedMap.mem_keys_iff.1
    ((hsound.characters.mem_keys_iff_arrival elapsed).2 ⟨character, harrival⟩)
  obtain ⟨later, -, hstays, hlanded⟩ := hsound.characters.exists_arrival elapsed hearlier
  cases harrival.symm.trans hlanded
  obtain ⟨actor, hactor⟩ := (hsound.characters entity earlier hearlier).complete.actor
  have hthere : before.actorAt? entity = some actor := (actorAt?_eq hearlier).trans hactor
  have hqueued : ∀ warp ∈ before.world.warps, warp.entity = entity →
      (warp.map, warp.position) = before.context.config.respawn.place := fun warp hmem _ => by
    obtain ⟨other, rfl, -⟩ := h.queued warp hmem
    rfl
  obtain ⟨moved, hmoved, hown, hnone⟩ := place_landed (hstays.actor.trans hactor) hqueued
  refine ⟨h.entered entity actor hthere, moved, hmoved, fun hcount => ?_⟩
  obtain ⟨entered, henters, hpoint, hstays⟩ := h.placed entity actor hthere hcount
  refine ⟨entered, henters, fun hrevived => ?_, fun hnot => ?_⟩
  · by_cases hwarp : ∃ warp ∈ before.world.warps, warp.entity = entity
    · exact hown hwarp
    · -- the warp was carried out before
      have hsettled : history.Resettled entity := by
        by_contra hlies
        exact hwarp ⟨_, h.awaits entity hrevived hlies, rfl⟩
      rw [hnone fun warp hmem heq => hwarp ⟨warp, hmem, heq⟩]
      exact hpoint hsettled
  · rw [hnone fun warp hmem heq => ?_]
    · exact hstays fun hsettled => hnot hsettled.met
    · obtain ⟨other, rfl, hrevived, -⟩ := h.queued warp hmem
      cases heq
      exact hnot hrevived

theorem Whereabouts.lands (h : Whereabouts history before) (hsound : before.Sound)
    {elapsed : Duration} {events : List ServerEvent}
    (hseparates : before.Separates elapsed (after, events)) :
    Whereabouts (history ++ [(.tick elapsed, .tick events)]) after := by
  have hentrants : History.entrants (history ++ [(.tick elapsed, .tick events)]) =
      history.entrants := by
    simp [History.entrants_concat, History.admitted?]
  have hrevived : ∀ entity, History.Revived (history ++ [(.tick elapsed, .tick events)]) entity ↔
      history.Revived entity := fun _ => History.met_concat.trans (or_iff_left fun heq => by cases heq)
  have hresettled : ∀ entity, History.Resettled (history ++ [(.tick elapsed, .tick events)]) entity ↔
      history.Revived entity := fun _ => History.metBeforeTick_concat_tick
  obtain ⟨hrest, -, hcharacter, htold, -⟩ := hseparates
  dsimp only at hrest hcharacter htold
  have hcontext : after.context = before.context := by rw [hrest]
  have hformat : after.format = before.format := by rw [hrest]
  have hstays : ∀ entity actor, after.actorAt? entity = some actor → ∃ character,
      before.arrival elapsed entity = some character ∧ character.entity.actor? = some actor := by
    intro entity actor hactor
    rw [actorAt?, hcharacter] at hactor
    split at hactor
    · cases hactor
    · exact Option.bind_eq_some_iff.1 hactor
  refine ⟨fun entity actor hactor => ?_, fun entity hmet => ?_, fun warp hmem => ?_,
    fun entity hmet hlies => ?_, fun entity actor hactor hcount => ?_, ?_⟩
  · obtain ⟨character, harrival, -⟩ := hstays entity actor hactor
    rw [hentrants]
    exact (h.exists_arrival hsound elapsed harrival).1
  · rw [hentrants]
    exact h.revived entity ((hrevived entity).1 hmet)
  · rw [hrest] at hmem
    cases hmem
  · exact absurd ((hresettled entity).2 ((hrevived entity).1 hmet)) hlies
  · obtain ⟨character, harrival, hfound⟩ := hstays entity actor hactor
    obtain ⟨-, moved, hmoved, hplaced⟩ := h.exists_arrival hsound elapsed harrival
    cases hfound.symm.trans hmoved
    rw [hentrants] at hcount
    obtain ⟨entered, henters, hlocates⟩ := hplaced hcount
    rw [hcontext, hformat, hresettled]
    exact ⟨entered, henters.concat, hlocates⟩
  · rw [hcontext, hformat]
    refine h.told.concat fun elapsed events heq entity databaseId map position hmem => ?_
    cases heq
    have hfiltered : .removed entity databaseId map position ∈ events.filter (·.tells entity) :=
      List.mem_filter.2 ⟨hmem, by simp [ServerEvent.tells]⟩
    rw [htold] at hfiltered
    split at hfiltered
    · rw [Option.mem_toList, Option.bind_eq_some_iff] at hfiltered
      obtain ⟨character, harrival, hfarewell⟩ := hfiltered
      obtain ⟨hentered, moved, hmoved, hplaced⟩ := h.exists_arrival hsound elapsed harrival
      rw [Character.farewell, hmoved] at hfarewell
      cases hfarewell
      exact ⟨hentered, hplaced⟩
    · cases hfiltered

/-- One more operation. -/
theorem Whereabouts.moves (h : Whereabouts history before) (hsound : before.Sound)
    (hcontext : after.context = before.context) (hformat : after.format = before.format)
    (hmoves : before.Moves after operation answer) :
    Whereabouts (history ++ [(operation, answer)]) after := by
  cases hmoves with
  | enters hborn hcharacters hworld => exact h.enters hcontext hformat hborn hcharacters hworld
  | revives hrevived hdead hlives hactors hwarps =>
    obtain ⟨hadmitted, htick⟩ := History.revived?_eq_some hrevived
    refine h.concat hcontext hformat hadmitted htick hactors (fun other heq => ?_) ?_
    · cases hrevived.symm.trans heq
      exact exists_actorAt?_of_deadAt hsound hdead
    · rw [hwarps, hrevived]
      rfl
  | lands hseparates => exact h.lands hsound hseparates
  | stays hadmitted hrevived hspared htick hactors hwarps =>
    refine h.concat hcontext hformat hadmitted htick hactors (fun other heq => ?_) ?_
    · cases hrevived.symm.trans heq
    · rw [hwarps, hrevived]
      exact (List.append_nil _).symm

theorem whereabouts_start {context : CharacterContext} {format : Load Unit} :
    Whereabouts [] { context, format } where
  entered _ _ hactor := by cases hactor
  revived _ hrevived := by
    obtain ⟨turn, hmem, -⟩ := hrevived
    cases hmem
  queued _ hmem := by cases hmem
  awaits _ hrevived := by
    obtain ⟨turn, hmem, -⟩ := hrevived
    cases hmem
  placed _ _ hactor := by cases hactor
  told _ _ _ _ hnil := by simp at hnil

/-- A run without scripts comes to its end, with every character where its history has it. -/
theorem exists_relocated {context : CharacterContext} {format : Load Unit}
    (hnone : context.callbacks = {}) (operations : List Operation) :
    ∃ after history, (({ context, format } : Simulation).respondAll operations).result =
        .ok (after, history) ∧ after.Sound ∧ history.map Prod.fst = operations ∧
      after.context = context ∧ after.format = format ∧ Whereabouts history after := by
  have hkeeping : context.callbacks.Keeping := hnone ▸ ScriptCallbacks.keeping_none
  refine exists_respondAll_of (motive := fun history after => after.context = context ∧
    after.format = format ∧ Whereabouts history after) hkeeping ⟨rfl, rfl, whereabouts_start⟩ ?_
    operations
  rintro history before operation after answer hsound hafter ⟨rfl, rfl, hwhere⟩
  obtain ⟨hcontext, hformat, hmoves⟩ := (hsound.relocates hnone operation).result _ hafter
  exact ⟨hcontext, hformat, hwhere.moves hsound hcontext hformat hmoves⟩

/-- No warp is queued for somebody who is not there. -/
theorem Whereabouts.not_warpDropped (h : Whereabouts history before) (hsound : before.Sound)
    (elapsed : Duration) (entity : EntityId) :
    Effect.warpDropped entity ∉ (before.tick elapsed).effects := by
  intro hmem
  have htick : (before.tick elapsed).Ensures _ (fun _ => False) _ :=
    hsound.characters.separates elapsed
  obtain ⟨warp, hwarp, hnone⟩ := htick.effects _ hmem warns_warpDropped
  obtain ⟨other, rfl, -, actor, hactor⟩ := h.queued warp hwarp
  rw [actorAt?, show before.character? other = none from hnone] at hactor
  cases hactor

/-- Without scripts every run comes to its end. As long as ids do not run out no two logins are
answered by the same, and what counts as a revival is one: who asks was dead. A character whose id
was given once is where its login message says until the first tick after its first revival is over,
and at the respawn point from then on. The event that tells that it left has the respawn point if it
was revived before that tick, and else the place that its login message says. No tick drops a warp. -/
theorem warps_land_in_time {context : CharacterContext} {format : Load Unit}
    (hnone : context.callbacks = {}) (operations : List Operation) :
    ∃ after history, (({ context, format } : Simulation).respondAll operations).result =
        .ok (after, history) ∧ history.map Prod.fst = operations ∧
      (history.entrants.length < UInt32.size - 1 → history.entrants.Nodup) ∧
      (∀ earlier operation answer later, history = earlier ++ (operation, answer) :: later →
        ∃ before, (({ context, format } : Simulation).respondAll (earlier.map Prod.fst)).result =
            .ok (before, earlier) ∧
          ∀ entity, History.revived? (operation, answer) = some entity ↔
            operation.reviving? = some entity ∧ before.DeadAt entity) ∧
      (∀ entity character, after.character? entity = some character →
        entity ∈ history.entrants ∧ (history.entrants.count entity = 1 → ∃ entered place,
          history.EntersAt context format entity entered ∧ character.place.result = .ok place ∧
            context.Locates (history.Resettled entity) entered place)) ∧
      (history.EachTick fun earlier events => ∀ entity databaseId map position,
        .removed entity databaseId map position ∈ events →
          entity ∈ earlier.entrants ∧ (earlier.entrants.count entity = 1 → ∃ entered,
            earlier.EntersAt context format entity entered ∧
              context.Locates (earlier.Revived entity) entered (map, position))) ∧
      ∀ elapsed entity, Effect.warpDropped entity ∉ (after.tick elapsed).effects := by
  have hruns := @exists_relocated context format hnone
  obtain ⟨after, history, hrun, hsound, hmap, hcontext, hformat, hwhere⟩ := hruns operations
  refine ⟨after, history, hrun, hmap, fun hfew => ?_,
    fun earlier operation answer later hsplit => ?_, fun entity character hcharacter => ?_, ?_,
    hwhere.not_warpDropped hsound⟩
  · obtain ⟨same, sameHistory, hsame, -, -, hrecounts⟩ :=
      @exists_respondAll context format (hnone ▸ ScriptCallbacks.keeping_none) operations
    cases hsame.symm.trans hrun
    exact (hrecounts hfew).distinct
  · subst hsplit
    obtain ⟨before, next, hbefore, hnext⟩ := exists_respond_of_respondAll hrun
    obtain ⟨same, sameHistory, hsame, hbeforeSound, -, hbeforeContext, -, -⟩ :=
      hruns (earlier.map Prod.fst)
    cases hsame.symm.trans hbefore
    exact ⟨before, hbefore, fun entity =>
      hbeforeSound.revived?_eq_some_iff (hbeforeContext ▸ hnone) hnext⟩
  · obtain ⟨actor, hactor⟩ := (hsound.characters entity character hcharacter).complete.actor
    have hthere : after.actorAt? entity = some actor := (actorAt?_eq hcharacter).trans hactor
    refine ⟨hwhere.entered entity actor hthere, fun hcount => ?_⟩
    obtain ⟨entered, henters, hlocates⟩ := hwhere.placed entity actor hthere hcount
    refine ⟨entered, actor.place, hcontext ▸ hformat ▸ henters, ?_, hcontext ▸ hlocates⟩
    rw [Character.place_eq hactor]
    rfl
  · have htold := hwhere.told
    rwa [hcontext, hformat] at htold

/-- Someone enters, dies and comes back before a tick. -/
def sampleReturn : List Operation :=
  [.login Character.sampleLogin none, .damage ⟨1⟩ 1000, .respawn ⟨1⟩, .tick .zero]

/-- What is seen of a turn: who is admitted or revived by it, and whether it is a tick. -/
def returnView (turn : Operation × Answer) : Option EntityId × Option EntityId × Bool :=
  (History.admitted? turn, History.revived? turn,
    match turn.2 with
    | .tick _ => true
    | _ => false)

/-- Who came back is at the respawn point. -/
theorem lands_of_sampleReturn : ∃ after history character,
    (sample.respondAll sampleReturn).result = .ok (after, history) ∧
      after.character? ⟨1⟩ = some character ∧
      character.place.result = .ok (1, ⟨1024, 1024⟩) := by
  have hview : (sample.respondAll sampleReturn).result.map (fun outcome =>
      ((outcome.1.character? ⟨1⟩).isSome, outcome.2.map returnView)) =
        .ok (true, [(some ⟨1⟩, none, false), (none, none, false), (none, some ⟨1⟩, false),
          (none, none, true)]) := by decide +kernel
  obtain ⟨after, history, hrun, hmap, -, -, hwhere, -⟩ :=
    @warps_land_in_time { registry := .sample } Load.standard rfl sampleReturn
  rw [show (sample.respondAll sampleReturn).result = .ok (after, history) from hrun] at hview
  simp only [Except.map, Except.ok.injEq, Prod.mk.injEq] at hview
  obtain ⟨hsome, hview⟩ := hview
  obtain ⟨character, hcharacter⟩ := Option.isSome_iff_exists.1 hsome
  have hentrants : history.entrants = [⟨1⟩] := by
    have hadmitted := congrArg (List.filterMap Prod.fst) hview
    rw [List.filterMap_map] at hadmitted
    exact hadmitted
  obtain ⟨entered, place, -, hplace, hpoint, -⟩ :=
    (hwhere ⟨1⟩ character hcharacter).2 (by rw [hentrants]; rfl)
  refine ⟨after, history, character, hrun, hcharacter, ?_⟩
  rw [hplace, hpoint ?_]
  · rfl
  -- the third turn is the revival, and the fourth a tick
  rcases history with - | ⟨login, - | ⟨damage, - | ⟨revival, - | ⟨⟨operation, answer⟩, rest⟩⟩⟩⟩
  all_goals simp only [List.map_cons, List.map_nil, List.cons.injEq, reduceCtorEq, and_false,
    List.map_eq_nil_iff] at hview
  obtain ⟨-, -, hrevival, htick, rfl⟩ := hview
  simp only [sampleReturn, List.map_cons, List.cons.injEq, List.map_nil, and_true] at hmap
  obtain ⟨-, -, -, rfl⟩ := hmap
  cases answer with
  | tick events =>
    exact ⟨[login, damage, revival], _, events, [], rfl, revival, by simp,
      congrArg (fun viewed => viewed.2.1) hrevival⟩
  | _ => cases congrArg (fun viewed => viewed.2.2) htick

end Simulation

end CharacterSim
