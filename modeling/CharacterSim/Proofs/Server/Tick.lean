import CharacterSim.Proofs.Entity.Edit
import CharacterSim.Proofs.Step
import CharacterSim.Server.Simulation

/-! In a tick each character is on its own: it acts, is moved by the warps that were queued for it,
and leaves if its removal was queued, whatever becomes of the others. What is queued for a character
that is there is never dropped. -/

namespace CharacterSim

/-- An entity has left, it is told. -/
def ServerEvent.tells (entity : EntityId) : ServerEvent → Bool
  | removed other .. => other = entity
  | _ => false

theorem ServerEvent.tells_removed {entity other : EntityId} {databaseId : Int32} {map : MapId}
    {position : Position} :
    (removed other databaseId map position).tells entity = decide (other = entity) := rfl

/-- A warning is written to the log. -/
def Effect.Warns (effect : Effect) : Prop := ∃ event, effect = .logged event ∧ event.level = .warn

/-- Something is written to the log that is no warning. -/
def Effect.Notes (effect : Effect) : Prop := ∃ event, effect = .logged event ∧ event.level ≠ .warn

/-- A warp is dropped, as its entity left. -/
def Effect.warpDropped (entity : EntityId) : Effect :=
  .logged { level := .warn, message := "dropping warp for an entity that left"
            fields := [("entity", entity.text)] }

theorem Effect.Notes.not_warns {effect : Effect} (h : effect.Notes) : ¬ effect.Warns := by
  obtain ⟨event, rfl, hlevel⟩ := h
  rintro ⟨other, heq, hwarn⟩
  cases heq
  exact hlevel hwarn

namespace Character

variable {entity : EntityId} {character : Character}

/-- What a character does in a tick. -/
def turn (character : Character) (elapsed : Duration) : Step Character := do
  let character ← character.tick elapsed
  let character ← character.update
  character.sendStatus

/-- The character at the place that a warp leads to. -/
def movedTo (character : Character) (warp : Warp) : Character :=
  match character.entity.actor? with
  | some actor =>
    { character with entity := character.entity.setActor (actor.moveTo warp.map warp.position) }
  | none => character

/-- The character after those of some warps that are its own. -/
def landed (entity : EntityId) (warps : List Warp) (character : Character) : Character :=
  (warps.filter (·.entity = entity)).foldl movedTo character

theorem movedTo_of_actor {actor : Actor} (h : character.entity.actor? = some actor) (warp : Warp) :
    character.movedTo warp = { character with
      entity := character.entity.setActor (actor.moveTo warp.map warp.position) } := by
  rw [movedTo, h]

theorem movedTo_of_none (h : character.entity.actor? = none) (warp : Warp) :
    character.movedTo warp = character := by
  rw [movedTo, h]

/-- What every warp leaves as it is, landing does. -/
theorem landed_induction {motive : Character → Prop} (warps : List Warp) (h : motive character)
    (hmoved : ∀ (character : Character) warp, motive character → motive (character.movedTo warp)) :
    motive (character.landed entity warps) := by
  unfold landed
  induction warps.filter (·.entity = entity) generalizing character with
  | nil => exact h
  | cons warp rest ih => exact ih (hmoved character warp h)

theorem dialogue_landed (warps : List Warp) :
    (character.landed entity warps).dialogue = character.dialogue := by
  refine landed_induction (motive := fun later => later.dialogue = character.dialogue) warps rfl ?_
  intro later warp heq
  rw [← heq, Character.movedTo]
  split <;> rfl

/-- Warps neither bring a placement nor take it away. -/
theorem actor?_landed_eq_none_iff (warps : List Warp) :
    (character.landed entity warps).entity.actor? = none ↔ character.entity.actor? = none := by
  refine landed_induction
    (motive := fun later => later.entity.actor? = none ↔ character.entity.actor? = none) warps .rfl ?_
  intro later warp hiff
  cases hactor : later.entity.actor? with
  | none => rwa [movedTo_of_none hactor]
  | some actor =>
    rw [movedTo_of_actor hactor, ← hiff, hactor]
    simp

theorem landed_cons (warp : Warp) (warps : List Warp) : character.landed entity (warp :: warps) =
    (character.landed entity [warp]).landed entity warps := by
  unfold landed
  by_cases heq : warp.entity = entity
  · simp [heq]
  · simp [heq]

theorem landed_singleton_self (warp : Warp) :
    character.landed warp.entity [warp] = character.movedTo warp := by
  simp [landed]

theorem landed_singleton_of_ne {warp : Warp} (h : warp.entity ≠ entity) :
    landed entity [warp] = fun character => character := by
  funext character
  simp [landed, h]

/-- What is told of a character when it leaves. -/
def farewell (entity : EntityId) (character : Character) : Option ServerEvent :=
  character.entity.actor?.map fun actor =>
    .removed entity character.databaseId actor.map actor.position

end Character

namespace Simulation

variable {characters before after : SortedMap EntityId Character} {entity : EntityId}
  {character : Character} {allowed : Effect → Prop} {mistake : Fault → Prop}

/-! ### Acting -/

/-- Each character acts as it was at first, so it does not matter who acted before. -/
theorem forEach_ensures {operation : Character → Step Character}
    {acted : EntityId → Character → Character → Prop}
    (h : ∀ entity character, characters.get? entity = some character →
      (operation character).Ensures allowed mistake (acted entity character)) :
    (forEach operation characters).Ensures allowed mistake fun after =>
      ∀ entity, Option.Rel (acted entity) (characters.get? entity) (after.get? entity) := by
  -- who is still to act is as it was at first, and the others have acted
  refine (Step.ensures_foldlM (motive := fun rest current =>
    (∀ entry ∈ rest, characters.get? entry.1 = some entry.2) ∧ (rest.map Prod.fst).Nodup ∧
      ∀ entity, (entity ∈ rest.map Prod.fst → current.get? entity = characters.get? entity) ∧
        (entity ∉ rest.map Prod.fst →
          Option.Rel (acted entity) (characters.get? entity) (current.get? entity)))
    (fun entry rest current hcurrent => ?_)
    ⟨fun _ hmem => SortedMap.get?_eq_some_iff.2 hmem, characters.keys_nodup, fun entity =>
      ⟨fun _ => rfl, fun hnot => ?_⟩⟩).imp fun _ hlast entity => (hlast.2.2 entity).2 (by simp)
  · obtain ⟨hrest, hnodup, hacted⟩ := hcurrent
    obtain ⟨hnew, hothers⟩ := List.nodup_cons.1 hnodup
    have hentry := hrest entry List.mem_cons_self
    refine (h entry.1 entry.2 hentry).bind fun changed hchanged => Step.ensures_pure
      ⟨fun other hmem => hrest other (List.mem_cons_of_mem _ hmem), hothers, fun entity => ?_⟩
    by_cases heq : entity = entry.1
    · subst heq
      refine ⟨fun hmem => absurd hmem hnew, fun _ => ?_⟩
      rw [SortedMap.get?_insert_self, hentry]
      exact .some hchanged
    · rw [SortedMap.get?_insert_of_ne _ heq]
      refine ⟨fun hmem => (hacted entity).1 (List.mem_cons_of_mem _ hmem), fun hnot => ?_⟩
      exact (hacted entity).2 (by simpa [heq] using hnot)
  · have hnone : characters.get? entity = none := by
      refine Option.eq_none_iff_forall_ne_some.2 fun character hfound => hnot ?_
      exact SortedMap.mem_keys_iff.2 ⟨character, hfound⟩
    rw [hnone]
    exact .none

/-- Each character has gone from its state before to its state after by some operation. -/
def Each (operation : Character → Step Character) (before after : SortedMap EntityId Character) :
    Prop :=
  ∀ entity, Option.Rel (fun earlier later => (operation earlier).result = .ok later)
    (before.get? entity) (after.get? entity)

namespace Each

variable {operation : Character → Step Character}

theorem exists_after (h : Each operation before after) (hbefore : before.get? entity = some character) :
    ∃ later, after.get? entity = some later ∧ (operation character).result = .ok later := by
  have hrel := h entity
  rw [hbefore] at hrel
  generalize after.get? entity = found at hrel ⊢
  cases hrel with
  | some hresult => exact ⟨_, rfl, hresult⟩

theorem get?_eq (h : Each operation before after) (entity : EntityId) : after.get? entity =
    (before.get? entity).bind fun character => (operation character).result.toOption := by
  have hrel := h entity
  generalize before.get? entity = found at hrel ⊢
  generalize after.get? entity = now at hrel ⊢
  cases hrel with
  | some hresult => simp [hresult, Except.toOption]
  | none => rfl

theorem trans {first second : Character → Step Character} {last : SortedMap EntityId Character}
    (h : Each first before after) (hlast : Each second after last) :
    Each (fun character => first character >>= second) before last := by
  intro entity
  have hfirst := h entity
  have hsecond := hlast entity
  generalize before.get? entity = found at hfirst ⊢
  generalize after.get? entity = now at hfirst hsecond
  generalize last.get? entity = later at hsecond ⊢
  cases hfirst with
  | some hresult =>
    cases hsecond with
    | some hresult' =>
      refine .some ?_
      dsimp only
      rw [Step.bind_of_ok hresult]
      exact hresult'
  | none =>
    cases hsecond
    exact .none

end Each

theorem forEach_each {operation : Character → Step Character}
    {post : EntityId → Character → Prop}
    (h : ∀ entity character, characters.get? entity = some character →
      (operation character).Ensures allowed mistake (post entity)) :
    (forEach operation characters).Ensures allowed mistake fun after =>
      Each operation characters after ∧
        ∀ entity character, after.get? entity = some character → post entity character := by
  refine (forEach_ensures fun entity character hfound => (h entity character hfound).result_eq).imp
    fun after hacted => ⟨fun entity => ?_, fun entity character hfound => ?_⟩
  · have hrel := hacted entity
    generalize characters.get? entity = found at hrel ⊢
    generalize after.get? entity = now at hrel ⊢
    cases hrel with
    | some hboth => exact .some hboth.2
    | none => exact .none
  · have hrel := hacted entity
    rw [hfound] at hrel
    generalize characters.get? entity = found at hrel
    cases hrel with
    | some hboth => exact hboth.1

/-- All characters act, in one way after the other. -/
def actAll (characters : SortedMap EntityId Character) (elapsed : Duration) :
    Step (SortedMap EntityId Character) := do
  let ticked ← forEach (·.tick elapsed) characters
  let updated ← forEach (·.update) ticked
  forEach (·.sendStatus) updated

/-- Where nothing stops the turn of one character, nothing stops those of all, and each takes its own,
though all advance their timers before anybody is told anything. -/
theorem actAll_each {elapsed : Duration}
    (h : ∀ entity character, characters.get? entity = some character →
      (character.turn elapsed).Ensures allowed mistake fun _ => True) :
    (actAll characters elapsed).Ensures allowed mistake (Each (·.turn elapsed) characters) := by
  refine (forEach_each fun entity character hfound => (h entity character hfound).of_bind).bind ?_
  intro ticked hfirst
  obtain ⟨hticked, hrest⟩ := hfirst
  refine (forEach_each fun entity character hfound =>
    (hrest entity character hfound).of_bind).bind ?_
  intro updated hsecond
  obtain ⟨hupdated, hlast⟩ := hsecond
  refine (forEach_each hlast).imp ?_
  rintro sent ⟨hsent, -⟩
  exact hticked.trans (hupdated.trans hsent)

/-! ### Being moved -/

theorem bind_actor?_map_landed {found : Option Character} (warps : List Warp) :
    (found.map (Character.landed entity warps)).bind (·.entity.actor?) = none ↔
      found.bind (·.entity.actor?) = none := by
  cases found with
  | none => rfl
  | some character => exact Character.actor?_landed_eq_none_iff warps

/-- A warp is dropped if nobody is there to be placed. -/
def DropsOf (characters : SortedMap EntityId Character) (warps : List Warp) (effect : Effect) :
    Prop :=
  ∃ warp ∈ warps, effect = .warpDropped warp.entity ∧
    (characters.get? warp.entity).bind (·.entity.actor?) = none

theorem applyWarp_lands (characters : SortedMap EntityId Character) (warp : Warp) :
    (applyWarp characters warp).Ensures
      (fun effect => effect.Notes ∨ DropsOf characters [warp] effect) mistake fun after =>
        ∀ entity, after.get? entity =
          (characters.get? entity).map (Character.landed entity [warp]) := by
  unfold applyWarp
  cases hplaced : (do
      let character ← characters.get? warp.entity
      let actor ← character.entity.actor?
      return (character, actor) : Option (Character × Actor)) with
  | none =>
    have hnone : (characters.get? warp.entity).bind (·.entity.actor?) = none := by
      cases hcharacter : characters.get? warp.entity with
      | none => rfl
      | some character =>
        cases hactor : character.entity.actor? with
        | none => exact hactor
        | some actor => simp [hcharacter, hactor] at hplaced
    dsimp only [Step.log]
    rw [Step.emit_bind]
    refine Step.ensures_ok (fun effect hmem => .inr ?_) fun entity => ?_
    · obtain rfl := List.mem_singleton.1 hmem
      exact ⟨warp, List.mem_cons_self, rfl, hnone⟩
    · by_cases heq : warp.entity = entity
      · subst heq
        cases hcharacter : characters.get? warp.entity with
        | none => rfl
        | some character =>
          rw [hcharacter] at hnone
          rw [Option.map_some, Character.landed_singleton_self, Character.movedTo_of_none hnone]
      · rw [Character.landed_singleton_of_ne heq, Option.map_id']
  | some placed =>
    obtain ⟨character, actor⟩ := placed
    obtain ⟨found, hcharacter, hfound⟩ := Option.bind_eq_some_iff.1 hplaced
    obtain ⟨there, hactor, heq⟩ := Option.bind_eq_some_iff.1 hfound
    cases heq
    dsimp only [Step.log]
    rw [Step.emit_bind, ← Character.movedTo_of_actor hactor]
    refine Step.ensures_ok (fun effect hmem => .inl ?_) fun entity => ?_
    · obtain rfl := List.mem_singleton.1 hmem
      exact ⟨_, rfl, LogLevel.noConfusion⟩
    · by_cases heq : warp.entity = entity
      · subst heq
        rw [SortedMap.get?_insert_self, hcharacter, Option.map_some,
          Character.landed_singleton_self]
      · rw [SortedMap.get?_insert_of_ne _ (Ne.symm heq), Character.landed_singleton_of_ne heq,
          Option.map_id']

/-- Each character is moved by its own warps, and no warp of one that is there is dropped. -/
theorem warps_land (characters : SortedMap EntityId Character) (warps : List Warp) :
    (warps.foldlM applyWarp characters).Ensures
      (fun effect => effect.Notes ∨ DropsOf characters warps effect) mistake fun after =>
        ∀ entity, after.get? entity =
          (characters.get? entity).map (Character.landed entity warps) := by
  induction warps generalizing characters with
  | nil => exact Step.ensures_pure fun entity => Option.map_id'.symm
  | cons warp rest ih =>
    rw [List.foldlM_cons]
    have hfirst : (applyWarp characters warp).Ensures
        (fun effect => effect.Notes ∨ DropsOf characters (warp :: rest) effect) mistake _ :=
      (applyWarp_lands characters warp).allow fun effect hallowed => hallowed.imp_right ?_
    · refine hfirst.bind fun moved hmoved => ?_
      refine ((ih moved).allow fun effect hallowed => hallowed.imp_right ?_).imp ?_
      · intro hdrops
        obtain ⟨other, hmem, heq, hnone⟩ := hdrops
        rw [hmoved, bind_actor?_map_landed] at hnone
        exact ⟨other, List.mem_cons_of_mem _ hmem, heq, hnone⟩
      · intro last hlanded entity
        rw [hlanded, hmoved, Option.map_map]
        exact Option.map_congr fun character _ => (Character.landed_cons warp rest).symm
    · intro hdrops
      obtain ⟨other, hmem, heq, hnone⟩ := hdrops
      obtain rfl := List.mem_singleton.1 hmem
      exact ⟨other, List.mem_cons_self, heq, hnone⟩

/-! ### Leaving -/

/-- The characters that are left, and what was told of each, when some removals are done. Who left
had a place. -/
structure Left (characters : SortedMap EntityId Character) (done : List EntityId)
    (state : SortedMap EntityId Character × List ServerEvent) : Prop where
  remaining : ∀ entity, state.1.get? entity =
    if entity ∈ done then none else characters.get? entity
  told : ∀ entity, state.2.filter (·.tells entity) =
    if entity ∈ done then ((characters.get? entity).bind (Character.farewell entity)).toList else []
  placed : ∀ entity ∈ done, ∀ character, characters.get? entity = some character →
    character.entity.actor? ≠ none
  known : ∀ event ∈ state.2, ∃ entity, event.tells entity = true

variable {done : List EntityId} {state : SortedMap EntityId Character × List ServerEvent}

/-- Who is not there is removed in vain. -/
theorem Left.concat_absent (h : Left characters done state)
    (habsent : state.1.get? entity = none) : Left characters (done ++ [entity]) state := by
  have hnone := h.remaining entity
  rw [habsent] at hnone
  refine ⟨fun other => ?_, fun other => ?_, fun other hmem character hfound => ?_, h.known⟩
  · rw [h.remaining]
    by_cases heq : other = entity
    · subst heq
      simp [← hnone]
    · simp [heq]
  · rw [h.told]
    by_cases heq : other = entity
    · subst heq
      by_cases hmem : other ∈ done
      · simp [hmem]
      · rw [if_neg hmem] at hnone
        simp [hmem, ← hnone]
    · simp [heq]
  · by_cases hdone : other ∈ done
    · exact h.placed other hdone character hfound
    · obtain rfl : other = entity := by simpa [hdone] using hmem
      rw [if_neg hdone, hfound] at hnone
      cases hnone

/-- Who is there leaves, and it is told for the first time. -/
theorem Left.concat_present (h : Left characters done state)
    (hpresent : state.1.get? entity = some character) {actor : Actor}
    (hactor : character.entity.actor? = some actor) : Left characters (done ++ [entity])
      (state.1.erase entity,
        state.2 ++ [.removed entity character.databaseId actor.map actor.position]) := by
  have hfound := h.remaining entity
  rw [hpresent] at hfound
  have hnot : entity ∉ done := fun hmem => by
    rw [if_pos hmem] at hfound
    cases hfound
  rw [if_neg hnot] at hfound
  refine ⟨fun other => ?_, fun other => ?_, fun other hmem found hother => ?_,
    fun event hevent => ?_⟩
  · rw [SortedMap.get?_erase, h.remaining]
    by_cases heq : other = entity
    · simp [heq]
    · simp [heq]
  · rw [List.filter_append, h.told, List.filter_cons, ServerEvent.tells_removed, List.filter_nil]
    by_cases heq : entity = other
    · subst heq
      simp [hnot, ← hfound, Character.farewell, hactor]
    · simp [heq, Ne.symm heq]
  · rcases List.mem_append.1 hmem with hdone | hnew
    · exact h.placed other hdone found hother
    · obtain rfl := List.mem_singleton.1 hnew
      cases hfound.trans hother
      simp [hactor]
  · rcases List.mem_append.1 hevent with hold | hnew
    · exact h.known event hold
    · obtain rfl := List.mem_singleton.1 hnew
      exact ⟨entity, decide_eq_true rfl⟩

theorem removals_leave (removals : List EntityId)
    (h : ∀ entity ∈ removals, ∀ character, characters.get? entity = some character →
      character.entity.actor? = none → mistake (.missingComponent .actor)) :
    (removals.foldlM applyRemoval (characters, [])).Ensures Effect.Notes mistake
      (Left characters removals) := by
  have hstart : Left characters [] (characters, []) :=
    ⟨fun other => by simp, fun other => by simp, fun other => by simp, fun event => by simp⟩
  refine (Step.ensures_foldlM (motive := fun rest state =>
    ∃ done, done ++ rest = removals ∧ Left characters done state)
    (fun entity rest state hstate => ?_) ⟨[], rfl, hstart⟩).imp ?_
  · obtain ⟨done, hdone, hleft⟩ := hstate
    have hnext : (done ++ [entity]) ++ rest = removals := by
      rw [List.append_assoc, List.singleton_append, hdone]
    unfold applyRemoval
    cases hcharacter : state.1.get? entity with
    | none => exact Step.ensures_pure ⟨_, hnext, hleft.concat_absent hcharacter⟩
    | some character =>
      dsimp only [Character.place, Character.requireActor]
      cases hactor : character.entity.actor? with
      | none =>
        have hfound := hleft.remaining entity
        rw [hcharacter] at hfound
        split at hfound
        · cases hfound
        · have hmem : entity ∈ removals := by simp [← hdone]
          exact Step.ensures_fail (h entity hmem character hfound.symm hactor)
      | some actor =>
        simp only [Step.require_some, pure_bind, Step.log, Step.emit_bind]
        refine Step.ensures_ok (fun effect hmem => ?_)
          ⟨_, hnext, hleft.concat_present hcharacter hactor⟩
        have heq := List.mem_singleton.1 (by simpa using hmem)
        exact ⟨_, heq, LogLevel.noConfusion⟩
  · intro state hstate
    obtain ⟨done, hdone, hleft⟩ := hstate
    rw [List.append_nil] at hdone
    exact hdone ▸ hleft

/-! ### The whole tick -/

variable {simulation : Simulation} {elapsed : Duration}

/-- A character at the end of a tick, before anybody leaves. -/
def arrival (simulation : Simulation) (elapsed : Duration) (entity : EntityId) : Option Character :=
  ((simulation.character? entity).bind fun character =>
    (character.turn elapsed).result.toOption).map (Character.landed entity simulation.world.warps)

/-- What comes of a tick, for each character on its own. -/
structure Separates (simulation : Simulation) (elapsed : Duration)
    (outcome : Simulation × List ServerEvent) : Prop where
  rest : outcome.1 = { simulation with characters := outcome.1.characters, world := {} }
  acted : ∀ entity character, simulation.character? entity = some character →
    ∃ later, (character.turn elapsed).result = .ok later
  character : ∀ entity, outcome.1.character? entity =
    if entity ∈ simulation.world.removals then none else simulation.arrival elapsed entity
  told : ∀ entity, outcome.2.filter (·.tells entity) =
    if entity ∈ simulation.world.removals then
      ((simulation.arrival elapsed entity).bind (Character.farewell entity)).toList
    else []
  placed : ∀ entity ∈ simulation.world.removals, ∀ character,
    simulation.arrival elapsed entity = some character → character.entity.actor? ≠ none

theorem arrival_of_ok {later : Character} (hcharacter : simulation.character? entity = some character)
    (hlater : (character.turn elapsed).result = .ok later) :
    simulation.arrival elapsed entity = some (later.landed entity simulation.world.warps) := by
  simp [arrival, hcharacter, hlater, Except.toOption]

theorem exists_of_arrival (h : simulation.arrival elapsed entity = some character) :
    ∃ earlier later, simulation.character? entity = some earlier ∧
      (earlier.turn elapsed).result = .ok later ∧
      later.landed entity simulation.world.warps = character := by
  obtain ⟨later, hlater, hlanded⟩ := Option.map_eq_some_iff.1 h
  obtain ⟨earlier, hearlier, hresult⟩ := Option.bind_eq_some_iff.1 hlater
  refine ⟨earlier, later, hearlier, ?_, hlanded⟩
  cases hturn : (earlier.turn elapsed).result with
  | error fault => simp [hturn, Except.toOption] at hresult
  | ok value => simpa [hturn, Except.toOption] using hresult

/-- The characters after each has acted and been moved. -/
def moved (simulation : Simulation) (elapsed : Duration) : Step (SortedMap EntityId Character) := do
  let characters ← forEach (·.tick elapsed) simulation.characters
  let characters ← forEach (·.update) characters
  let characters ← forEach (·.sendStatus) characters
  simulation.world.warps.foldlM applyWarp characters

theorem tick_eq (simulation : Simulation) (elapsed : Duration) :
    simulation.tick elapsed = do
      let characters ← simulation.moved elapsed
      let (characters, events) ← simulation.world.removals.foldlM applyRemoval (characters, [])
      return ({ simulation with characters, world := {} }, events) := by
  simp only [tick, moved, applyWorld, bind_assoc]

theorem moved_eq : simulation.moved elapsed =
    actAll simulation.characters elapsed >>= fun acted =>
      simulation.world.warps.foldlM applyWarp acted := by
  simp only [moved, actAll, bind_assoc]

/-- Nothing stops the characters before anybody leaves but what stops one of them in its turn. A
warp is dropped only if nobody is there to be placed. -/
theorem moved_arrives {quiet : Effect → Prop}
    (hquiet : ∀ effect : Effect, effect.Notes → quiet effect)
    (hturn : ∀ entity character, simulation.character? entity = some character →
      (character.turn elapsed).Ensures quiet mistake fun _ => True) :
    (simulation.moved elapsed).Ensures
      (fun effect => quiet effect ∨ ∃ warp ∈ simulation.world.warps,
        (simulation.arrival elapsed warp.entity).bind (·.entity.actor?) = none)
      mistake fun characters =>
        (∀ entity character, simulation.character? entity = some character →
          ∃ later, (character.turn elapsed).result = .ok later) ∧
        ∀ entity, characters.get? entity = simulation.arrival elapsed entity := by
  rw [moved_eq]
  refine ((actAll_each hturn).allow fun _ => .inl).bind fun acted hacted => ?_
  refine ((warps_land acted _).allow fun effect hallowed => hallowed.imp (hquiet effect) ?_).imp ?_
  · intro hdrops
    obtain ⟨warp, hmem, -, hnone⟩ := hdrops
    rw [← bind_actor?_map_landed simulation.world.warps, hacted.get?_eq] at hnone
    exact ⟨warp, hmem, hnone⟩
  · intro characters hlanded
    constructor
    · intro entity character hfound
      obtain ⟨later, -, hlater⟩ := hacted.exists_after hfound
      exact ⟨later, hlater⟩
    · intro entity
      rw [hlanded, hacted.get?_eq, arrival, character?]

/-- A tick is stopped by nothing but what stops one of the characters: in its turn, or because it is
to leave and is nowhere. -/
theorem tick_separates {quiet : Effect → Prop}
    (hquiet : ∀ effect : Effect, effect.Notes → quiet effect)
    (hturn : ∀ entity character, simulation.character? entity = some character →
      (character.turn elapsed).Ensures quiet mistake fun _ => True)
    (hleave : ∀ entity ∈ simulation.world.removals, ∀ character,
      simulation.arrival elapsed entity = some character → character.entity.actor? = none →
        mistake (.missingComponent .actor)) :
    (simulation.tick elapsed).Ensures
      (fun effect => quiet effect ∨ ∃ warp ∈ simulation.world.warps,
        (simulation.arrival elapsed warp.entity).bind (·.entity.actor?) = none)
      mistake (simulation.Separates elapsed) := by
  rw [tick_eq]
  refine (moved_arrives hquiet hturn).bind fun characters hmoved => ?_
  obtain ⟨hacted, harrival⟩ := hmoved
  have hplaced : ∀ entity ∈ simulation.world.removals, ∀ character,
      characters.get? entity = some character → character.entity.actor? = none →
        mistake (.missingComponent .actor) := by
    intro entity hmem character hfound
    exact hleave entity hmem character ((harrival entity).symm.trans hfound)
  refine ((removals_leave _ hplaced).allow fun effect hnotes => .inl (hquiet effect hnotes)).bind ?_
  intro state hleft
  obtain ⟨remaining, events⟩ := state
  refine Step.ensures_pure ⟨rfl, hacted, fun entity => ?_, fun entity => ?_,
    fun entity hmem character hfound => ?_⟩
  · rw [← harrival]
    exact hleft.remaining entity
  · rw [← harrival]
    exact hleft.told entity
  · rw [← harrival] at hfound
    exact hleft.placed entity hmem character hfound

end Simulation

end CharacterSim
