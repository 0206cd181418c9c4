import CharacterSim.Proofs.Character.Frame
import Mathlib.Data.List.Induction

/-! How changes leave a character. Three operations take note of what changed and send some channels,
and a fourth marks every attribute; each is a function of the character, given its components. -/

namespace CharacterSim

namespace DirtySets

variable {dirty : DirtySets}

theorem messages_none (source : SyncSource) : dirty.messages source ⟨0⟩ = [] := by
  simp [messages, SyncChannels.contains, SyncChannels.abilities, SyncChannels.abilityCooldown,
    SyncChannels.pointsStatus, SyncChannels.attributes]

theorem clear_none : dirty.clear ⟨0⟩ = dirty := by
  simp [clear, SyncChannels.contains, SyncChannels.abilities, SyncChannels.abilityCooldown,
    SyncChannels.pointsStatus, SyncChannels.attributes]

theorem attributes_foldl_markAttribute (ids : List AttributeId) :
    (ids.foldl markAttribute dirty).attributes = dirty.attributes.insertAll ids := by
  induction ids generalizing dirty with
  | nil => rfl
  | cons id ids ih => exact ih

theorem attributes_foldl_markAbility (ids : List AbilityId) :
    (ids.foldl markAbility dirty).attributes = dirty.attributes := by
  induction ids generalizing dirty with
  | nil => rfl
  | cons id ids ih => exact ih

theorem attributes_foldl_markSignal (signals : List AbilitySignal) :
    (signals.foldl Character.markSignal dirty).attributes = dirty.attributes := by
  induction signals generalizing dirty with
  | nil => rfl
  | cons signal signals ih =>
    rw [List.foldl_cons, ih]
    cases signal <;> rfl

end DirtySets

namespace Character

variable {character : Character} {being : Being} {abilities : Abilities} {channels : SyncChannels}

/-! ### Telling the client -/

/-- What becomes of a message: it is handed to the client or noted as dropped. -/
def delivery (client : Option ClientId) (message : Message) : Effect :=
  match client with
  | some client => .sent client message
  | none => .logged
    { level := .debug, message := "dropping message for detached character"
      fields := [("id", message.id.label)] }

theorem send_eq (message : Message) :
    character.send message = ⟨[delivery character.client message], .ok ()⟩ := by
  unfold send delivery
  cases character.client <;> rfl

theorem sendAll_eq (messages : List Message) :
    character.sendAll messages = ⟨messages.map (delivery character.client), .ok ()⟩ := by
  induction messages with
  | nil => rfl
  | cons message rest ih =>
    rw [sendAll, send_eq, ih, Step.bind_of_ok rfl]
    rfl

theorem flush_eq : character.flush channels =
    ⟨(character.dirty.messages character.syncSource channels).map (delivery character.client),
      .ok { character with dirty := character.dirty.clear channels }⟩ := by
  dsimp only [flush, DirtySets.flush]
  rw [sendAll_eq, Step.bind_of_ok rfl]
  simp

/-! ### Taking note of changes -/

/-- The character that has taken note of the changes of its components. -/
def absorbed (character : Character) (being : Being) (abilities : Abilities) : Character :=
  let dirty := abilities.signals.foldl markSignal
    (being.changed.toList.foldl .markAttribute character.dirty)
  { (character.withBeing being.clearChanged).withAbilities abilities.clearSignals with
    dirty := if character.ledger.changed then dirty.markPoints else dirty
    ledger := character.ledger.clearChanged }

theorem absorb_eq (hbeing : character.entity.being? = some being)
    (habilities : character.entity.abilities? = some abilities) : character.absorb =
      ⟨updates character.databaseId being being.changed.toList,
        .ok (character.absorbed being abilities)⟩ := by
  rw [absorb, requireBeing_eq hbeing, pure_bind]
  dsimp only
  rw [Step.emit_bind, requireAbilities_eq habilities, pure_bind]
  simp [absorbed]

/-- The character after it took note of changes and sent some channels. -/
def drained (character : Character) (being : Being) (abilities : Abilities)
    (channels : SyncChannels) : Character :=
  let absorbed := character.absorbed being abilities
  { absorbed with dirty := absorbed.dirty.clear channels }

/-- What the surroundings are told meanwhile: reports first, messages after them. -/
def drainEffects (character : Character) (being : Being) (abilities : Abilities)
    (channels : SyncChannels) : List Effect :=
  let absorbed := character.absorbed being abilities
  updates character.databaseId being being.changed.toList ++
    (absorbed.dirty.messages absorbed.syncSource channels).map (delivery character.client)

/-- The channels that an operation sends once it has taken note of changes. -/
def Operation.flushes (dead : Bool) : Operation → SyncChannels
  | .update => if dead then ⟨0⟩ else .characterStatus
  | .sendStatus => .attributes
  | _ => ⟨0⟩

theorem drain_none : character.drained being abilities ⟨0⟩ = character.absorbed being abilities ∧
    character.drainEffects being abilities ⟨0⟩ =
      updates character.databaseId being being.changed.toList := by
  constructor
  · rw [drained, DirtySets.clear_none]
  · rw [drainEffects, DirtySets.messages_none, List.map_nil, List.append_nil]

theorem perform_of_drains {operation : Operation} (h : operation.Drains)
    (hbeing : character.entity.being? = some being)
    (habilities : character.entity.abilities? = some abilities) :
    character.perform operation =
      ⟨character.drainEffects being abilities (operation.flushes being.isDead),
        .ok (character.drained being abilities (operation.flushes being.isDead))⟩ := by
  have habsorb := absorb_eq hbeing habilities
  cases h with
  | update =>
    have hdead : (character.absorbed being abilities).isDead = pure being.isDead := by
      rw [isDead, requireBeing_eq rfl, pure_bind]
      rfl
    rw [perform, update, habsorb, Step.bind_of_ok rfl, hdead, pure_bind, Operation.flushes]
    split
    · rw [drain_none.1, drain_none.2]
      simp
    · rw [flush_eq]
      rfl
  | sendStatus =>
    rw [perform, sendStatus, habsorb, Step.bind_of_ok rfl, flush_eq]
    rfl
  | pendingSync =>
    have hflushes : Operation.flushes being.isDead .pendingSync = ⟨0⟩ := rfl
    rw [perform, pendingSync, habsorb, Step.bind_of_ok rfl, hflushes, drain_none.1, drain_none.2]
    simp [Step.bind_of_ok]

/-! ### Marking every attribute -/

/-- The character with every attribute recalculated and marked. -/
def resynced (character : Character) (being : Being) : Character :=
  let ids := being.attributes.ids
  { character.withBeing (ids.foldl .recalculate being).clearChanged with
    dirty := ids.foldl .markAttribute character.dirty }

theorem modifiedAllAttributes_eq (hbeing : character.entity.being? = some being) :
    character.modifiedAllAttributes =
      ⟨[.logged
        { level := .debug
          message := "marking all attributes as changed, requiring recalculation" }],
        .ok (character.resynced being)⟩ := by
  rw [modifiedAllAttributes, Step.log, Step.emit_bind, requireBeing_eq hbeing, pure_bind]
  rfl

/-! ### What is left afterwards -/

@[simp] theorem being?_drained :
    (character.drained being abilities channels).entity.being? = some being.clearChanged := rfl

theorem mem_dirty_absorbed {id : AttributeId} :
    id ∈ (character.absorbed being abilities).dirty.attributes ↔
      id ∈ being.changed ∨ id ∈ character.dirty.attributes := by
  have hattributes : (character.absorbed being abilities).dirty.attributes =
      character.dirty.attributes.insertAll being.changed.toList := by
    dsimp only [absorbed]
    split
    · exact (DirtySets.attributes_foldl_markSignal _).trans
        (DirtySets.attributes_foldl_markAttribute _)
    · exact (DirtySets.attributes_foldl_markSignal _).trans
        (DirtySets.attributes_foldl_markAttribute _)
  rw [hattributes, SortedSet.mem_insertAll_iff, SortedSet.mem_toList_iff]

theorem mem_dirty_drained {id : AttributeId} :
    id ∈ (character.drained being abilities channels).dirty.attributes ↔
      channels.contains .attributes = false ∧
        (id ∈ being.changed ∨ id ∈ character.dirty.attributes) := by
  rw [drained, DirtySets.clear, ← @mem_dirty_absorbed character being abilities id]
  dsimp only
  split
  · next hselected => simp [hselected]
  · next hselected => simp [hselected]

theorem Intact.drained (h : character.Intact) :
    (character.drained being abilities channels).Intact where
  complete := (h.complete.setBeing _).setAbilities _
  callbacks := h.callbacks
  dialogue := h.dialogue

theorem attributes_foldl_recalculate (ids : List AttributeId) :
    (ids.foldl .recalculate being).attributes = being.attributes.recalculateEach ids := by
  induction ids generalizing being with
  | nil => rfl
  | cons id ids ih => exact ih

theorem mem_dirty_resynced {id : AttributeId} :
    id ∈ (character.resynced being).dirty.attributes ↔
      id ∈ being.attributes.ids ∨ id ∈ character.dirty.attributes := by
  rw [resynced, DirtySets.attributes_foldl_markAttribute, SortedSet.mem_insertAll_iff]

theorem Intact.resynced (h : character.Intact) : (character.resynced being).Intact where
  complete := h.complete.setBeing _
  callbacks := h.callbacks
  dialogue := h.dialogue

/-! ### Runs of a character -/

variable {start before after final : Character} {operation : Operation}
  {operations : List Operation}

/-- An operation that keeps the client is a plain one, or takes note of changes, or marks
everything. -/
theorem Operation.kinds (h : ∀ alive, operation ≠ .disconnected alive) :
    operation.Plain ∨ operation.Drains ∨ operation = .modifiedAllAttributes := by
  cases operation with
  | update => exact .inr (.inl .update)
  | sendStatus => exact .inr (.inl .sendStatus)
  | pendingSync => exact .inr (.inl .pendingSync)
  | modifiedAllAttributes => exact .inr (.inr rfl)
  | disconnected alive => exact absurd rfl (h alive)
  | _ => exact .inl trivial

theorem Operation.Gentle.kinds (h : operation.Gentle) :
    operation.Plain ∨ operation.Drains ∨ operation = .modifiedAllAttributes :=
  Operation.kinds fun _ heq => by subst heq; exact h

theorem Intact.perform_intact (h : before.Intact) (hgentle : operation.Gentle)
    (hafter : (before.perform operation).result = .ok after) : after.Intact := by
  obtain ⟨being, hbeing⟩ := h.complete.being
  obtain ⟨abilities, habilities⟩ := h.complete.abilities
  rcases hgentle.kinds with hplain | hdrains | rfl
  · exact ((h.perform_ensures hplain hgentle).result after hafter).intact h
  · rw [perform_of_drains hdrains hbeing habilities] at hafter
    cases hafter
    exact h.drained
  · rw [perform, modifiedAllAttributes_eq hbeing] at hafter
    cases hafter
    exact h.resynced

/-- Nothing but a mistake of its caller stops an operation. -/
theorem Intact.mayFail_of_perform (h : before.Intact) (hgentle : operation.Gentle) {fault : Fault}
    (hfault : (before.perform operation).result = .error fault) : operation.MayFail fault := by
  obtain ⟨being, hbeing⟩ := h.complete.being
  obtain ⟨abilities, habilities⟩ := h.complete.abilities
  rcases hgentle.kinds with hplain | hdrains | rfl
  · exact (h.perform_ensures hplain hgentle).faults fault hfault
  · rw [perform_of_drains hdrains hbeing habilities] at hfault
    cases hfault
  · rw [perform, modifiedAllAttributes_eq hbeing] at hfault
    cases hfault

theorem performAll_concat_of_ok (h : (start.performAll operations).result = .ok before) :
    start.performAll (operations ++ [operation]) =
      ⟨(start.performAll operations).effects ++ (before.perform operation).effects,
        (before.perform operation).result⟩ := by
  rw [performAll_concat, Step.bind_of_ok h]

/-- What holds at the start and is kept by every operation of an intact character holds after a
run. -/
theorem Intact.performAll_induction (h : start.Intact)
    {motive : List Operation → Character → Prop} (hnil : motive [] start)
    (hconcat : ∀ earlier operation before after, (start.performAll earlier).result = .ok before →
      before.Intact → operation.Gentle → (before.perform operation).result = .ok after →
      motive earlier before → motive (earlier ++ [operation]) after)
    (hgentle : ∀ operation ∈ operations, operation.Gentle)
    (hfinal : (start.performAll operations).result = .ok final) :
    final.Intact ∧ motive operations final := by
  induction operations using List.reverseRecOn generalizing final with
  | nil =>
    cases hfinal
    exact ⟨h, hnil⟩
  | append_singleton earlier operation ih =>
    obtain ⟨before, hbefore, hafter, -⟩ := Step.bind_eq_ok (performAll_concat .. ▸ hfinal)
    obtain ⟨hintact, hmotive⟩ := ih (fun other hmem => hgentle other (by simp [hmem])) hbefore
    have hoperation : operation.Gentle := hgentle operation (by simp)
    exact ⟨hintact.perform_intact hoperation hafter,
      hconcat earlier operation before final hbefore hintact hoperation hafter hmotive⟩

theorem Intact.performAll_intact (h : start.Intact)
    (hgentle : ∀ operation ∈ operations, operation.Gentle)
    (hfinal : (start.performAll operations).result = .ok final) : final.Intact :=
  (h.performAll_induction (motive := fun _ _ => True) trivial
    (fun _ _ _ _ _ _ _ _ _ => trivial) hgentle hfinal).1

/-- Nothing but a mistake of the caller stops a run. -/
theorem Intact.mayFail_of_performAll (h : start.Intact)
    (hgentle : ∀ operation ∈ operations, operation.Gentle) {fault : Fault}
    (hfault : (start.performAll operations).result = .error fault) :
    ∃ operation ∈ operations, operation.MayFail fault := by
  induction operations using List.reverseRecOn with
  | nil => cases hfault
  | append_singleton earlier operation ih =>
    have hearlier : ∀ other ∈ earlier, other.Gentle :=
      fun other hmem => hgentle other (by simp [hmem])
    cases hbefore : (start.performAll earlier).result with
    | error other =>
      rw [performAll_concat, Step.bind_of_error hbefore] at hfault
      cases hfault
      obtain ⟨failed, hmem, hfails⟩ := ih hearlier hbefore
      exact ⟨failed, by simp [hmem], hfails⟩
    | ok before =>
      rw [performAll_concat_of_ok hbefore] at hfault
      have hintact := h.performAll_intact hearlier hbefore
      exact ⟨operation, by simp, hintact.mayFail_of_perform (hgentle operation (by simp)) hfault⟩

/-- A run that ends by taking note of changes gets there, unless a mistake of the caller stops it. -/
theorem Intact.performAll_drain (h : start.Intact)
    (hgentle : ∀ operation ∈ operations, operation.Gentle) {last : Operation}
    (hlast : last.Drains) :
    (∃ before being abilities, (start.performAll operations).result = .ok before ∧
      before.entity.being? = some being ∧
      start.performAll (operations ++ [last]) =
        ⟨(start.performAll operations).effects ++
            before.drainEffects being abilities (last.flushes being.isDead),
          .ok (before.drained being abilities (last.flushes being.isDead))⟩) ∨
    ∃ operation ∈ operations, ∃ fault, operation.MayFail fault ∧
      (start.performAll (operations ++ [last])).result = .error fault := by
  cases hearlier : (start.performAll operations).result with
  | error fault =>
    right
    obtain ⟨operation, hmem, hfails⟩ := h.mayFail_of_performAll hgentle hearlier
    refine ⟨operation, hmem, fault, hfails, ?_⟩
    rw [performAll_concat, Step.bind_of_error hearlier]
  | ok before =>
    left
    have hbefore := h.performAll_intact hgentle hearlier
    obtain ⟨being, hbeing⟩ := hbefore.complete.being
    obtain ⟨abilities, habilities⟩ := hbefore.complete.abilities
    refine ⟨before, being, abilities, rfl, hbeing, ?_⟩
    rw [performAll_concat_of_ok hearlier, perform_of_drains hlast hbeing habilities]

end Character

end CharacterSim
