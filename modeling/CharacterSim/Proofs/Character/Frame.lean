import CharacterSim.Proofs.Character.Operation

/-! What operations leave alone. Most do to the entity no more than edit its being and let scripts at
it, tell the client nothing but that a window closes, and tell the account server nothing. What scripts
may do is left open: whatever bounds them bounds these operations. -/

namespace CharacterSim

/-- The effect concerns neither the account server nor the attributes that a client knows of. -/
def Effect.Quiet : Effect → Prop
  | sent _ message => message.id ≠ .playerAttributeChange
  | reported _ => False
  | _ => True

/-- The effect concerns neither the account server nor what a client knows of a character, and asks
the world for nothing but a warp of the entity. -/
def Effect.Modest (entity : EntityId) : Effect → Prop
  | sent _ message => message.id = .npcClose
  | reported _ => False
  | requested (.warp other _ _) => other = entity
  | requested (.removal _) => False
  | _ => True

theorem Effect.Modest.quiet {entity : EntityId} {effect : Effect} (h : effect.Modest entity) :
    effect.Quiet := by
  cases effect with
  | sent client message =>
    show message.id ≠ .playerAttributeChange
    rw [show message.id = .npcClose from h]
    exact MessageId.noConfusion
  | reported update => cases h
  | _ => trivial

/-! ### Bounds on scripts -/

/-- A relation that bounds what is done to an entity, if it allows for edits of the being. -/
structure Entity.Bound (within : Entity → Entity → Prop) : Prop where
  refl (entity : Entity) : within entity entity
  trans {first second third : Entity} :
    within first second → within second third → within first third
  setBeing {entity : Entity} {being next : Being} :
    entity.being? = some being → being.Edits next → within entity (entity.setBeing next)
  complete {before after : Entity} : within before after → before.Complete → after.Complete
  id {before after : Entity} : within before after → after.id = before.id

theorem Entity.bound_edits : Entity.Bound Entity.Edits where
  refl _ := .refl
  trans := .trans
  setBeing := Entity.Edits.setBeing
  complete := Entity.Edits.complete
  id := Entity.Edits.id_eq

/-- Whatever the callbacks do to an entity, at any call, is within a bound. -/
structure ScriptCallbacks.Within (within : Entity → Entity → Prop) (callbacks : ScriptCallbacks) :
    Prop where
  death : ∀ callback, callbacks.death = some callback →
    ∀ history, ∀ entity : Entity, within entity (callback history entity)
  deathAccepted : ∀ callback, callbacks.deathAccepted = some callback →
    ∀ history, ∀ entity : Entity, within entity (callback history entity).1
  login : ∀ callback, callbacks.login = some callback →
    ∀ history, ∀ entity : Entity, within entity (callback history entity)

theorem ScriptCallbacks.within_none {within : Entity → Entity → Prop} :
    ({} : ScriptCallbacks).Within within := by
  constructor <;> exact fun _ hnone => by cases hnone

/-- Whatever the thread does to an entity, at any resumption, is within a bound. -/
def ScriptThread.Within (within : Entity → Entity → Prop) (thread : ScriptThread) : Prop :=
  ∀ seen, ∀ entity : Entity, within entity (thread.behaviour seen entity).1

theorem ProgressionLedger.edits_usePoint (ledger : ProgressionLedger) (being : Being)
    (id : AttributeId) : being.Edits (ledger.usePoint being id).2.1 := by
  unfold usePoint
  split
  · exact .refl
  · split
    · exact .refl
    · exact .single (.setAttribute being id _)

theorem ProgressionLedger.edits_useCorrection (ledger : ProgressionLedger) (being : Being)
    (id : AttributeId) : being.Edits (ledger.useCorrection being id).2.1 := by
  unfold useCorrection
  split
  · exact .refl
  · split
    · exact .refl
    · split
      · exact .refl
      · split
        · exact .refl
        · exact .single (.setAttribute being id _)

namespace ScriptCallbacks

variable {within : Entity → Entity → Prop} {callbacks : ScriptCallbacks} {mistake : Fault → Prop}

theorem notify_ensures (hbound : Entity.Bound within)
    {callback : Option (ScriptHistory → Entity → Entity)}
    (h : ∀ change, callback = some change →
      ∀ history, ∀ entity : Entity, within entity (change history entity))
    (hook : Hook) (history : ScriptHistory) (entity : Entity) (owner : EntityId) :
    (notify callback hook history entity).Ensures (Effect.Modest owner) mistake fun result =>
      within entity result.1 := by
  cases callback with
  | none => exact Step.ensures_pure (hbound.refl entity)
  | some change =>
    rw [notify, Step.emit_bind]
    exact Step.ensures_ok (by simp [Effect.Modest]) (h change rfl history entity)

theorem Within.onDeathAccepted_ensures (h : callbacks.Within within)
    (hbound : Entity.Bound within) (history : ScriptHistory) (entity : Entity) (owner : EntityId) :
    (callbacks.onDeathAccepted history entity).Ensures (Effect.Modest owner) mistake fun result =>
      within entity result.1 := by
  unfold onDeathAccepted
  split
  · next change hchange =>
    rw [Step.emit_bind]
    exact Step.ensures_ok (by simp [Effect.Modest]) (h.deathAccepted change hchange history entity)
  · exact Step.ensures_pure (hbound.refl entity)

end ScriptCallbacks

namespace Transaction

variable {active : Transaction} {mistake : Fault → Prop}

/-- A cancellation tells the session, and writes to the log. -/
theorem cancel_ensures {allowed : Effect → Prop}
    (hcancelled : ∀ session, allowed (.cancelled session))
    (hlogged : ∀ event, allowed (.logged event)) (alive : SessionId → Bool) :
    (active.cancel alive).Ensures allowed mistake fun _ => True := by
  unfold cancel
  split
  · exact Step.ensures_ok (by simp) trivial
  · split
    · simp only [Step.log, Step.emit_bind]
      exact Step.ensures_ok (by simp [hcancelled, hlogged]) trivial
    · simp only [Step.log, Step.emit_bind]
      exact Step.ensures_ok (by simp [hlogged]) trivial

theorem cancel_modest (alive : SessionId → Bool) (owner : EntityId) :
    (active.cancel alive).Ensures (Effect.Modest owner) mistake fun _ => True :=
  cancel_ensures (fun _ => trivial) (fun _ => trivial) alive

end Transaction

namespace Character

/-- The operation sets or spends points. -/
def Operation.Spends : Operation → Prop
  | setAttributePoints _ | setCorrectionPoints _ | usePoint _ | useCorrection _ => True
  | _ => False

/-- What comes with the operation does no more to the entity than a bound allows. -/
def Operation.Within (within : Entity → Entity → Prop) : Operation → Prop
  | script change => ∀ entity : Entity, within entity (change entity)
  | startDialogue thread _ => thread.Within within
  | tick _ | activateAbility _ | giveAbility _ | takeAbility _ =>
    ∀ (entity : Entity) (abilities next : Abilities), entity.abilities? = some abilities →
      within entity (entity.setAbilities next)
  | _ => True

/-- A character whose entity is complete and whose callbacks do no more to it than a bound allows. -/
structure Bounded (within : Entity → Entity → Prop) (character : Character) : Prop where
  bound : Entity.Bound within
  complete : character.entity.Complete
  callbacks : character.context.callbacks.Within within

/-- The dialogue of a character does no more to the entity than a bound allows. -/
def Talks (within : Entity → Entity → Prop) (character : Character) : Prop :=
  ∀ dialogue, character.dialogue = some dialogue → dialogue.thread.Within within

/-- Nothing happened to a character but what a bound allows to happen to its entity, and maybe a change
of its points; kills and transaction are left open. -/
structure Follows (within : Entity → Entity → Prop) (spends : Prop) (before after : Character) :
    Prop where
  entity : within before.entity after.entity
  databaseId : after.databaseId = before.databaseId
  context : after.context = before.context
  client : after.client = before.client
  dirty : after.dirty = before.dirty
  ledger : spends ∨ after.ledger = before.ledger
  dialogue : before.Talks within → after.Talks within

variable {within : Entity → Entity → Prop} {spends : Prop} {character before after : Character}
  {being : Being} {abilities : Abilities} {mistake : Fault → Prop}

theorem Follows.bounded (h : before.Follows within spends after) (hbounded : before.Bounded within) :
    after.Bounded within where
  bound := hbounded.bound
  complete := hbounded.bound.complete h.entity hbounded.complete
  callbacks := h.context ▸ hbounded.callbacks

theorem Follows.id_eq (h : before.Follows within spends after) (hbound : Entity.Bound within) :
    after.id = before.id := hbound.id h.entity

theorem Follows.trans {last : Character} (h : before.Follows within spends after)
    (hbound : Entity.Bound within) (hlast : after.Follows within spends last) :
    before.Follows within spends last where
  entity := hbound.trans h.entity hlast.entity
  databaseId := hlast.databaseId.trans h.databaseId
  context := hlast.context.trans h.context
  client := hlast.client.trans h.client
  dirty := hlast.dirty.trans h.dirty
  ledger := by
    rcases h.ledger, hlast.ledger with ⟨hspends | hledger, hspends | hmore⟩
    · exact .inl hspends
    · exact .inl hspends
    · exact .inl hspends
    · exact .inr (hmore.trans hledger)
  dialogue htalks := hlast.dialogue (h.dialogue htalks)

theorem requireBeing_eq (h : character.entity.being? = some being) :
    character.requireBeing = pure being := by
  rw [requireBeing, h, Step.require_some]

theorem requireAbilities_eq (h : character.entity.abilities? = some abilities) :
    character.requireAbilities = pure abilities := by
  rw [requireAbilities, h, Step.require_some]

theorem edits_restoreHp (being : Being) : being.Edits (restoreHp being) := by
  unfold restoreHp
  split
  · exact .single (.setAttribute being .hp _)
  · exact .refl

theorem send_ensures {message : Message} (h : message.id = .npcClose) (owner : EntityId) :
    (character.send message).Ensures (Effect.Modest owner) mistake fun _ => True := by
  unfold send
  split
  · exact Step.ensures_ok (by simpa [Effect.Modest] using h) trivial
  · exact Step.ensures_ok (by simp [Effect.Modest]) trivial

namespace Bounded

theorem follows_scripted {entity : Entity} {scripted : ScriptHistory}
    (hwithin : within character.entity entity) :
    character.Follows within spends { character with entity, scripted } :=
  ⟨hwithin, rfl, rfl, rfl, rfl, .inr rfl, fun htalks => htalks⟩

theorem follows_entity {entity : Entity} (hwithin : within character.entity entity) :
    character.Follows within spends { character with entity } :=
  follows_scripted hwithin

theorem follows_self (h : character.Bounded within) : character.Follows within spends character :=
  follows_entity (h.bound.refl _)

theorem follows_withBeing (h : character.Bounded within)
    (hheld : character.entity.being? = some being) {next : Being} (hedits : being.Edits next) :
    character.Follows within spends (character.withBeing next) :=
  follows_entity (h.bound.setBeing hheld hedits)

theorem follows_transaction (h : character.Bounded within) (transaction : Transaction) :
    character.Follows within spends { character with transaction } :=
  ⟨h.bound.refl _, rfl, rfl, rfl, rfl, .inr rfl, fun htalks => htalks⟩

/-! ### One lemma for each operation -/

theorem tick_ensures (h : character.Bounded within) (elapsed : Duration)
    (hwithin : (Operation.tick elapsed).Within within) :
    (character.tick elapsed).Ensures (Effect.Modest character.id) mistake
      (character.Follows within spends) := by
  obtain ⟨abilities, habilities⟩ := h.complete.abilities
  rw [tick, requireAbilities_eq habilities, pure_bind]
  exact Step.ensures_pure (follows_entity (hwithin _ _ _ habilities))

theorem setBase_ensures (h : character.Bounded within) (id : AttributeId) (value : Float) :
    (character.setBase id value).Ensures (Effect.Modest character.id) mistake fun result =>
      character.Follows within spends result.1 := by
  obtain ⟨being, hbeing⟩ := h.complete.being
  rw [setBase, requireBeing_eq hbeing, pure_bind]
  exact Step.ensures_pure (h.follows_withBeing hbeing (.single (.setAttribute being id value)))

theorem addModifier_ensures (h : character.Bounded within) (id : AttributeId)
    (source : ModifierSource) (modifier : Modifier) :
    (character.addModifier id source modifier).Ensures (Effect.Modest character.id) mistake
      (character.Follows within spends) := by
  obtain ⟨being, hbeing⟩ := h.complete.being
  rw [addModifier, requireBeing_eq hbeing, pure_bind]
  exact Step.ensures_pure
    (h.follows_withBeing hbeing (.single (.addModifier being id source modifier)))

theorem removeModifier_ensures (h : character.Bounded within) (id : AttributeId)
    (source : ModifierSource) :
    (character.removeModifier id source).Ensures (Effect.Modest character.id) mistake
      (character.Follows within spends) := by
  obtain ⟨being, hbeing⟩ := h.complete.being
  rw [removeModifier, requireBeing_eq hbeing, pure_bind]
  exact Step.ensures_pure (h.follows_withBeing hbeing (.single (.removeModifier being id source)))

theorem usePoint_ensures (h : character.Bounded within) (id : AttributeId) :
    (character.usePoint id).Ensures (Effect.Modest character.id) mistake fun result =>
      character.Follows within True result.1 := by
  obtain ⟨being, hbeing⟩ := h.complete.being
  rw [usePoint, requireBeing_eq hbeing, pure_bind]
  have hedits := character.ledger.edits_usePoint being id
  exact Step.ensures_pure ⟨h.bound.setBeing hbeing hedits, rfl, rfl, rfl, rfl, .inl trivial,
    fun htalks => htalks⟩

theorem useCorrection_ensures (h : character.Bounded within) (id : AttributeId) :
    (character.useCorrection id).Ensures (Effect.Modest character.id) mistake fun result =>
      character.Follows within True result.1 := by
  obtain ⟨being, hbeing⟩ := h.complete.being
  rw [useCorrection, requireBeing_eq hbeing, pure_bind]
  have hedits := character.ledger.edits_useCorrection being id
  exact Step.ensures_pure ⟨h.bound.setBeing hbeing hedits, rfl, rfl, rfl, rfl, .inl trivial,
    fun htalks => htalks⟩

theorem activateAbility_ensures (h : character.Bounded within) (id : AbilityId)
    (hwithin : (Operation.activateAbility id).Within within) :
    (character.activateAbility id).Ensures (Effect.Modest character.id) mistake fun result =>
      character.Follows within spends result.1 := by
  obtain ⟨abilities, habilities⟩ := h.complete.abilities
  rw [activateAbility, requireAbilities_eq habilities, pure_bind]
  split
  · exact Step.ensures_pure (follows_entity (hwithin _ _ _ habilities))
  · rw [Step.log, Step.emit_bind]
    exact Step.ensures_ok (by simp [Effect.Modest]) h.follows_self

theorem giveAbility_ensures (h : character.Bounded within) (id : AbilityId)
    (hwithin : (Operation.giveAbility id).Within within) :
    (character.giveAbility id).Ensures (Effect.Modest character.id) mistake fun result =>
      character.Follows within spends result.1 := by
  obtain ⟨abilities, habilities⟩ := h.complete.abilities
  rw [giveAbility, requireAbilities_eq habilities, pure_bind]
  split
  · exact Step.ensures_pure (follows_entity (hwithin _ _ _ habilities))
  · exact Step.ensures_pure h.follows_self

theorem takeAbility_ensures (h : character.Bounded within) (id : AbilityId)
    (hwithin : (Operation.takeAbility id).Within within) :
    (character.takeAbility id).Ensures (Effect.Modest character.id) mistake fun result =>
      character.Follows within spends result.1 := by
  obtain ⟨abilities, habilities⟩ := h.complete.abilities
  rw [takeAbility, requireAbilities_eq habilities, pure_bind]
  split
  · exact Step.ensures_pure (follows_entity (hwithin _ _ _ habilities))
  · exact Step.ensures_pure h.follows_self

theorem die_ensures (h : character.Bounded within) :
    character.die.Ensures (Effect.Modest character.id) mistake fun result =>
      character.Follows within spends result.1 := by
  obtain ⟨being, hbeing⟩ := h.complete.being
  rw [die, requireBeing_eq hbeing, pure_bind]
  cases hdie : being.die with
  | error refusal => exact Step.ensures_pure h.follows_self
  | ok dead =>
    have hdead : being.Edits dead := by
      obtain ⟨-, rfl⟩ := Being.die_eq_ok_iff.1 hdie
      exact .single (.transition being .dead)
    refine (ScriptCallbacks.notify_ensures h.bound h.callbacks.death _ _ _ _).bind
      fun result hentity => ?_
    exact Step.ensures_pure (follows_scripted (h.bound.trans (h.bound.setBeing hbeing hdead) hentity))

theorem applyDamage_ensures (h : character.Bounded within) (amount : Float) :
    (character.applyDamage amount).Ensures (Effect.Modest character.id) mistake
      (character.Follows within spends) := by
  obtain ⟨being, hbeing⟩ := h.complete.being
  rw [applyDamage, requireBeing_eq hbeing, pure_bind]
  split
  · exact Step.ensures_pure h.follows_self
  · split
    · exact Step.ensures_pure h.follows_self
    · next hp hhp =>
      have hhurt : character.Follows within spends (character.withBeing
          (being.setAttribute .hp (Amount.positivePart (hp - Amount.positivePart amount))).1) :=
        h.follows_withBeing hbeing (.single (.setAttribute being .hp _))
      dsimp only
      split
      · have hdies : ∀ {hurt : Character}, hurt.Bounded within → hurt.die.Ensures
            (Effect.Modest hurt.id) mistake fun result => hurt.Follows within spends result.1 :=
          fun hbounded => hbounded.die_ensures
        exact (hdies (hhurt.bounded h)).bind fun result hresult =>
          Step.ensures_pure (hhurt.trans h.bound hresult)
      · exact Step.ensures_pure hhurt

theorem respawn_ensures (h : character.Bounded within) :
    character.respawn.Ensures (Effect.Modest character.id) mistake fun result =>
      character.Follows within spends result.1 := by
  obtain ⟨being, hbeing⟩ := h.complete.being
  rw [respawn, requireBeing_eq hbeing, pure_bind]
  cases hrevive : being.revive with
  | error refusal =>
    dsimp only [Step.log]
    rw [Step.emit_bind]
    exact Step.ensures_ok (by simp [Effect.Modest]) h.follows_self
  | ok revived =>
    have hrevived : being.Edits revived := by
      obtain ⟨-, rfl⟩ := Being.revive_eq_ok_iff.1 hrevive
      exact .single (.transition being .alive)
    refine (h.callbacks.onDeathAccepted_ensures h.bound _ _ _).bind fun result hresult => ?_
    have hfollows : character.Follows within spends
        { character with entity := result.1, scripted := result.2.2 } :=
      follows_scripted (h.bound.trans (h.bound.setBeing hbeing hrevived) hresult)
    have hbounded := hfollows.bounded h
    dsimp only
    split
    · exact Step.ensures_pure hfollows
    · obtain ⟨held, hheld⟩ := hbounded.complete.being
      rw [requireBeing_eq hheld, pure_bind, Step.emit_bind]
      have hrestored : Follows within spends _ _ :=
        hbounded.follows_withBeing hheld (edits_restoreHp held)
      have hid : result.1.id = character.id := hfollows.id_eq h.bound
      refine Step.ensures_ok (fun effect hmem => ?_) (hfollows.trans h.bound hrestored)
      obtain rfl := List.mem_singleton.1 hmem
      exact hid

theorem triggerLoginCallback_ensures (h : character.Bounded within) :
    character.triggerLoginCallback.Ensures (Effect.Modest character.id) mistake
      (character.Follows within spends) :=
  (ScriptCallbacks.notify_ensures h.bound h.callbacks.login _ _ _ _).bind fun _ hentity =>
    Step.ensures_pure (follows_scripted hentity)

theorem setTrading_ensures (h : character.Bounded within) (alive : SessionId → Bool)
    (session : Option SessionId) :
    (character.setTrading alive session).Ensures (Effect.Modest character.id)
      (Operation.MayFail (.setTrading alive session)) (character.Follows within spends) := by
  have hcontrol : (character.transaction.setTrading alive session).Ensures
      (Effect.Modest character.id) (Operation.MayFail (.setTrading alive session))
      fun _ => True := by
    unfold Transaction.setTrading
    split
    · exact (Transaction.cancel_modest alive _).bind fun _ _ => Step.ensures_pure trivial
    · split
      · exact Step.ensures_fail (.clearedTrade alive _)
      · exact Step.ensures_pure trivial
  exact hcontrol.bind fun transaction _ => Step.ensures_pure (h.follows_transaction transaction)

theorem setBuySell_ensures (h : character.Bounded within) (alive : SessionId → Bool)
    (session : Option SessionId) :
    (character.setBuySell alive session).Ensures (Effect.Modest character.id)
      (Operation.MayFail (.setBuySell alive session)) (character.Follows within spends) := by
  have hcontrol : (character.transaction.setBuySell alive session).Ensures
      (Effect.Modest character.id) (Operation.MayFail (.setBuySell alive session))
      fun _ => True := by
    unfold Transaction.setBuySell
    split
    · exact (Transaction.cancel_modest alive _).bind fun _ _ => Step.ensures_pure trivial
    · split
      · exact Step.ensures_fail (.clearedBuySell alive _)
      · exact Step.ensures_pure trivial
  exact hcontrol.bind fun transaction _ => Step.ensures_pure (h.follows_transaction transaction)

theorem cancelTransaction_ensures (h : character.Bounded within) (alive : SessionId → Bool) :
    (character.cancelTransaction alive).Ensures (Effect.Modest character.id) mistake
      (character.Follows within spends) :=
  (Transaction.cancel_modest alive _).bind fun transaction _ =>
    Step.ensures_pure (h.follows_transaction transaction)

theorem resumeDialogue_ensures (htalks : character.Talks within)
    (hmistake : character.dialogue = none → mistake .noDialogue) :
    character.resumeDialogue.Ensures (Effect.Modest character.id) mistake
      (character.Follows within spends) := by
  unfold resumeDialogue
  split
  · next hnone => exact Step.ensures_fail (hmistake hnone)
  · next dialogue hdialogue =>
    have hthread := htalks dialogue hdialogue
    have hwithin : within character.entity (dialogue.thread.resume character.entity).1 :=
      hthread _ _
    have hresumed : (dialogue.thread.resume character.entity).2.2.Within within := hthread
    have hemit : (Step.emit [.resumed dialogue.npc character.id]).Ensures
        (Effect.Modest character.id) mistake fun _ => True :=
      Step.ensures_ok (by simp [Effect.Modest]) trivial
    refine hemit.bind fun _ _ => ?_
    split
    · next entity thread hresume =>
      rw [hresume] at hwithin hresumed
      refine Step.ensures_pure ⟨hwithin, rfl, rfl, rfl, rfl, .inr rfl, fun _ => ?_⟩
      rintro _ ⟨⟩
      exact hresumed
    · next entity thread hresume =>
      rw [hresume] at hwithin
      refine (send_ensures (by simp [Message.writeInt16, Message.append]) _).bind fun _ _ => ?_
      exact Step.ensures_pure
        ⟨hwithin, rfl, rfl, rfl, rfl, .inr rfl, fun _ _ hnone => by cases hnone⟩

theorem startDialogue_ensures {thread : ScriptThread} (hthread : thread.Within within)
    (npc : NpcId) : (character.startDialogue thread npc).Ensures
      (Effect.Modest character.id) mistake (character.Follows within spends) := by
  have htalks : ({ character with dialogue := some { npc, thread } } : Character).Talks within := by
    rintro _ ⟨⟩
    exact hthread
  have hresume : ({ character with dialogue := some { npc, thread } }
      |>.resumeDialogue).Ensures (Effect.Modest character.id) mistake (Follows within spends _) :=
    resumeDialogue_ensures htalks fun hnone => by cases hnone
  refine hresume.imp fun _ hfollows => ?_
  exact ⟨hfollows.entity, hfollows.databaseId, hfollows.context, hfollows.client, hfollows.dirty,
    hfollows.ledger, fun _ => hfollows.dialogue htalks⟩

/-- An operation that takes no note of changes and leaves the client stays within the bound. -/
theorem respond_ensures (h : character.Bounded within) {operation : Operation}
    (hplain : operation.Plain) (hwithin : operation.Within within)
    (htalks : operation = .resumeDialogue → character.Talks within) :
    (character.respond operation).Ensures (Effect.Modest character.id) operation.MayFail
      fun result => character.Follows within operation.Spends result.1 := by
  cases operation with
  | tick elapsed =>
    exact (h.tick_ensures elapsed hwithin).bind fun _ hafter => Step.ensures_pure hafter
  | update => cases hplain
  | sendStatus => cases hplain
  | pendingSync => cases hplain
  | modifiedAllAttributes => cases hplain
  | setBase id value =>
    exact (h.setBase_ensures id value).bind fun _ hafter => Step.ensures_pure hafter
  | addModifier id source modifier =>
    exact (h.addModifier_ensures id source modifier).bind fun _ hafter => Step.ensures_pure hafter
  | removeModifier id source =>
    exact (h.removeModifier_ensures id source).bind fun _ hafter => Step.ensures_pure hafter
  | setAttributePoints points =>
    exact Step.ensures_pure
      ⟨h.bound.refl _, rfl, rfl, rfl, rfl, .inl trivial, fun htalks => htalks⟩
  | setCorrectionPoints points =>
    exact Step.ensures_pure
      ⟨h.bound.refl _, rfl, rfl, rfl, rfl, .inl trivial, fun htalks => htalks⟩
  | usePoint id => exact (h.usePoint_ensures id).bind fun _ hafter => Step.ensures_pure hafter
  | useCorrection id =>
    exact (h.useCorrection_ensures id).bind fun _ hafter => Step.ensures_pure hafter
  | activateAbility id =>
    exact (h.activateAbility_ensures id hwithin).bind fun _ hafter => Step.ensures_pure hafter
  | giveAbility id =>
    exact (h.giveAbility_ensures id hwithin).bind fun _ hafter => Step.ensures_pure hafter
  | takeAbility id =>
    exact (h.takeAbility_ensures id hwithin).bind fun _ hafter => Step.ensures_pure hafter
  | incrementKillCount monster =>
    exact Step.ensures_pure ⟨h.bound.refl _, rfl, rfl, rfl, rfl, .inr rfl, fun htalks => htalks⟩
  | setTrading alive session =>
    exact (h.setTrading_ensures alive session).bind fun _ hafter => Step.ensures_pure hafter
  | setBuySell alive session =>
    exact (h.setBuySell_ensures alive session).bind fun _ hafter => Step.ensures_pure hafter
  | cancelTransaction alive =>
    exact (h.cancelTransaction_ensures alive).bind fun _ hafter => Step.ensures_pure hafter
  | die => exact h.die_ensures.bind fun _ hafter => Step.ensures_pure hafter
  | applyDamage amount =>
    exact (h.applyDamage_ensures amount).bind fun _ hafter => Step.ensures_pure hafter
  | respawn => exact h.respawn_ensures.bind fun _ hafter => Step.ensures_pure hafter
  | triggerLoginCallback =>
    exact h.triggerLoginCallback_ensures.bind fun _ hafter => Step.ensures_pure hafter
  | disconnected alive => cases hplain
  | startDialogue thread npc =>
    exact (startDialogue_ensures hwithin npc).bind fun _ hafter => Step.ensures_pure hafter
  | resumeDialogue =>
    exact (resumeDialogue_ensures (htalks rfl) fun _ => .noDialogue).bind fun _ hafter =>
      Step.ensures_pure hafter
  | script change => exact Step.ensures_pure (follows_entity (hwithin character.entity))

end Bounded

/-! ### Edits -/

/-- A character whose entity is complete and whose scripts only edit it. -/
structure Intact (character : Character) : Prop where
  complete : character.entity.Complete
  callbacks : character.context.callbacks.Gentle
  dialogue : ∀ dialogue, character.dialogue = some dialogue → dialogue.thread.Gentle

/-- Nothing happened to a character but that its entity was edited; points, kills, transaction and
dialogue are left open. -/
structure Edited (before after : Character) : Prop where
  edits : before.entity.Edits after.entity
  databaseId : after.databaseId = before.databaseId
  context : after.context = before.context
  client : after.client = before.client
  dirty : after.dirty = before.dirty
  dialogue : ∀ dialogue, after.dialogue = some dialogue → dialogue.thread.Gentle

theorem Edited.intact (h : before.Edited after) (hintact : before.Intact) : after.Intact where
  complete := h.edits.complete hintact.complete
  callbacks := h.context ▸ hintact.callbacks
  dialogue := h.dialogue

theorem Intact.bounded (h : character.Intact) : character.Bounded Entity.Edits :=
  ⟨Entity.bound_edits, h.complete, ⟨h.callbacks.death, h.callbacks.deathAccepted, h.callbacks.login⟩⟩

theorem Intact.edited (h : before.Intact) (hfollows : before.Follows Entity.Edits spends after) :
    before.Edited after :=
  ⟨hfollows.entity, hfollows.databaseId, hfollows.context, hfollows.client, hfollows.dirty,
    hfollows.dialogue h.dialogue⟩

theorem Intact.edited_withAbilities (h : character.Intact)
    (hheld : character.entity.abilities? = some abilities) (next : Abilities) :
    character.Edited (character.withAbilities next) :=
  ⟨.single (.abilities hheld next), rfl, rfl, rfl, rfl, h.dialogue⟩

theorem Intact.applyDamage_ensures (h : character.Intact) (amount : Float) :
    (character.applyDamage amount).Ensures Effect.Quiet mistake character.Edited := by
  have hdamage : (character.applyDamage amount).Ensures (Effect.Modest character.id) mistake
      (character.Follows Entity.Edits True) := h.bounded.applyDamage_ensures amount
  exact (hdamage.allow fun _ hmodest => hmodest.quiet).imp fun _ => h.edited

theorem Operation.within_of_gentle {operation : Operation} (h : operation.Gentle) :
    operation.Within Entity.Edits := by
  cases operation with
  | script change => exact h
  | startDialogue thread npc => exact h
  | tick elapsed => exact fun _ _ next hheld => .single (.abilities hheld next)
  | activateAbility id => exact fun _ _ next hheld => .single (.abilities hheld next)
  | giveAbility id => exact fun _ _ next hheld => .single (.abilities hheld next)
  | takeAbility id => exact fun _ _ next hheld => .single (.abilities hheld next)
  | _ => trivial

theorem Intact.perform_ensures (h : character.Intact) {operation : Operation}
    (hplain : operation.Plain) (hgentle : operation.Gentle) :
    (character.perform operation).Ensures Effect.Quiet operation.MayFail character.Edited := by
  rw [perform_eq]
  refine ((h.bounded.respond_ensures hplain (Operation.within_of_gentle hgentle)
    fun _ => h.dialogue).allow fun _ hmodest => hmodest.quiet).bind fun result hfollows => ?_
  exact Step.ensures_pure (h.edited hfollows)

end Character

end CharacterSim
