import CharacterSim.Proofs.Character.Lifecycle

/-! What is left of a character whatever scripts do to it, short of taking a component away. It is
the same entity still and has a component of every kind, so that nothing stops its operations; and
no operation but the loss of its client asks for its removal. -/

namespace CharacterSim

/-- The same entity, with a component of every kind if it had one of every kind. -/
structure Entity.Keeps (before after : Entity) : Prop where
  id : after.id = before.id
  complete : before.Complete → after.Complete

/-- No callback takes a component away, at any call. -/
structure ScriptCallbacks.Keeping (callbacks : ScriptCallbacks) : Prop where
  death : ∀ callback, callbacks.death = some callback →
    ∀ history, ∀ entity : Entity, entity.Keeps (callback history entity)
  deathAccepted : ∀ callback, callbacks.deathAccepted = some callback →
    ∀ history, ∀ entity : Entity, entity.Keeps (callback history entity).1
  login : ∀ callback, callbacks.login = some callback →
    ∀ history, ∀ entity : Entity, entity.Keeps (callback history entity)

theorem ScriptCallbacks.keeping_none : ({} : ScriptCallbacks).Keeping := by
  constructor <;> exact fun _ hnone => by cases hnone

theorem Entity.keeps_setAbilities (entity : Entity) (abilities : Abilities) :
    entity.Keeps (entity.setAbilities abilities) :=
  ⟨rfl, fun hcomplete => hcomplete.setAbilities abilities⟩

theorem Entity.bound_keeps : Entity.Bound Entity.Keeps where
  refl _ := ⟨rfl, fun hcomplete => hcomplete⟩
  trans hfirst hsecond :=
    ⟨hsecond.id.trans hfirst.id, fun hcomplete => hsecond.complete (hfirst.complete hcomplete)⟩
  setBeing _ _ := ⟨rfl, fun hcomplete => hcomplete.setBeing _⟩
  complete := Entity.Keeps.complete
  id := Entity.Keeps.id

/-- The effect asks for no removal. -/
def Effect.RemovesNone (effect : Effect) : Prop := effect.removal? = none

theorem Effect.Modest.removesNone {entity : EntityId} {effect : Effect} (h : effect.Modest entity) :
    effect.RemovesNone := by
  cases effect with
  | requested request =>
    cases request with
    | warp other map position => rfl
    | removal other => cases h
  | _ => rfl

/-- The entity that is to be moved or removed. -/
def WorldRequest.entity : WorldRequest → EntityId
  | warp entity .. => entity
  | removal entity => entity

/-- The effect asks the world for nothing that concerns another entity. -/
def Effect.AsksOwn (entity : EntityId) (effect : Effect) : Prop :=
  ∀ request, effect = .requested request → request.entity = entity

theorem Effect.Modest.asksOwn {entity : EntityId} {effect : Effect} (h : effect.Modest entity) :
    effect.AsksOwn entity := by
  rintro request rfl
  cases request with
  | warp other map position => exact h
  | removal other => cases h

namespace Step

variable {α β : Type}

/-- What a sequence requests is what its steps request. -/
theorem withRequests_bind (step : Step α) (next : α → Step β) :
    (step >>= next).withRequests = do
      let (middle, before) ← step.withRequests
      let (last, after) ← (next middle).withRequests
      return (last, before ++ after) := by
  cases hresult : step.result with
  | error fault =>
    have hfault : step.withRequests.result = .error fault := by
      rw [withRequests, hresult]
      rfl
    rw [bind_of_error hresult, bind_of_error hfault]
    rfl
  | ok middle =>
    have hmiddle : step.withRequests.result = .ok (middle, requests step.effects) := by
      rw [withRequests, hresult]
      rfl
    rw [bind_of_ok hresult, bind_of_ok hmiddle]
    cases hnext : (next middle).result with
    | error fault => simp [withRequests, hnext, bind_of_error, Except.map]
    | ok last => simp [withRequests, hnext, bind_of_ok, Except.map, requests]

end Step

namespace Character

/-- The character is the entity with an id, shares a context, and has a component of every kind. -/
structure Whole (entity : EntityId) (context : CharacterContext) (character : Character) :
    Prop where
  id : character.id = entity
  context : character.context = context
  complete : character.entity.Complete

variable {entity : EntityId} {context : CharacterContext} {character : Character} {being : Being}
  {abilities : Abilities} {allowed : Effect → Prop} {mistake : Fault → Prop}

theorem Whole.withBeing (h : character.Whole entity context) (being : Being) :
    (character.withBeing being).Whole entity context :=
  ⟨h.id, h.context, h.complete.setBeing being⟩

theorem Whole.withAbilities (h : character.Whole entity context) (abilities : Abilities) :
    (character.withAbilities abilities).Whole entity context :=
  ⟨h.id, h.context, h.complete.setAbilities abilities⟩

theorem Whole.bounded (h : character.Whole entity context) (hkeeping : context.callbacks.Keeping) :
    character.Bounded Entity.Keeps :=
  ⟨Entity.bound_keeps, h.complete,
    h.context ▸ ⟨hkeeping.death, hkeeping.deathAccepted, hkeeping.login⟩⟩

theorem Whole.follows {after : Character} {spends : Prop} (h : character.Whole entity context)
    (hfollows : character.Follows Entity.Keeps spends after) : after.Whole entity context :=
  ⟨hfollows.entity.id.trans h.id, hfollows.context.trans h.context,
    hfollows.entity.complete h.complete⟩

/-! ### Operations of a simulated character -/

theorem Whole.tick_ensures (h : character.Whole entity context) (elapsed : Duration) :
    (character.tick elapsed).Ensures (fun _ => True) mistake (Whole entity context) := by
  obtain ⟨abilities, habilities⟩ := h.complete.abilities
  rw [tick, requireAbilities_eq habilities, pure_bind]
  exact Step.ensures_pure (h.withAbilities _)

theorem Whole.drain_ensures (h : character.Whole entity context) {operation : Operation}
    (hdrains : operation.Drains) :
    (character.perform operation).Ensures (fun _ => True) mistake (Whole entity context) := by
  obtain ⟨being, hbeing⟩ := h.complete.being
  obtain ⟨abilities, habilities⟩ := h.complete.abilities
  rw [perform_of_drains hdrains hbeing habilities]
  have habsorbed := (h.withBeing being.clearChanged).withAbilities abilities.clearSignals
  exact Step.ensures_ok (fun _ _ => trivial)
    ⟨habsorbed.id, habsorbed.context, habsorbed.complete⟩

theorem Whole.applyDamage_ensures (h : character.Whole entity context)
    (hkeeping : context.callbacks.Keeping) (amount : Float) :
    (character.applyDamage amount).Ensures (fun _ => True) mistake (Whole entity context) := by
  have hdamage : (character.applyDamage amount).Ensures _ mistake (Follows Entity.Keeps True _) :=
    (h.bounded hkeeping).applyDamage_ensures amount
  exact hdamage.anyEffects.imp fun _ => h.follows

theorem Whole.respawn_ensures (h : character.Whole entity context)
    (hkeeping : context.callbacks.Keeping) :
    character.respawn.Ensures Effect.RemovesNone mistake fun result =>
      result.1.Whole entity context := by
  have hrespawn : character.respawn.Ensures _ mistake fun result =>
      Follows Entity.Keeps True _ result.1 := (h.bounded hkeeping).respawn_ensures
  exact (hrespawn.allow fun _ hmodest => hmodest.removesNone).imp fun _ => h.follows

/-- The loss of the client. The living ask for their removal, and nobody for another's. -/
theorem Whole.disconnected_ensures (h : character.Whole entity context)
    (hkeeping : context.callbacks.Keeping) (alive : SessionId → Bool) :
    (character.disconnected alive).withRequests.Ensures (fun _ => True) mistake fun answer =>
      answer.1.1.Whole entity context ∧ ∀ other, .removal other ∈ answer.2 ↔
        other = entity ∧ answer.1.2 = .removed := by
  have hcancel : ({ character with connected := false, client := none, dialogue := none }
      |>.cancelTransaction alive).Ensures Effect.RemovesNone mistake (Whole entity context) :=
    (Transaction.cancel_ensures (fun _ => rfl) (fun _ => rfl) alive).bind fun _ _ =>
      Step.ensures_pure ⟨h.id, h.context, h.complete⟩
  unfold disconnected
  rw [Step.withRequests_bind]
  refine hcancel.withRequests.anyEffects.bind ?_
  rintro ⟨detached, before⟩ ⟨hdetached, hbefore⟩
  have hnone : ∀ other, .removal other ∉ before := fun other hmem => by
    cases hbefore _ hmem
  obtain ⟨being, hbeing⟩ := hdetached.complete.being
  dsimp only
  rw [isDead, requireBeing_eq hbeing, pure_bind, pure_bind]
  cases being.isDead with
  | true =>
    have hrespawn : (do return ((← detached.respawn).1, .respawned) :
        Step (Character × Disconnect)).Ensures Effect.RemovesNone mistake fun answer =>
          answer.1.Whole entity context ∧ answer.2 = .respawned :=
      (hdetached.respawn_ensures hkeeping).bind fun _ hafter => Step.ensures_pure ⟨hafter, rfl⟩
    refine hrespawn.withRequests.anyEffects.bind ?_
    rintro ⟨⟨after, outcome⟩, requests⟩ ⟨⟨hafter, houtcome⟩, hrequests⟩
    dsimp only at houtcome
    subst houtcome
    refine Step.ensures_pure ⟨hafter, fun other => ?_⟩
    have hmore : .removal other ∉ requests := fun hmem => by cases hrequests _ hmem
    simp [hnone, hmore]
  | false =>
    rw [if_neg Bool.false_ne_true, Step.emit_bind]
    refine Step.ensures_ok (fun _ _ => trivial) ⟨hdetached, fun other => ?_⟩
    simp [hnone, Step.requests, Effect.request?, hdetached.id]

theorem Whole.triggerLoginCallback_ensures (h : character.Whole entity context)
    (hkeeping : context.callbacks.Keeping) :
    character.triggerLoginCallback.Ensures (fun _ => True) mistake (Whole entity context) := by
  have hlogin : character.triggerLoginCallback.Ensures _ mistake (Follows Entity.Keeps True _) :=
    (h.bounded hkeeping).triggerLoginCallback_ensures
  exact hlogin.anyEffects.imp fun _ => h.follows

/-! ### Faithful characters -/

/-- A whole character, whose dialogue takes no component away either. -/
structure Faithful (entity : EntityId) (context : CharacterContext) (character : Character) : Prop
    extends character.Whole entity context where
  talks : character.Talks Entity.Keeps

/-- No script that comes with the operation takes a component away. -/
def Operation.Keeping : Operation → Prop
  | script change => ∀ entity : Entity, entity.Keeps (change entity)
  | startDialogue thread _ => thread.Within Entity.Keeps
  | _ => True

theorem Operation.Keeping.within {operation : Operation} (h : operation.Keeping) :
    operation.Within Entity.Keeps := by
  cases operation with
  | script change => exact h
  | startDialogue thread npc => exact h
  | tick elapsed => exact fun entity _ next _ => entity.keeps_setAbilities next
  | activateAbility id => exact fun entity _ next _ => entity.keeps_setAbilities next
  | giveAbility id => exact fun entity _ next _ => entity.keeps_setAbilities next
  | takeAbility id => exact fun entity _ next _ => entity.keeps_setAbilities next
  | _ => trivial

/-- What does no more to a faithful character than scripts may leaves it faithful. -/
theorem Faithful.of_follows {α : Type} {step : Step α} {outcome : α → Character} {spends : Prop}
    (h : character.Faithful entity context)
    (hstep : step.Ensures (Effect.Modest character.id) mistake fun value =>
      character.Follows Entity.Keeps spends (outcome value)) :
    step.Ensures (Effect.AsksOwn entity) mistake fun value =>
      (outcome value).Faithful entity context := by
  rw [h.id] at hstep
  refine (hstep.allow fun _ hmodest => hmodest.asksOwn).imp fun value hfollows => ?_
  exact ⟨h.toWhole.follows hfollows, hfollows.dialogue h.talks⟩

theorem Faithful.applyDamage_ensures (h : character.Faithful entity context)
    (hkeeping : context.callbacks.Keeping) (amount : Float) :
    (character.applyDamage amount).Ensures (Effect.AsksOwn entity) mistake
      (Faithful entity context) := by
  have hdamage : (character.applyDamage amount).Ensures _ mistake
      (Follows Entity.Keeps True character) := (h.bounded hkeeping).applyDamage_ensures amount
  exact h.of_follows hdamage

theorem Faithful.respawn_ensures (h : character.Faithful entity context)
    (hkeeping : context.callbacks.Keeping) :
    character.respawn.Ensures (Effect.AsksOwn entity) mistake fun result =>
      result.1.Faithful entity context := by
  have hrespawn : character.respawn.Ensures _ mistake fun result =>
      Follows Entity.Keeps True character result.1 := (h.bounded hkeeping).respawn_ensures
  exact h.of_follows hrespawn

theorem Faithful.triggerLoginCallback_ensures (h : character.Faithful entity context)
    (hkeeping : context.callbacks.Keeping) :
    character.triggerLoginCallback.Ensures (Effect.AsksOwn entity) mistake
      (Faithful entity context) := by
  have hlogin : character.triggerLoginCallback.Ensures _ mistake
      (Follows Entity.Keeps True character) := (h.bounded hkeeping).triggerLoginCallback_ensures
  exact h.of_follows hlogin

theorem Faithful.disconnected_ensures (h : character.Faithful entity context)
    (hkeeping : context.callbacks.Keeping) (alive : SessionId → Bool) :
    (character.disconnected alive).Ensures (Effect.AsksOwn entity) mistake fun result =>
      result.1.Faithful entity context := by
  have hdetached : ({ character with connected := false, client := none, dialogue := none } :
      Character).Faithful entity context :=
    ⟨⟨h.id, h.context, h.complete⟩, fun _ hnone => by cases hnone⟩
  have hcancel : ({ character with connected := false, client := none, dialogue := none }
      |>.cancelTransaction alive).Ensures _ mistake (Follows Entity.Keeps True _) :=
    (hdetached.bounded hkeeping).cancelTransaction_ensures alive
  unfold disconnected
  refine (hdetached.of_follows hcancel).bind fun cancelled hcancelled => ?_
  obtain ⟨being, hbeing⟩ := hcancelled.complete.being
  rw [isDead, requireBeing_eq hbeing, pure_bind, pure_bind]
  split
  · exact (hcancelled.respawn_ensures hkeeping).bind fun result hresult => Step.ensures_pure hresult
  · rw [Step.emit_bind]
    refine Step.ensures_ok (fun effect hmem request heq => ?_) hcancelled
    obtain rfl : effect = .requested (.removal cancelled.id) := by simpa using hmem
    cases heq
    exact hcancelled.id

theorem Faithful.drain_ensures (h : character.Faithful entity context) {operation : Operation}
    (hdrains : operation.Drains) :
    (character.perform operation).Ensures (fun _ => True) mistake (Faithful entity context) := by
  obtain ⟨being, hbeing⟩ := h.complete.being
  obtain ⟨abilities, habilities⟩ := h.complete.abilities
  have hdrained : (character.perform operation).Ensures _ mistake (Whole entity context) :=
    h.toWhole.drain_ensures hdrains
  have hwhole := hdrained.result
  rw [perform_of_drains hdrains hbeing habilities] at hwhole ⊢
  exact Step.ensures_ok (fun _ _ => trivial) ⟨hwhole _ rfl, h.talks⟩

/-- What is asked of a faithful character is stopped by no mistake but one of who asks, and as long
as no script takes a component away the character stays faithful. -/
theorem Faithful.respond_ensures (h : character.Faithful entity context)
    (hkeeping : context.callbacks.Keeping) {operation : Operation} (hoperation : operation.Keeping) :
    (character.respond operation).Ensures (fun _ => True) operation.MayFail fun result =>
      result.1.Faithful entity context := by
  by_cases hleaves : ∃ alive, operation = .disconnected alive
  · obtain ⟨alive, rfl⟩ := hleaves
    exact (h.disconnected_ensures hkeeping alive).anyEffects.bind fun result hresult =>
      Step.ensures_pure hresult
  · rcases Operation.kinds fun alive heq => hleaves ⟨alive, heq⟩ with hplain | hdrains | rfl
    · exact (h.of_follows ((h.bounded hkeeping).respond_ensures hplain hoperation.within
        fun _ => h.talks)).anyEffects
    · have hperform : (character.perform operation).Ensures _ operation.MayFail _ :=
        h.drain_ensures hdrains
      rw [perform_eq] at hperform
      exact hperform.of_bind.imp fun result hpure => hpure.result result.1 rfl
    · obtain ⟨being, hbeing⟩ := h.complete.being
      rw [respond, modifiedAllAttributes_eq hbeing, Step.bind_of_ok rfl]
      exact Step.ensures_ok (fun _ _ => trivial)
        ⟨⟨h.id, h.context, h.complete.setBeing _⟩, h.talks⟩

/-- Whatever format a login message is read in, it makes a faithful character. -/
theorem ofMessage_faithful {format : Load Unit} {client : Option ClientId} {message : Cursor} :
    (ofMessage entity context format client message).Ensures (fun _ => True) mistake
      fun outcome => ∀ character, outcome.1 = .ok character →
        character.Faithful entity context := by
  have hborn : (ofMessage entity context format client message).Ensures _ _ _ := ofMessage_ensures
  refine ⟨fun _ _ => trivial, fun fault hfault => (hborn.faults fault hfault).elim,
    fun outcome hresult character hcharacter => ?_⟩
  obtain ⟨databaseId, name, cursor, state, -, -, rfl⟩ :=
    hborn.result outcome hresult character hcharacter
  exact ⟨⟨rfl, rfl, ⟨_, rfl⟩, ⟨_, rfl⟩, ⟨_, rfl⟩⟩, fun _ hnone => by cases hnone⟩

theorem ofMessage_whole {format : Load Unit} {client : Option ClientId} {message : Cursor} :
    (ofMessage entity context format client message).Ensures (fun _ => True) mistake
      fun outcome => ∀ character, outcome.1 = .ok character → character.Whole entity context :=
  ofMessage_faithful.imp fun _ hborn character hcharacter => (hborn character hcharacter).toWhole

end Character

end CharacterSim
