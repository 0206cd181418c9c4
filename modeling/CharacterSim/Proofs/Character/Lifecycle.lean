import CharacterSim.Proofs.Character.Construction

/-! Death and revival where no script interferes. A respawn leaves a character alive, and so does the
loss of its client, but damage can kill it at any time; what happens in every tick does neither. -/

namespace CharacterSim

namespace Effect

/-- The entity whose removal an effect asks for. -/
def removal? : Effect → Option EntityId
  | requested (.removal entity) => some entity
  | _ => none

/-- No removal is asked for but that of one entity. -/
def RemovesAtMost (entity : EntityId) (effect : Effect) : Prop :=
  ∀ other, effect.removal? = some other → other = entity

end Effect

namespace Being

variable {being : Being}

theorem revive_of_dead (h : being.isDead = true) :
    being.revive = .ok { being with lifecycle := .alive } :=
  revive_eq_ok_iff.2 ⟨h, rfl⟩

theorem revive_of_alive (h : being.isDead = false) : ∃ refusal, being.revive = .error refusal := by
  cases hrevive : being.revive with
  | error refusal => exact ⟨refusal, rfl⟩
  | ok revived =>
    rw [(revive_eq_ok_iff.1 hrevive).1] at h
    cases h

theorem isDead_restoreHp : (Character.restoreHp being).isDead = being.isDead := by
  unfold Character.restoreHp
  split <;> rfl

end Being

namespace Character

/-- The character carries a being that is alive. -/
def Lives (character : Character) : Prop :=
  ∃ being, character.entity.being? = some being ∧ being.isDead = false

/-- The character carries a being that is dead. -/
def Dead (character : Character) : Prop :=
  ∃ being, character.entity.being? = some being ∧ being.isDead = true

/-- The later state of a character, which is still intact. -/
structure Persists (before after : Character) : Prop where
  intact : after.Intact
  id : after.id = before.id
  context : after.context = before.context

/-- The later state of a character that neither died nor was revived. -/
structure Steady (before after : Character) : Prop extends before.Persists after where
  databaseId : after.databaseId = before.databaseId
  dead : after.Dead ↔ before.Dead

variable {character before after last : Character} {being : Being} {mistake : Fault → Prop}

theorem dead_iff (h : character.entity.being? = some being) :
    character.Dead ↔ being.isDead = true := by
  constructor
  · rintro ⟨other, hother, hdead⟩
    rwa [Option.some.inj (h.symm.trans hother)]
  · exact fun hdead => ⟨being, h, hdead⟩

theorem Lives.not_dead (h : character.Lives) : ¬ character.Dead := by
  obtain ⟨being, hbeing, halive⟩ := h
  rw [dead_iff hbeing, halive]
  exact Bool.false_ne_true

theorem lives_or_dead (h : character.entity.Complete) : character.Lives ∨ character.Dead := by
  obtain ⟨being, hbeing⟩ := h.being
  cases hdead : being.isDead with
  | false => exact .inl ⟨being, hbeing, hdead⟩
  | true => exact .inr ⟨being, hbeing, hdead⟩

theorem Persists.trans (h : before.Persists after) (hlast : after.Persists last) :
    before.Persists last :=
  ⟨hlast.intact, hlast.id.trans h.id, hlast.context.trans h.context⟩

theorem Steady.trans (h : before.Steady after) (hlast : after.Steady last) :
    before.Steady last :=
  ⟨h.toPersists.trans hlast.toPersists, hlast.databaseId.trans h.databaseId,
    hlast.dead.trans h.dead⟩

theorem Intact.persists_self (h : character.Intact) : character.Persists character := ⟨h, rfl, rfl⟩

theorem Intact.steady_self (h : character.Intact) : character.Steady character :=
  ⟨h.persists_self, rfl, .rfl⟩

theorem Edited.persists (h : before.Edited after) (hintact : before.Intact) :
    before.Persists after :=
  ⟨h.intact hintact, h.edits.id_eq, h.context⟩

/-! ### Respawn and the loss of the client -/

/-- Without a script the respawn of the dead is a revival with restored vitality, and a warp. -/
theorem respawn_of_dead (hbeing : character.entity.being? = some being)
    (hdead : being.isDead = true) (hnone : character.context.callbacks = {}) :
    character.respawn =
      ⟨[.requested (.warp character.id character.context.config.respawn.map
          character.context.config.respawn.position)],
        .ok (character.withBeing (restoreHp { being with lifecycle := .alive }), .ok ())⟩ := by
  rw [respawn, requireBeing_eq hbeing, pure_bind, Being.revive_of_dead hdead, hnone]
  rfl

theorem Intact.respawn_lives (h : character.Intact) (hnone : character.context.callbacks = {}) :
    character.respawn.Ensures (Effect.RemovesAtMost character.id) mistake fun result =>
      character.Persists result.1 ∧ result.1.Lives := by
  obtain ⟨being, hbeing⟩ := h.complete.being
  cases hdead : being.isDead with
  | false =>
    obtain ⟨refusal, hrefused⟩ := Being.revive_of_alive hdead
    rw [respawn, requireBeing_eq hbeing, pure_bind, hrefused]
    dsimp only [Step.log]
    rw [Step.emit_bind]
    refine Step.ensures_ok ?_ ⟨h.persists_self, being, hbeing, hdead⟩
    simp [Effect.RemovesAtMost, Effect.removal?]
  | true =>
    rw [respawn_of_dead hbeing hdead hnone]
    have hintact : (character.withBeing
        (restoreHp { being with lifecycle := .alive })).Intact :=
      ⟨h.complete.setBeing _, h.callbacks, h.dialogue⟩
    refine Step.ensures_ok ?_ ⟨⟨hintact, rfl, rfl⟩, _, rfl, ?_⟩
    · simp [Effect.RemovesAtMost, Effect.removal?]
    · exact Being.isDead_restoreHp

theorem Intact.disconnected_lives (h : character.Intact)
    (hnone : character.context.callbacks = {}) (alive : SessionId → Bool) :
    (character.disconnected alive).Ensures (Effect.RemovesAtMost character.id) mistake fun result =>
      character.Persists result.1 ∧ result.1.Lives := by
  unfold disconnected
  have hcancel : ({ character with connected := false, client := none, dialogue := none }
      |>.cancelTransaction alive).Ensures (Effect.RemovesAtMost character.id) mistake
      character.Persists := by
    have hsession : ∀ session, (Effect.cancelled session).RemovesAtMost character.id :=
      fun _ _ hsome => by cases hsome
    have hlogged : ∀ event, (Effect.logged event).RemovesAtMost character.id :=
      fun _ _ hsome => by cases hsome
    refine (Transaction.cancel_ensures hsession hlogged alive).bind fun _ _ => Step.ensures_pure ?_
    exact ⟨⟨h.complete, h.callbacks, fun _ hnone => by cases hnone⟩, rfl, rfl⟩
  refine hcancel.bind fun detached hdetached => ?_
  obtain ⟨being, hbeing⟩ := hdetached.intact.complete.being
  rw [isDead, requireBeing_eq hbeing, pure_bind, pure_bind]
  cases hdead : being.isDead with
  | true =>
    have hrespawn : detached.respawn.Ensures (Effect.RemovesAtMost character.id) mistake
        fun result => detached.Persists result.1 ∧ result.1.Lives :=
      hdetached.id ▸ hdetached.intact.respawn_lives (hdetached.context ▸ hnone)
    exact hrespawn.bind fun result hresult =>
      Step.ensures_pure ⟨hdetached.trans hresult.1, hresult.2⟩
  | false =>
    rw [if_neg Bool.false_ne_true, Step.emit_bind]
    refine Step.ensures_ok ?_ ⟨hdetached, being, hbeing, hdead⟩
    simp [Effect.RemovesAtMost, Effect.removal?, hdetached.id]

/-! ### Every tick -/

theorem Intact.tick_steady (h : character.Intact) (elapsed : Duration) :
    (character.tick elapsed).Ensures (fun _ => True) mistake character.Steady := by
  obtain ⟨abilities, habilities⟩ := h.complete.abilities
  rw [tick, requireAbilities_eq habilities, pure_bind]
  have hedited := h.edited_withAbilities habilities (abilities.tick elapsed)
  exact Step.ensures_pure ⟨hedited.persists h, rfl, .rfl⟩

theorem Intact.drain_steady (h : character.Intact) {operation : Operation}
    (hdrains : operation.Drains) :
    (character.perform operation).Ensures (fun _ => True) mistake character.Steady := by
  obtain ⟨being, hbeing⟩ := h.complete.being
  obtain ⟨abilities, habilities⟩ := h.complete.abilities
  rw [perform_of_drains hdrains hbeing habilities]
  refine Step.ensures_ok (fun _ _ => trivial) ⟨⟨h.drained, rfl, rfl⟩, rfl, ?_⟩
  rw [dead_iff being?_drained, dead_iff hbeing]
  rfl

/-- A warp moves a character and does nothing else to it. -/
theorem Intact.steady_setActor (h : character.Intact) (actor : Actor) :
    character.Steady { character with entity := character.entity.setActor actor } :=
  ⟨⟨⟨h.complete.setActor actor, h.callbacks, h.dialogue⟩, rfl, rfl⟩, rfl, .rfl⟩

/-! ### Newborn characters -/

theorem lifecycle_foldl_recalculate (ids : List AttributeId) :
    (ids.foldl .recalculate being).lifecycle = being.lifecycle := by
  induction ids generalizing being with
  | nil => rfl
  | cons id ids ih => exact ih

theorem lives_newborn {entity : EntityId} {context : CharacterContext} {client : Option ClientId}
    {databaseId : Int32} {format : Load Unit} {name : String} {cursor : Cursor} {state : LoadState}
    (hformat : format.Proper)
    (hrun : (format.run ⟨.initial context name, cursor⟩).run = (.ok (), state)) :
    (newborn entity context client databaseId state.data).Lives := by
  refine ⟨_, being?_newborn, ?_⟩
  have hcalls := hformat ⟨.initial context name, cursor⟩
  rw [hrun] at hcalls
  rw [Being.isDead, Being.clearChanged, lifecycle_foldl_recalculate, Being.clearChanged,
    hcalls.lifecycle_eq]
  rfl

/-- The character that a message describes is alive. -/
theorem ofMessage_lives {entity : EntityId} {context : CharacterContext} {client : Option ClientId}
    {format : Load Unit} {message : Cursor} (hgentle : context.callbacks.Gentle)
    (hformat : format.Proper) :
    (ofMessage entity context format client message).Ensures
      (fun effect => ∃ event, effect = .logged event) (fun _ => False)
      fun outcome => ∀ character, outcome.1 = .ok character →
        character.Intact ∧ character.id = entity ∧ character.context = context ∧
          character.Lives := by
  refine ofMessage_ensures.imp fun outcome hborn character hcharacter => ?_
  obtain ⟨databaseId, name, cursor, state, -, hrun, rfl⟩ := hborn character hcharacter
  exact ⟨intact_newborn hgentle, rfl, rfl, lives_newborn hformat hrun⟩

theorem triggerLoginCallback_of_none (h : character.context.callbacks = {}) :
    character.triggerLoginCallback = pure character := by
  rw [triggerLoginCallback, h]
  rfl

end Character

end CharacterSim
