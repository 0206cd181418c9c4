import CharacterSim.Proofs.Character.Wholeness

/-! Where a character is, and what moves it, when no script interferes. A revival asks for a warp to
the respawn point and leaves the character where it lies; nothing else asks for a warp, and damage
moves nobody. -/

namespace CharacterSim

/-- Where an actor stands. -/
def Actor.place (actor : Actor) : MapId × Position := (actor.map, actor.position)

/-- Where the dead come back. -/
def RespawnPoint.place (point : RespawnPoint) : MapId × Position := (point.map, point.position)

namespace Character

variable {entity : EntityId} {context : CharacterContext} {character : Character} {being : Being}
  {mistake : Fault → Prop}

theorem place_eq {actor : Actor} (h : character.entity.actor? = some actor) :
    character.place = pure actor.place := by
  rw [Character.place, requireActor, h, Step.require_some, pure_bind]
  rfl

/-- The warp that a revival asks for. -/
def revivalWarp (entity : EntityId) (context : CharacterContext) : WorldRequest :=
  .warp entity context.config.respawn.map context.config.respawn.position

/-- What an operation does that may revive a character: it revives the dead, and asks for a warp. -/
structure Revives {α : Type} (entity : EntityId) (context : CharacterContext)
    (before : Character) (revived : α → Prop) (spared : List WorldRequest)
    (answer : (Character × α) × List WorldRequest) : Prop where
  actor : answer.1.1.entity.actor? = before.entity.actor?
  dead : before.Dead → revived answer.1.2 ∧ answer.1.1.Lives ∧
    answer.2 = [revivalWarp entity context]
  alive : ¬ before.Dead → ¬ revived answer.1.2 ∧ answer.2 = spared

theorem Whole.respawn_revives (h : character.Whole entity context)
    (hnone : context.callbacks = {}) :
    character.respawn.withRequests.Ensures (fun _ => True) mistake
      (character.Revives entity context (· = .ok ()) []) := by
  obtain ⟨being, hbeing⟩ := h.complete.being
  cases hdead : being.isDead with
  | true =>
    rw [respawn_of_dead hbeing hdead (h.context ▸ hnone), h.id, h.context]
    refine Step.ensures_ok (by simp) ⟨rfl, fun _ => ⟨rfl, ?_, rfl⟩, fun hnot => ?_⟩
    · exact ⟨_, rfl, Being.isDead_restoreHp⟩
    · exact absurd ((dead_iff hbeing).2 hdead) hnot
  | false =>
    have hlives : ¬ character.Dead := Lives.not_dead ⟨being, hbeing, hdead⟩
    obtain ⟨refusal, hrefused⟩ := Being.revive_of_alive hdead
    rw [respawn, requireBeing_eq hbeing, pure_bind, hrefused]
    dsimp only [Step.log]
    rw [Step.emit_bind]
    exact Step.ensures_ok (by simp) ⟨rfl, fun hdead => absurd hdead hlives, fun _ => ⟨by simp, rfl⟩⟩

theorem Whole.disconnected_revives (h : character.Whole entity context)
    (hnone : context.callbacks = {}) (alive : SessionId → Bool) :
    (character.disconnected alive).withRequests.Ensures (fun _ => True) mistake
      (character.Revives entity context (· = .respawned) [.removal entity]) := by
  have hcancel : ({ character with connected := false, client := none, dialogue := none }
      |>.cancelTransaction alive).Ensures (fun effect => effect.request? = none) mistake fun after =>
        after.Whole entity context ∧ after.entity = character.entity :=
    (Transaction.cancel_ensures (fun _ => rfl) (fun _ => rfl) alive).bind fun _ _ =>
      Step.ensures_pure ⟨⟨h.id, h.context, h.complete⟩, rfl⟩
  unfold disconnected
  rw [Step.withRequests_bind]
  refine hcancel.withRequests.anyEffects.bind ?_
  rintro ⟨detached, before⟩ ⟨⟨hdetached, hentity⟩, hbefore⟩
  have hquiet : before = [] := List.eq_nil_iff_forall_not_mem.2 fun request hmem => by
    cases hbefore request hmem
  obtain ⟨being, hbeing⟩ := hdetached.complete.being
  have hdead : character.Dead ↔ detached.Dead := by rw [Dead, Dead, hentity]
  dsimp only
  rw [hquiet, isDead, requireBeing_eq hbeing, pure_bind, pure_bind]
  cases hbeingDead : being.isDead with
  | true =>
    have hdetachedDead : detached.Dead := ⟨being, hbeing, hbeingDead⟩
    rw [if_pos rfl, Step.withRequests_bind, bind_assoc]
    refine (hdetached.respawn_revives hnone).bind ?_
    rintro ⟨⟨after, result⟩, requests⟩ ⟨hactor, hrevives, -⟩
    obtain ⟨-, hlives, hrequests⟩ := hrevives hdetachedDead
    dsimp only at hactor hlives hrequests
    refine Step.ensures_ok (by simp) ⟨by rw [← hentity]; exact hactor, fun _ => ⟨rfl, hlives, ?_⟩,
      fun hnot => absurd (hdead.2 hdetachedDead) hnot⟩
    simp [hrequests, Step.requests]
  | false =>
    have hlives : ¬ character.Dead := fun hdying =>
      Lives.not_dead ⟨being, hbeing, hbeingDead⟩ (hdead.1 hdying)
    rw [if_neg Bool.false_ne_true, Step.emit_bind]
    refine Step.ensures_ok (by simp) ⟨by rw [← hentity], fun hdying => absurd hdying hlives,
      fun _ => ⟨by simp, ?_⟩⟩
    simp [Step.requests, Effect.request?, hdetached.id]

theorem die_stays (hbeing : character.entity.being? = some being)
    (hnone : character.context.callbacks = {}) :
    character.die.Ensures (fun _ => True) mistake fun result =>
      result.1.entity.actor? = character.entity.actor? := by
  rw [die, requireBeing_eq hbeing, pure_bind]
  cases being.die with
  | error refusal => exact Step.ensures_pure rfl
  | ok dead =>
    dsimp only
    rw [hnone]
    exact Step.ensures_pure rfl

/-- Who is hurt stays in place, even to die there. -/
theorem Whole.applyDamage_stays (h : character.Whole entity context)
    (hnone : context.callbacks = {}) (amount : Float) :
    (character.applyDamage amount).Ensures (fun _ => True) mistake fun after =>
      after.entity.actor? = character.entity.actor? := by
  obtain ⟨being, hbeing⟩ := h.complete.being
  rw [applyDamage, requireBeing_eq hbeing, pure_bind]
  split
  · exact Step.ensures_pure rfl
  · split
    · exact Step.ensures_pure rfl
    · dsimp only
      split
      · exact (die_stays rfl (h.context ▸ hnone)).bind fun _ hactor => Step.ensures_pure hactor
      · exact Step.ensures_pure rfl

end Character

end CharacterSim
