import CharacterSim.Proofs.Character.Moments
import CharacterSim.Proofs.Character.Revival

/-! What one operation does to the life of a character whose scripts leave its lifecycle alone. It
goes on, or it ends, or it begins anew; the script of the passage is called, and a revival that no
script sees to restores vitality and asks for one warp. -/

namespace CharacterSim

namespace Effect

/-- The script that is called, and for whom. -/
def call? : Effect → Option (Hook × EntityId)
  | called hook entity => some (hook, entity)
  | _ => none

/-- The scripts that are called, in order. -/
def calls (effects : List Effect) : List (Hook × EntityId) := effects.filterMap call?

/-- The warps that are asked for, in order. -/
def warps (effects : List Effect) : List WorldRequest :=
  (Step.requests effects).filter fun
    | .warp .. => true
    | .removal _ => false

/-- Neither is a script called nor anything asked for. -/
def IsQuiet (effect : Effect) : Prop := effect.call? = none ∧ effect.request? = none

variable {effects more : List Effect}

theorem calls_append : calls (effects ++ more) = calls effects ++ calls more :=
  List.filterMap_append

theorem calls_of_quiet (h : ∀ effect ∈ effects, effect.IsQuiet) : calls effects = [] :=
  List.filterMap_eq_nil_iff.2 fun effect hmem => (h effect hmem).1

theorem requests_of_quiet (h : ∀ effect ∈ effects, effect.IsQuiet) : Step.requests effects = [] :=
  List.filterMap_eq_nil_iff.2 fun effect hmem => (h effect hmem).2

theorem warps_of_quiet (h : ∀ effect ∈ effects, effect.IsQuiet) : warps effects = [] := by
  rw [warps, requests_of_quiet h, List.filter_nil]

theorem warps_append : warps (effects ++ more) = warps effects ++ warps more := by
  simp [warps, Step.requests]

end Effect

namespace ScriptCallbacks

/-- Whether a script is registered. -/
def registers (callbacks : ScriptCallbacks) : Hook → Bool
  | .death => callbacks.death.isSome
  | .deathAccepted => callbacks.deathAccepted.isSome
  | .login => callbacks.login.isSome

/-- What the script of deaths makes of an entity. -/
def mourned (callbacks : ScriptCallbacks) (history : ScriptHistory) (entity : Entity) : Entity :=
  match callbacks.death with
  | some callback => callback history entity
  | none => entity

/-- What the script of revivals makes of an entity, and whether it sees to the rest. -/
def accepted (callbacks : ScriptCallbacks) (history : ScriptHistory) (entity : Entity) :
    Entity × Bool :=
  match callbacks.deathAccepted with
  | some callback => callback history entity
  | none => (entity, false)

/-- The history after a hook: a script that is registered has been given the entity. -/
def recorded (callbacks : ScriptCallbacks) (hook : Hook) (history : ScriptHistory)
    (entity : Entity) : ScriptHistory :=
  if callbacks.registers hook then (hook, entity) :: history else history

/-- The one call that is due at a hook, if a script is registered. -/
def due (callbacks : ScriptCallbacks) (hook : Hook) (entity : EntityId) : List (Hook × EntityId) :=
  if callbacks.registers hook then [(hook, entity)] else []

/-- The call that is due is made. -/
def callOf (callbacks : ScriptCallbacks) (hook : Hook) (entity : EntityId) : List Effect :=
  (callbacks.due hook entity).map fun call => .called call.1 call.2

/-- The scripts of deaths and revivals leave an entity its being, and this its lifecycle, whatever
they were given before. -/
structure SparesLifecycle (callbacks : ScriptCallbacks) : Prop where
  mourned : ∀ history (entity : Entity) (being : Being), entity.being? = some being →
    ∃ next, (callbacks.mourned history entity).being? = some next ∧
      next.lifecycle = being.lifecycle
  accepted : ∀ history (entity : Entity) (being : Being), entity.being? = some being →
    ∃ next, (callbacks.accepted history entity).1.being? = some next ∧
      next.lifecycle = being.lifecycle

variable (callbacks : ScriptCallbacks) (history : ScriptHistory) (entity : Entity)

theorem onDeath_eq : callbacks.onDeath history entity = ⟨callbacks.callOf .death entity.id,
    .ok (callbacks.mourned history entity, callbacks.recorded .death history entity)⟩ := by
  unfold onDeath notify callOf due recorded registers mourned
  cases callbacks.death with
  | none => rfl
  | some callback => rfl

theorem onDeathAccepted_eq : callbacks.onDeathAccepted history entity =
    ⟨callbacks.callOf .deathAccepted entity.id, .ok ((callbacks.accepted history entity).1,
      (callbacks.accepted history entity).2, callbacks.recorded .deathAccepted history entity)⟩ := by
  unfold onDeathAccepted callOf due recorded registers accepted
  cases callbacks.deathAccepted with
  | none => rfl
  | some callback => rfl

theorem calls_callOf (hook : Hook) (entity : EntityId) :
    Effect.calls (callbacks.callOf hook entity) = callbacks.due hook entity := by
  rw [callOf, due]
  split <;> rfl

theorem warps_callOf (hook : Hook) (entity : EntityId) :
    Effect.warps (callbacks.callOf hook entity) = [] := by
  rw [callOf, due]
  split <;> rfl

theorem map_fst_due (hook : Hook) (entity : EntityId) :
    (callbacks.due hook entity).map Prod.fst = [hook].filter callbacks.registers := by
  rw [due, List.filter_cons, List.filter_nil]
  split <;> rfl

theorem map_fst_recorded (hook : Hook) : (callbacks.recorded hook history entity).map Prod.fst =
    [hook].filter callbacks.registers ++ history.map Prod.fst := by
  rw [recorded, List.filter_cons, List.filter_nil]
  split <;> rfl

end ScriptCallbacks

namespace ProgressionLedger

variable (ledger : ProgressionLedger) (being : Being) (id : AttributeId)

theorem lifecycle_usePoint : (ledger.usePoint being id).2.1.lifecycle = being.lifecycle := by
  unfold usePoint
  split
  · rfl
  · split <;> rfl

theorem lifecycle_useCorrection :
    (ledger.useCorrection being id).2.1.lifecycle = being.lifecycle := by
  unfold useCorrection
  split
  · rfl
  · split
    · rfl
    · split
      · rfl
      · split <;> rfl

end ProgressionLedger

namespace Being

theorem lifecycle_restoreHp (being : Being) :
    (Character.restoreHp being).lifecycle = being.lifecycle := by
  unfold Character.restoreHp
  split <;> rfl

/-- Restored vitality is what it can be at most. -/
theorem base?_restoreHp {being : Being} {full : Float} (hfull : being.modified? .maxHp = some full)
    (hcarried : (being.base? .hp).isSome = true) :
    (Character.restoreHp being).base? .hp = some full := by
  obtain ⟨base, hbase⟩ := Option.isSome_iff_exists.1 hcarried
  have hstored : being.attributes.base? .hp = some base := hbase
  unfold Character.restoreHp
  rw [hfull]
  show (being.attributes.setBase .hp full).1.base? .hp = some full
  rw [AttributeStore.base?_setBase, if_pos rfl, hstored]
  rfl

end Being

namespace Character

/-- Whether a character lives, if it carries a being. -/
def lifecycle? (character : Character) : Option LifecycleState :=
  character.entity.being?.map (·.lifecycle)

/-- What the script of revivals makes of a character that is alive again, and whether it sees to the
rest. -/
def revival (character : Character) : Entity × Bool :=
  character.context.callbacks.accepted character.scripted
    (character.entity.updateBeing ({ · with lifecycle := .alive }))

/-- What the scripts were given for a character once it is alive again. -/
def revivalHistory (character : Character) : ScriptHistory :=
  character.context.callbacks.recorded .deathAccepted character.scripted
    (character.entity.updateBeing ({ · with lifecycle := .alive }))

/-- What can become of the life of a character, with the scripts that are called, what they are given
and the warps that are asked for. -/
inductive Course (before : Character) (effects : List Effect) (after : Character) : Prop where
  /-- It goes on as it was. -/
  | stays (hlifecycle : after.lifecycle? = before.lifecycle?) (hcalls : Effect.calls effects = [])
    (hwarps : Effect.warps effects = []) (hscripted : after.scripted = before.scripted)
  /-- It ends, and the script, which is given the dead, has the last word. -/
  | dies (given : Entity) (hbefore : before.lifecycle? = some .alive)
    (hafter : after.lifecycle? = some .dead)
    (hcalls : Effect.calls effects = before.context.callbacks.due .death before.id)
    (hwarps : Effect.warps effects = [])
    (hgiven : given.being?.map (·.lifecycle) = some .dead)
    (hentity : after.entity = before.context.callbacks.mourned before.scripted given)
    (hscripted : after.scripted = before.context.callbacks.recorded .death before.scripted given)
  /-- It begins anew, and the script sees to the rest. -/
  | handled (hbefore : before.lifecycle? = some .dead) (hafter : after.lifecycle? = some .alive)
    (hcalls : Effect.calls effects = before.context.callbacks.due .deathAccepted before.id)
    (hrevival : before.revival = (after.entity, true)) (hwarps : Effect.warps effects = [])
    (hscripted : after.scripted = before.revivalHistory)
  /-- It begins anew, and no script sees to the rest. -/
  | restored (entity : Entity) (hbefore : before.lifecycle? = some .dead)
    (hafter : after.lifecycle? = some .alive)
    (hcalls : Effect.calls effects = before.context.callbacks.due .deathAccepted before.id)
    (hrevival : before.revival = (entity, false))
    (hentity : after.entity = entity.updateBeing restoreHp)
    (hvitality : ∀ being full, entity.being? = some being → being.modified? .maxHp = some full →
      (being.base? .hp).isSome = true → after.entity.being?.bind (·.base? .hp) = some full)
    (hwarps : Effect.warps effects = [revivalWarp entity.id before.context])
    (hscripted : after.scripted = before.revivalHistory)

variable {character before after : Character} {being : Being} {effects : List Effect}

theorem lifecycle?_eq (h : character.entity.being? = some being) :
    character.lifecycle? = some being.lifecycle := by
  rw [lifecycle?, h, Option.map_some]

theorem die_of_dead (hbeing : character.entity.being? = some being)
    (hdead : being.lifecycle = .dead) :
    character.die = ⟨[], .ok (character, .error .alreadyDead)⟩ := by
  have hrefused : being.die = .error .alreadyDead := by
    rw [Being.die, hdead]
    rfl
  rw [die, requireBeing_eq hbeing, pure_bind, hrefused]
  rfl

/-- Who lives dies, and the script of deaths has the last word. -/
theorem die_eq_of_alive (hbeing : character.entity.being? = some being)
    (halive : being.lifecycle = .alive) :
    character.die = ⟨character.context.callbacks.callOf .death character.id,
      .ok ({ character with
        entity := character.context.callbacks.mourned character.scripted
          (character.entity.setBeing { being with lifecycle := .dead })
        scripted := character.context.callbacks.recorded .death character.scripted
          (character.entity.setBeing { being with lifecycle := .dead }) }, .ok ())⟩ := by
  have hdies : being.die = .ok { being with lifecycle := .dead } := by
    rw [Being.die, halive]
    rfl
  rw [die, requireBeing_eq hbeing, pure_bind, hdies]
  dsimp only
  rw [ScriptCallbacks.onDeath_eq, Step.bind_of_ok rfl, Step.effects_pure, List.append_nil]
  rfl

theorem die_courses (hbeing : character.entity.being? = some being)
    (halive : being.lifecycle = .alive) (hspares : character.context.callbacks.SparesLifecycle) :
    ∃ effects after, character.die = ⟨effects, .ok (after, .ok ())⟩ ∧
      character.Course effects after ∧ after.context = character.context := by
  obtain ⟨next, hnext, hlifecycle⟩ := hspares.mourned character.scripted
    (character.entity.setBeing { being with lifecycle := .dead }) _ rfl
  refine ⟨_, _, die_eq_of_alive hbeing halive, ?_, rfl⟩
  exact .dies _ ((lifecycle?_eq hbeing).trans (congrArg some halive))
    ((lifecycle?_eq hnext).trans (congrArg some hlifecycle)) (ScriptCallbacks.calls_callOf ..)
    (ScriptCallbacks.warps_callOf ..) rfl rfl rfl

theorem respawn_of_alive (hbeing : character.entity.being? = some being)
    (halive : being.lifecycle = .alive) : ∃ event,
    character.respawn = ⟨[.logged event], .ok (character, .error .notDead)⟩ := by
  have hrefused : being.revive = .error .notDead := by
    rw [Being.revive, halive]
    rfl
  rw [respawn, requireBeing_eq hbeing, pure_bind, hrefused]
  dsimp only [Step.log]
  rw [Step.emit_bind]
  exact ⟨_, rfl⟩

theorem onDeathAccepted_eq_revival (hbeing : character.entity.being? = some being) :
    character.context.callbacks.onDeathAccepted character.scripted
        (character.entity.setBeing { being with lifecycle := .alive }) =
      ⟨character.context.callbacks.callOf .deathAccepted character.id,
        .ok (character.revival.1, character.revival.2, character.revivalHistory)⟩ := by
  rw [ScriptCallbacks.onDeathAccepted_eq, revival, revivalHistory, Entity.updateBeing_eq, hbeing]
  rfl

/-- A script that sees to a respawn has the last word. -/
theorem respawn_handled {entity : Entity} (hbeing : character.entity.being? = some being)
    (hdead : being.isDead = true) (hrevival : character.revival = (entity, true)) :
    character.respawn = ⟨character.context.callbacks.callOf .deathAccepted character.id,
      .ok ({ character with entity, scripted := character.revivalHistory }, .ok ())⟩ := by
  rw [respawn, requireBeing_eq hbeing, pure_bind, Being.revive_of_dead hdead]
  dsimp only
  rw [onDeathAccepted_eq_revival hbeing, hrevival, Step.bind_of_ok rfl]
  exact congrArg (Step.mk · _) (List.append_nil _)

/-- When no script sees to a respawn, vitality is restored and a warp asked for. -/
theorem respawn_restored {entity : Entity} {next : Being}
    (hbeing : character.entity.being? = some being) (hdead : being.isDead = true)
    (hrevival : character.revival = (entity, false)) (hnext : entity.being? = some next) :
    character.respawn = ⟨character.context.callbacks.callOf .deathAccepted character.id ++
        [.requested (revivalWarp entity.id character.context)],
      .ok ({ character with
        entity := entity.setBeing (restoreHp next)
        scripted := character.revivalHistory }, .ok ())⟩ := by
  rw [respawn, requireBeing_eq hbeing, pure_bind, Being.revive_of_dead hdead]
  dsimp only
  rw [onDeathAccepted_eq_revival hbeing, hrevival, Step.bind_of_ok rfl]
  dsimp only
  have hheld : ({ character with entity, scripted := character.revivalHistory } :
      Character).requireBeing = pure next := requireBeing_eq hnext
  rw [if_neg Bool.false_ne_true, hheld, pure_bind, Step.emit_bind]
  rfl

theorem respawn_courses (hbeing : character.entity.being? = some being)
    (hdead : being.lifecycle = .dead) (hspares : character.context.callbacks.SparesLifecycle) :
    ∃ effects after, character.respawn = ⟨effects, .ok (after, .ok ())⟩ ∧
      character.Course effects after ∧ after.context = character.context := by
  have hisDead : being.isDead = true := by
    rw [Being.isDead, hdead]
    rfl
  have hbefore : character.lifecycle? = some .dead :=
    (lifecycle?_eq hbeing).trans (congrArg some hdead)
  have hcalls := character.context.callbacks.calls_callOf .deathAccepted character.id
  have hwarps := character.context.callbacks.warps_callOf .deathAccepted character.id
  obtain ⟨next, hnext, hlifecycle⟩ := hspares.accepted character.scripted
    (character.entity.updateBeing ({ · with lifecycle := .alive }))
    { being with lifecycle := .alive } (by rw [Entity.updateBeing_eq, hbeing]; rfl)
  obtain ⟨⟨entity, handled⟩, hrevival⟩ : ∃ outcome, character.revival = outcome := ⟨_, rfl⟩
  change character.revival.1.being? = some next at hnext
  rw [hrevival] at hnext
  cases handled with
  | true =>
    refine ⟨_, _, respawn_handled hbeing hisDead hrevival, ?_, rfl⟩
    exact .handled hbefore ((lifecycle?_eq hnext).trans (congrArg some hlifecycle)) hcalls hrevival
      hwarps rfl
  | false =>
    have hrestored : entity.updateBeing restoreHp = entity.setBeing (restoreHp next) := by
      rw [Entity.updateBeing_eq, hnext]
    refine ⟨_, _, respawn_restored hbeing hisDead hrevival hnext, ?_, rfl⟩
    refine .restored entity hbefore ?_ ?_ hrevival hrestored.symm ?_ ?_ rfl
    · exact congrArg some (next.lifecycle_restoreHp.trans hlifecycle)
    · rw [Effect.calls_append, hcalls]
      exact List.append_nil _
    · intro other full hother hfull hcarried
      cases hnext.symm.trans hother
      exact Being.base?_restoreHp hfull hcarried
    · rw [Effect.warps_append, hwarps]
      rfl

/-- What is done quietly before, to anything but the entity and what the scripts were given, changes
nothing of the course. -/
theorem Course.of_quiet {detached : Character} {quiet : List Effect}
    (h : detached.Course effects after) (hquiet : ∀ effect ∈ quiet, effect.IsQuiet)
    (hentity : detached.entity = before.entity) (hcontext : detached.context = before.context)
    (hscripted : detached.scripted = before.scripted) :
    before.Course (quiet ++ effects) after := by
  have hcalls : Effect.calls (quiet ++ effects) = Effect.calls effects := by
    rw [Effect.calls_append, Effect.calls_of_quiet hquiet, List.nil_append]
  have hwarps : Effect.warps (quiet ++ effects) = Effect.warps effects := by
    rw [Effect.warps_append, Effect.warps_of_quiet hquiet, List.nil_append]
  have hlifecycle : detached.lifecycle? = before.lifecycle? := by
    rw [lifecycle?, hentity, lifecycle?]
  have hid : detached.id = before.id := congrArg Entity.id hentity
  have hrevival : detached.revival = before.revival := by
    rw [revival, hentity, hcontext, hscripted, revival]
  have hhistory : detached.revivalHistory = before.revivalHistory := by
    rw [revivalHistory, hentity, hcontext, hscripted, revivalHistory]
  cases h with
  | stays hsame hcalled hwarped hkept =>
    exact .stays (hsame.trans hlifecycle) (hcalls.trans hcalled) (hwarps.trans hwarped)
      (hkept.trans hscripted)
  | dies given hbefore hafter hcalled hwarped hgiven hmourned hrecorded =>
    rw [hlifecycle] at hbefore
    rw [hcontext, hid] at hcalled
    rw [hcontext, hscripted] at hmourned hrecorded
    exact .dies given hbefore hafter (hcalls.trans hcalled) (hwarps.trans hwarped) hgiven hmourned
      hrecorded
  | handled hbefore hafter hcalled hscript hwarped hrecorded =>
    rw [hlifecycle] at hbefore
    rw [hcontext, hid] at hcalled
    rw [hrevival] at hscript
    exact .handled hbefore hafter (hcalls.trans hcalled) hscript (hwarps.trans hwarped)
      (hrecorded.trans hhistory)
  | restored entity hbefore hafter hcalled hscript hleft hvitality hwarped hrecorded =>
    rw [hlifecycle] at hbefore
    rw [hcontext, hid] at hcalled
    rw [hrevival] at hscript
    rw [hcontext] at hwarped
    exact .restored entity hbefore hafter (hcalls.trans hcalled) hscript hleft hvitality
      (hwarps.trans hwarped) (hrecorded.trans hhistory)

/-- Whoever lives, hurt or not, comes to the same. -/
theorem Course.of_withBeing (h : (character.withBeing being).Course effects after)
    (hstate : character.lifecycle? = some .alive) (halive : being.lifecycle = .alive) :
    character.Course effects after := by
  have hhurt : (character.withBeing being).lifecycle? = some .alive := congrArg some halive
  cases h with
  | stays hsame hcalls hwarps hkept =>
    exact .stays ((hsame.trans hhurt).trans hstate.symm) hcalls hwarps hkept
  | dies given _ hafter hcalls hwarps hgiven hmourned hrecorded =>
    exact .dies given hstate hafter hcalls hwarps hgiven hmourned hrecorded
  | handled hdead => cases hhurt.symm.trans hdead
  | restored _ hdead => cases hhurt.symm.trans hdead

theorem disconnected_courses (hbeing : character.entity.being? = some being)
    (hspares : character.context.callbacks.SparesLifecycle) (alive : SessionId → Bool) :
    ∃ effects after outcome, character.disconnected alive = ⟨effects, .ok (after, outcome)⟩ ∧
      character.Course effects after ∧ after.context = character.context := by
  have hcancel : ({ character with connected := false, client := none, dialogue := none }
      |>.cancelTransaction alive).Ensures Effect.IsQuiet (fun _ => False) fun after =>
        after.entity = character.entity ∧ after.context = character.context ∧
          after.scripted = character.scripted :=
    (Transaction.cancel_ensures (fun _ => ⟨rfl, rfl⟩) (fun _ => ⟨rfl, rfl⟩) alive).bind
      fun _ _ => Step.ensures_pure ⟨rfl, rfl, rfl⟩
  obtain ⟨detached, hdetached, hentity, hcontext, hscripted⟩ := hcancel.exists_ok
  have hquiet := hcancel.effects
  have hheld : detached.entity.being? = some being := hentity ▸ hbeing
  unfold disconnected
  rw [Step.bind_of_ok hdetached, isDead, requireBeing_eq hheld, pure_bind, pure_bind, Being.isDead]
  cases hlifecycle : being.lifecycle with
  | dead =>
    obtain ⟨effects, after, hrespawn, hcourse, hkept⟩ :=
      respawn_courses hheld hlifecycle (hcontext ▸ hspares)
    rw [LifecycleState.isDead, if_pos rfl, hrespawn, Step.bind_of_ok rfl]
    refine ⟨_, after, _, rfl, ?_, hkept.trans hcontext⟩
    rw [Step.effects_pure, List.append_nil]
    exact hcourse.of_quiet hquiet hentity hcontext hscripted
  | alive =>
    rw [LifecycleState.isDead, if_neg Bool.false_ne_true, Step.emit_bind]
    refine ⟨_, detached, _, rfl, ?_, hcontext⟩
    exact (Course.stays rfl rfl rfl rfl : detached.Course _ detached).of_quiet hquiet hentity hcontext
      hscripted

/-- Who is hurt lives on or dies. -/
theorem applyDamage_courses (hbeing : character.entity.being? = some being)
    (hspares : character.context.callbacks.SparesLifecycle) (amount : Float) :
    ∃ effects after, character.applyDamage amount = ⟨effects, .ok after⟩ ∧
      character.Course effects after ∧ after.context = character.context := by
  rw [applyDamage, requireBeing_eq hbeing, pure_bind, Being.isDead]
  cases hlifecycle : being.lifecycle with
  | dead => exact ⟨[], character, rfl, .stays rfl rfl rfl rfl, rfl⟩
  | alive =>
    rw [LifecycleState.isDead, if_neg Bool.false_ne_true]
    cases being.base? .hp with
    | none => exact ⟨[], character, rfl, .stays rfl rfl rfl rfl, rfl⟩
    | some hp =>
      dsimp only
      generalize Amount.positivePart (hp - Amount.positivePart amount) = left
      have hbefore : character.lifecycle? = some .alive :=
        (lifecycle?_eq hbeing).trans (congrArg some hlifecycle)
      split
      · have hhurt : (character.withBeing (being.setAttribute .hp left).1).entity.being?
            = some (being.setAttribute .hp left).1 := rfl
        obtain ⟨effects, after, hdie, hcourse, hcontext⟩ := die_courses hhurt hlifecycle hspares
        rw [hdie, Step.bind_of_ok rfl, Step.effects_pure, List.append_nil]
        exact ⟨effects, after, rfl, hcourse.of_withBeing hbefore hlifecycle, hcontext⟩
      · refine ⟨[], _, rfl, .stays ?_ rfl rfl rfl, rfl⟩
        exact (congrArg some hlifecycle).trans hbefore.symm

/-! ### Operations -/

/-- The operation is on attributes. -/
def Operation.EditsAttributes : Operation → Prop
  | modifiedAllAttributes | setBase .. | addModifier .. | removeModifier .. => True
  | setAttributePoints _ | setCorrectionPoints _ | usePoint _ | useCorrection _ => True
  | _ => False

/-- The operation is one of life and death, or on attributes. -/
inductive Operation.Vital : Operation → Prop where
  | attributes {operation : Operation} (h : operation.EditsAttributes) : Vital operation
  | die : Vital .die
  | applyDamage (amount : Float) : Vital (.applyDamage amount)
  | respawn : Vital .respawn
  | disconnected (alive : SessionId → Bool) : Vital (.disconnected alive)

/-- Who has another being in the same state goes on as before. -/
theorem lifecycle?_withBeing {next : Being} (hbeing : character.entity.being? = some being)
    (hsame : next.lifecycle = being.lifecycle) :
    (character.withBeing next).lifecycle? = character.lifecycle? :=
  (congrArg some hsame).trans (lifecycle?_eq hbeing).symm

theorem respond_attributes {operation : Operation} (hbeing : character.entity.being? = some being)
    (h : operation.EditsAttributes) : ∃ effects after answer,
      character.respond operation = ⟨effects, .ok (after, answer)⟩ ∧
        (∀ effect ∈ effects, effect.IsQuiet) ∧ after.lifecycle? = character.lifecycle? ∧
        after.context = character.context ∧ after.scripted = character.scripted ∧
        ∀ result, answer ≠ .lifecycle result := by
  have hnone : ∀ effect ∈ ([] : List Effect), effect.IsQuiet := List.forall_mem_nil _
  cases operation with
  | modifiedAllAttributes =>
    rw [respond, modifiedAllAttributes_eq hbeing, Step.bind_of_ok rfl]
    refine ⟨_, _, _, rfl, ?_, ?_, rfl, rfl, by simp⟩
    · simp [Effect.IsQuiet, Effect.call?, Effect.request?]
    · exact lifecycle?_withBeing hbeing (lifecycle_foldl_recalculate _)
  | setBase id value =>
    rw [respond, setBase, requireBeing_eq hbeing, pure_bind]
    exact ⟨_, _, _, rfl, hnone, lifecycle?_withBeing hbeing rfl, rfl, rfl, by simp⟩
  | addModifier id source modifier =>
    rw [respond, addModifier, requireBeing_eq hbeing, pure_bind]
    exact ⟨_, _, _, rfl, hnone, lifecycle?_withBeing hbeing rfl, rfl, rfl, by simp⟩
  | removeModifier id source =>
    rw [respond, removeModifier, requireBeing_eq hbeing, pure_bind]
    exact ⟨_, _, _, rfl, hnone, lifecycle?_withBeing hbeing rfl, rfl, rfl, by simp⟩
  | setAttributePoints points => exact ⟨_, _, _, rfl, hnone, rfl, rfl, rfl, by simp⟩
  | setCorrectionPoints points => exact ⟨_, _, _, rfl, hnone, rfl, rfl, rfl, by simp⟩
  | usePoint id =>
    rw [respond, usePoint, requireBeing_eq hbeing, pure_bind]
    exact ⟨_, _, _, rfl, hnone, lifecycle?_withBeing hbeing
      (character.ledger.lifecycle_usePoint being id), rfl, rfl, by simp⟩
  | useCorrection id =>
    rw [respond, useCorrection, requireBeing_eq hbeing, pure_bind]
    exact ⟨_, _, _, rfl, hnone, lifecycle?_withBeing hbeing
      (character.ledger.lifecycle_useCorrection being id), rfl, rfl, by simp⟩
  | _ => exact h.elim

end Character

end CharacterSim
