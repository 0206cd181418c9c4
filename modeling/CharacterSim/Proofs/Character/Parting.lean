import CharacterSim.Proofs.Character.Conversation
import CharacterSim.Proofs.Character.Exclusivity
import CharacterSim.Proofs.Character.Marks
import CharacterSim.Proofs.Character.Reports
import CharacterSim.Proofs.Character.Wholeness

/-! The loss of the client, which is for good. What the character had with others is torn down, the
living ask for their removal and the dead are revived; and whatever happens to the character later,
nobody is told anything, while its changes are still taken note of and reported. -/

namespace CharacterSim

/-- No client is told anything. -/
def Effect.Unsent : Effect → Prop
  | sent _ _ => False
  | _ => True

theorem Effect.Aside.unsent {effect : Effect} (h : effect.Aside none) : effect.Unsent := by
  cases effect with
  | sent receiver message => exact nomatch h.1
  | _ => exact trivial

namespace ScriptCallbacks

variable (callbacks : ScriptCallbacks) (hook : Hook) (entity : EntityId)

theorem requests_callOf : Step.requests (callbacks.callOf hook entity) = [] := by
  rw [callOf, due]
  split <;> rfl

theorem cancellations_callOf : Effect.cancellations (callbacks.callOf hook entity) = [] := by
  rw [callOf, due]
  split <;> rfl

theorem Keeping.accepted {callbacks : ScriptCallbacks} (h : callbacks.Keeping)
    (history : ScriptHistory) (entity : Entity) :
    entity.Keeps (callbacks.accepted history entity).1 := by
  unfold ScriptCallbacks.accepted
  split
  · next callback hcallback => exact h.deathAccepted callback hcallback history entity
  · exact Entity.bound_keeps.refl entity

theorem sparesLifecycle_none : ({} : ScriptCallbacks).SparesLifecycle where
  mourned _ _ being hbeing := ⟨being, hbeing, rfl⟩
  accepted _ _ being hbeing := ⟨being, hbeing, rfl⟩

end ScriptCallbacks

namespace Character

variable {character before after : Character} {being : Being} {abilities : Abilities}
  {operation : Operation} {operations : List Operation} {entity : EntityId}
  {context : CharacterContext}

/-! ### Whoever is gone stays gone -/

/-- The character has no client. -/
structure Gone (character : Character) : Prop where
  connected : character.connected = false
  client : character.client = none

theorem StaysWith.gone (h : before.StaysWith after) (hgone : before.Gone) : after.Gone :=
  ⟨h.connected.trans hgone.connected, h.client.trans hgone.client⟩

theorem gone_detached (character : Character) : character.detached.Gone := ⟨rfl, rfl⟩

theorem LeavesBe.gone {α : Type} {outcome : α → Character} {step : Step α}
    (h : character.LeavesBe outcome step) (hgone : character.Gone) :
    step.Ensures Effect.Unsent (fun _ => True) fun value => (outcome value).Gone := by
  rw [LeavesBe, hgone.client] at h
  exact (h.allow fun _ haside => haside.unsent).imp fun _ hstays => hstays.gone hgone

/-- Where nobody listens, the last words of a dialogue are dropped. -/
theorem Gone.turns_ensures {dialogue : Dialogue} (h : character.Gone)
    (hturns : character.Turns operation dialogue) :
    (character.respond operation).Ensures Effect.Unsent (fun _ => True) fun result =>
      result.1.Gone := by
  rw [hturns.respond_eq, h.client]
  refine Step.ensures_ok (fun effect hmem => ?_) ⟨h.connected, rfl⟩
  rcases List.mem_cons.1 hmem with rfl | hmem
  · exact trivial
  · split at hmem
    · rw [List.mem_singleton.1 hmem]
      exact trivial
    · cases hmem

/-- No operation finds another client. -/
theorem Gone.respond_ensures (h : character.Gone) (operation : Operation) :
    (character.respond operation).Ensures Effect.Unsent (fun _ => True) fun result =>
      result.1.Gone := by
  by_cases hconcerns : operation.Concerns
  · cases operation with
    | startDialogue thread npc => exact h.turns_ensures (.inl rfl)
    | resumeDialogue =>
      cases hdialogue : character.dialogue with
      | none =>
        rw [respond, resumeDialogue_of_none hdialogue]
        exact Step.ensures_fail trivial
      | some dialogue => exact h.turns_ensures (.inr ⟨rfl, hdialogue⟩)
    | disconnected alive =>
      exact (character.leavesBe_respond_disconnected alive).gone character.gone_detached
    | _ => exact hconcerns.elim
  · exact (character.leavesBe_respond hconcerns).gone h

theorem Gone.performAll_ensures (h : character.Gone) (operations : List Operation) :
    (character.performAll operations).Ensures Effect.Unsent (fun _ => True) Gone := by
  refine Step.ensures_foldlM (motive := fun _ => Gone) (fun operation _ state hstate => ?_) h
  rw [perform_eq]
  exact (hstate.respond_ensures operation).bind fun _ hafter => Step.ensures_pure hafter

/-! ### Changes are still taken note of -/

/-- The change happened, and no note was taken of it. -/
def Awaits (character : Character) : SyncMark → Prop
  | .ofAttribute id => character.Pending id
  | .ofAbility id =>
    ∃ abilities, character.entity.abilities? = some abilities ∧ .changed id ∈ abilities.signals
  | .ofCooldown =>
    ∃ abilities, character.entity.abilities? = some abilities ∧ .cooldownStarted ∈ abilities.signals
  | .ofPoints => character.ledger.changed = true

/-- Note is taken of every change. The account server is told of changed attributes as they are now,
in their order; no change awaits notice any more; and marked is what was, and what changed, but on
the channels that are flushed. -/
structure Notes (character : Character) (operation : Operation) (being : Being) (after : Character) :
    Prop where
  result : (character.perform operation).result = .ok after
  reports : (character.perform operation).effects.filterMap Effect.update? =
    being.changed.toList.filterMap fun id => (character.values? id).map (character.report id)
  settled : ∀ change, ¬ after.Awaits change
  marks : ∀ change, after.dirty.Holds change ↔
    (character.dirty.Holds change ∨ character.Awaits change) ∧
      (operation.flushes being.isDead).contains change.channel.alone = false

theorem holds_absorbed (hbeing : character.entity.being? = some being)
    (habilities : character.entity.abilities? = some abilities) {change : SyncMark} :
    (character.absorbed being abilities).dirty.Holds change ↔
      character.dirty.Holds change ∨ character.Awaits change := by
  have hattributes := DirtySets.status_foldl_markAttribute character.dirty being.changed.toList
  have hsignals := DirtySets.status_foldl_markSignal
    (being.changed.toList.foldl .markAttribute character.dirty) abilities.signals
  rw [hattributes.1, hattributes.2.1, hattributes.2.2] at hsignals
  obtain ⟨hpossessed, hcooldown, hpoints⟩ := hsignals
  cases change with
  | ofAttribute id =>
    show id ∈ (character.absorbed being abilities).dirty.attributes ↔ _ ∨ character.Pending id
    rw [mem_dirty_absorbed, pending_iff hbeing, or_comm]
    rfl
  | ofAbility id =>
    simp only [Awaits, habilities, Option.some.injEq, exists_eq_left']
    rw [absorbed]
    dsimp only
    split
    · exact hpossessed id
    · exact hpossessed id
  | ofCooldown =>
    simp only [Awaits, habilities, Option.some.injEq, exists_eq_left']
    rw [absorbed]
    dsimp only
    split
    · exact hcooldown
    · exact hcooldown
  | ofPoints =>
    rw [absorbed]
    dsimp only
    split
    · next hchanged => exact iff_of_true rfl (.inr hchanged)
    · next hchanged =>
      show DirtySets.points _ = true ↔
        character.dirty.points = true ∨ character.ledger.changed = true
      rw [hpoints, or_iff_left hchanged]

theorem reports_drainEffects (hbeing : character.entity.being? = some being)
    (channels : SyncChannels) :
    (character.drainEffects being abilities channels).filterMap Effect.update? =
      being.changed.toList.filterMap fun id => (character.values? id).map (character.report id) := by
  have hdelivered : ∀ messages : List Message,
      (messages.map (delivery character.client)).filterMap Effect.update? = [] := by
    intro messages
    refine List.filterMap_eq_nil_iff.2 fun effect hmem => ?_
    obtain ⟨message, -, rfl⟩ := List.mem_map.1 hmem
    cases character.client <;> rfl
  rw [drainEffects, List.filterMap_append, hdelivered, List.append_nil, updates,
    List.filterMap_filterMap]
  refine List.filterMap_congr fun id _ => ?_
  rw [values?_eq hbeing]
  cases being.attributes.get? id <;> rfl

theorem notes_of_drains (hdrains : operation.Drains) (hbeing : character.entity.being? = some being)
    (habilities : character.entity.abilities? = some abilities) :
    character.Notes operation being
      (character.drained being abilities (operation.flushes being.isDead)) := by
  have hperform := perform_of_drains hdrains hbeing habilities
  refine ⟨by rw [hperform], ?_, ?_, ?_⟩
  · rw [hperform]
    exact reports_drainEffects hbeing _
  · intro change hawaits
    cases change with
    | ofAttribute id =>
      obtain ⟨_, hheld, hmem⟩ := hawaits
      cases hheld
      exact Being.not_mem_changed_clearChanged hmem
    | ofAbility id =>
      obtain ⟨_, hheld, hmem⟩ := hawaits
      cases hheld
      cases hmem
    | ofCooldown =>
      obtain ⟨_, hheld, hmem⟩ := hawaits
      cases hheld
      cases hmem
    | ofPoints => cases hawaits
  · intro change
    rw [drained]
    dsimp only
    rw [DirtySets.holds_clear, holds_absorbed hbeing habilities]

/-! ### What is torn down -/

/-- What is left of a character when its client went. -/
def forsaken (character : Character) : Character := { character.detached with transaction := .none }

theorem disconnected_eq (hbeing : character.entity.being? = some being) (alive : SessionId → Bool) :
    character.disconnected alive = do
      Step.emit (character.transaction.cancel alive).effects
      if being.isDead then return ((← character.forsaken.respawn).1, .respawned)
      else
        Step.emit [.requested (.removal character.id)]
        return (character.forsaken, .removed) := by
  have hresult := (Business.cancel_spec character.transaction alive).1
  have hcancel : character.detached.cancelTransaction alive =
      ⟨(character.transaction.cancel alive).effects, .ok character.forsaken⟩ := by
    rw [cancelTransaction]
    refine (Step.bind_of_ok hresult _).trans ?_
    rw [Step.effects_pure, List.append_nil]
    rfl
  have hheld : character.forsaken.requireBeing = pure being := requireBeing_eq hbeing
  show character.detached.cancelTransaction alive >>= _ = _
  rw [hcancel, Step.bind_of_ok rfl, Step.emit_bind, isDead, hheld, pure_bind, pure_bind]
  rfl

/-- Sessions are told that a transaction is cancelled; nobody is asked for anything. -/
theorem requests_cancel (active : Transaction) (alive : SessionId → Bool) :
    Step.requests (active.cancel alive).effects = [] := by
  have hquiet : (active.cancel alive).Ensures Effect.IsQuiet (fun _ => False) fun _ => True :=
    Transaction.cancel_ensures (fun _ => ⟨rfl, rfl⟩) (fun _ => ⟨rfl, rfl⟩) alive
  exact Effect.requests_of_quiet hquiet.effects

/-- What the loss of the client comes to. What the character had with others is over, and the session
that was active is told so if it is alive. The living ask for their removal and for nothing else; the
dead are revived, and ask for a warp unless a script sees to it. -/
structure TornDown (before : Character) (alive : SessionId → Bool) (effects : List Effect)
    (after : Character) (outcome : Disconnect) : Prop where
  gone : after.Gone
  silent : after.dialogue = none
  idle : after.transaction = .none
  lives : after.lifecycle? = some .alive
  cancelled : Effect.cancellations effects = (before.transaction.session?.filter alive).toList
  unsent : ∀ effect ∈ effects, effect.Unsent
  removed : before.lifecycle? = some .alive →
    outcome = .removed ∧ Step.requests effects = [.removal before.id]
  respawned : before.lifecycle? = some .dead → outcome = .respawned ∧
    Step.requests effects =
      if before.revival.2 then [] else [revivalWarp before.id before.context]

/-- What follows the cancellation decides what the loss of the client comes to. -/
theorem tornDown_of_eq {alive : SessionId → Bool} {rest : List Effect} {outcome : Disconnect}
    (heq : character.disconnected alive =
      ⟨(character.transaction.cancel alive).effects ++ rest, .ok (after, outcome)⟩)
    (hidle : after.transaction = .none) (hlives : after.lifecycle? = some .alive)
    (hcancelled : Effect.cancellations rest = [])
    (hremoved : character.lifecycle? = some .alive →
      outcome = .removed ∧ Step.requests rest = [.removal character.id])
    (hrespawned : character.lifecycle? = some .dead → outcome = .respawned ∧
      Step.requests rest =
        if character.revival.2 then [] else [revivalWarp character.id character.context]) :
    character.TornDown alive ((character.transaction.cancel alive).effects ++ rest) after
      outcome := by
  have hleaves := character.leavesBe_disconnected alive
  have hstays : character.detached.StaysWith after := hleaves.result (after, outcome) (by rw [heq])
  have hunsent := (hleaves.gone character.gone_detached).effects
  rw [heq] at hunsent
  have hrequests : Step.requests ((character.transaction.cancel alive).effects ++ rest) =
      Step.requests rest := by
    refine List.filterMap_append.trans ?_
    show Step.requests _ ++ Step.requests _ = _
    rw [requests_cancel, List.nil_append]
  refine ⟨hstays.gone character.gone_detached, hstays.dialogue, hidle, hlives, ?_, hunsent, ?_, ?_⟩
  · rw [Effect.cancellations_append, (Business.cancel_spec _ alive).2, hcancelled, List.append_nil]
  · rwa [hrequests]
  · rwa [hrequests]

theorem tornDown_of_alive (hbeing : character.entity.being? = some being)
    (halive : being.lifecycle = .alive) (alive : SessionId → Bool) :
    ∃ effects after outcome, character.disconnected alive = ⟨effects, .ok (after, outcome)⟩ ∧
      character.TornDown alive effects after outcome := by
  have hnotDead : being.isDead = false := by
    rw [Being.isDead, halive]
    rfl
  have hstate : character.lifecycle? = some .alive :=
    (lifecycle?_eq hbeing).trans (congrArg some halive)
  have heq : character.disconnected alive =
      ⟨(character.transaction.cancel alive).effects ++ [.requested (.removal character.id)],
        .ok (character.forsaken, .removed)⟩ := by
    rw [disconnected_eq hbeing, hnotDead, if_neg Bool.false_ne_true, Step.emit_bind]
    rfl
  refine ⟨_, _, _, heq, tornDown_of_eq heq rfl hstate rfl (fun _ => ⟨rfl, rfl⟩) fun hdead => ?_⟩
  cases hstate.symm.trans hdead

theorem disconnected_of_respawn {effects : List Effect} {answer : Except LifecycleError Unit}
    (hbeing : character.entity.being? = some being) (hdead : being.isDead = true)
    (hrespawn : character.forsaken.respawn = ⟨effects, .ok (after, answer)⟩)
    (alive : SessionId → Bool) : character.disconnected alive =
      ⟨(character.transaction.cancel alive).effects ++ effects, .ok (after, .respawned)⟩ := by
  rw [disconnected_eq hbeing, if_pos hdead, Step.emit_bind, hrespawn, Step.bind_of_ok rfl,
    Step.effects_pure, List.append_nil]
  rfl

theorem tornDown_of_dead (hbeing : character.entity.being? = some being)
    (hdead : being.lifecycle = .dead) (hkeeping : character.context.callbacks.Keeping)
    (hspares : character.context.callbacks.SparesLifecycle) (alive : SessionId → Bool) :
    ∃ effects after outcome, character.disconnected alive = ⟨effects, .ok (after, outcome)⟩ ∧
      character.TornDown alive effects after outcome := by
  have hisDead : being.isDead = true := by
    rw [Being.isDead, hdead]
    rfl
  have hstate : character.lifecycle? = some .dead :=
    (lifecycle?_eq hbeing).trans (congrArg some hdead)
  have hnotAlive : character.lifecycle? ≠ some .alive := by
    intro halive
    cases hstate.symm.trans halive
  have hheld : character.forsaken.entity.being? = some being := hbeing
  -- What the script of revivals leaves is alive, and the same entity.
  obtain ⟨next, hnext, hlifecycle⟩ := hspares.accepted character.scripted
    (character.entity.updateBeing ({ · with lifecycle := .alive }))
    { being with lifecycle := .alive } (by rw [Entity.updateBeing_eq, hbeing]; rfl)
  have hid : character.revival.1.id = character.id := by
    refine (hkeeping.accepted _ _).id.trans ?_
    rw [Entity.updateBeing_eq, hbeing]
    rfl
  change character.revival.1.being? = some next at hnext
  have hrevived : character.forsaken.revival = character.revival := rfl
  obtain ⟨⟨entity, handled⟩, hrevival⟩ : ∃ outcome, character.revival = outcome := ⟨_, rfl⟩
  rw [hrevival] at hnext hid
  rw [hrevival] at hrevived
  cases handled with
  | true =>
    have heq := disconnected_of_respawn hbeing hisDead (respawn_handled hheld hisDead hrevived) alive
    refine ⟨_, _, _, heq, tornDown_of_eq heq rfl ?_ ?_ (absurd · hnotAlive) fun _ => ⟨rfl, ?_⟩⟩
    · exact (lifecycle?_eq hnext).trans (congrArg some hlifecycle)
    · exact ScriptCallbacks.cancellations_callOf ..
    · rw [hrevival]
      exact ScriptCallbacks.requests_callOf ..
  | false =>
    have heq := disconnected_of_respawn hbeing hisDead
      (respawn_restored hheld hisDead hrevived hnext) alive
    refine ⟨_, _, _, heq, tornDown_of_eq heq rfl ?_ ?_ (absurd · hnotAlive) fun _ => ⟨rfl, ?_⟩⟩
    · exact congrArg some (next.lifecycle_restoreHp.trans hlifecycle)
    · rw [Effect.cancellations_append, ScriptCallbacks.cancellations_callOf]
      rfl
    · rw [hrevival]
      refine List.filterMap_append.trans ?_
      show Step.requests _ ++ Step.requests _ = _
      rw [ScriptCallbacks.requests_callOf]
      exact congrArg (fun id => [revivalWarp id character.context]) hid

/-! ### Faithful characters along a run -/

theorem Faithful.performAll_ensures (h : character.Faithful entity context)
    (hkeeping : context.callbacks.Keeping)
    (hoperations : ∀ operation ∈ operations, operation.Keeping) :
    (character.performAll operations).Ensures (fun _ => True) (fun _ => True)
      (Faithful entity context) := by
  refine (Step.ensures_foldlM (motive := fun rest state =>
    (∀ operation ∈ rest, operation.Keeping) ∧ state.Faithful entity context) ?_
      ⟨hoperations, h⟩).imp fun _ hlast => hlast.2
  rintro operation rest state ⟨hall, hstate⟩
  rw [perform_eq]
  obtain ⟨hoperation, hrest⟩ := List.forall_mem_cons.1 hall
  have hrespond := hstate.respond_ensures hkeeping hoperation
  refine Step.Ensures.bind ⟨hrespond.effects, fun _ _ => trivial, hrespond.result⟩ fun _ hafter => ?_
  exact Step.ensures_pure ⟨hrest, hafter⟩

/-- The loss of the client is final. It succeeds and tears down what the character had with others.
From then on, whatever happens to the character, no client is told anything and none is found again;
and where scripts take no component away, every operation that takes note of changes still takes note
of all of them, reports them to the account server and clears the channels that it flushes. -/
theorem disconnection_is_final (hcomplete : character.entity.Complete)
    (hkeeping : character.context.callbacks.Keeping)
    (hspares : character.context.callbacks.SparesLifecycle) (alive : SessionId → Bool) :
    ∃ effects after outcome, character.disconnected alive = ⟨effects, .ok (after, outcome)⟩ ∧
      character.TornDown alive effects after outcome ∧
      ∀ operations,
        (∀ effect ∈ (after.performAll operations).effects, effect.Unsent) ∧
        ∀ final, (after.performAll operations).result = .ok final → final.Gone ∧
          ((∀ operation ∈ operations, operation.Keeping) → final.entity.Complete) ∧
          (final.entity.Complete → ∀ operation : Operation, operation.Drains →
            ∃ being last, final.entity.being? = some being ∧
              final.Notes operation being last) := by
  obtain ⟨being, hbeing⟩ := hcomplete.being
  have htorn : ∃ effects after outcome,
      character.disconnected alive = ⟨effects, .ok (after, outcome)⟩ ∧
        character.TornDown alive effects after outcome := by
    cases hlifecycle : being.lifecycle with
    | alive => exact tornDown_of_alive hbeing hlifecycle alive
    | dead => exact tornDown_of_dead hbeing hlifecycle hkeeping hspares alive
  obtain ⟨effects, after, outcome, heq, htorn⟩ := htorn
  -- Without a dialogue the character is faithful, whatever was said in the one that it had.
  have hdetached : character.detached.Faithful character.id character.context :=
    ⟨⟨rfl, rfl, hcomplete⟩, fun _ hnone => nomatch hnone⟩
  have hparted : (character.detached.disconnected alive).Ensures _ (fun _ => True) _ :=
    hdetached.disconnected_ensures hkeeping alive
  have hafter : after.Faithful character.id character.context :=
    hparted.result (after, outcome) (congrArg Step.result heq)
  refine ⟨effects, after, outcome, heq, htorn, fun operations => ?_⟩
  have hlater := htorn.gone.performAll_ensures operations
  refine ⟨hlater.effects, fun final hfinal => ⟨hlater.result final hfinal, ?_, ?_⟩⟩
  · intro hoperations
    exact ((hafter.performAll_ensures hkeeping hoperations).result final hfinal).complete
  · intro hwhole operation hdrains
    obtain ⟨held, hheld⟩ := hwhole.being
    obtain ⟨abilities, habilities⟩ := hwhole.abilities
    exact ⟨held, _, hheld, notes_of_drains hdrains hheld habilities⟩

/-- A trade, a dialogue, and death. -/
def sampleEntanglement : List Operation :=
  [.setTrading (fun _ => true) (some ⟨1, 0⟩), .startDialogue (sampleThread 1) 5, .die]

theorem disconnection_is_final_of_sample : ∃ start rest character effects after outcome,
    (sampleBirth {}).result = .ok (.ok start, rest) ∧
      (start.performAll sampleEntanglement).result = .ok character ∧
      character.talkingTo? = some 5 ∧
      character.disconnected (fun _ => true) = ⟨effects, .ok (after, outcome)⟩ ∧
      outcome = .respawned ∧ Effect.cancellations effects = [⟨1, 0⟩] ∧
      after.dialogue = none ∧ after.lifecycle? = some .alive ∧
      ∀ operations, ∀ effect ∈ (after.performAll operations).effects, effect.Unsent := by
  have hview : (born? (sampleBirth {})).map (fun start =>
      match (start.performAll sampleEntanglement).result with
      | .ok character =>
        some (character.talkingTo?, character.lifecycle?, character.transaction.session?)
      | .error _ => none) = some (some (some 5, some .dead, some ⟨1, 0⟩)) := by
    decide +kernel
  obtain ⟨start, hstart, hview⟩ := Option.map_eq_some_iff.1 hview
  obtain ⟨rest, hborn⟩ := exists_of_born hstart
  have hbirth : (sampleBirth {}).Ensures _ (fun _ => False) _ := ofMessage_faithful
  have hfaithful := hbirth.result _ hborn start rfl
  split at hview
  · next character hrun =>
    obtain ⟨htalks, hview⟩ := Prod.mk.inj (Option.some.inj hview)
    obtain ⟨hdead, hsession⟩ := Prod.mk.inj hview
    have hkeepings : ∀ operation ∈ sampleEntanglement, operation.Keeping := by
      simp only [sampleEntanglement, List.forall_mem_cons, List.not_mem_nil, false_imp_iff,
        implies_true]
      exact ⟨trivial, fun _ entity => Entity.bound_keeps.refl entity, trivial, trivial⟩
    have hcharacter := (hfaithful.performAll_ensures ScriptCallbacks.keeping_none hkeepings).result
      character hrun
    have hcallbacks : character.context.callbacks = {} := by rw [hcharacter.context]
    obtain ⟨effects, after, outcome, heq, htorn, hlater⟩ := disconnection_is_final
      hcharacter.complete (hcallbacks ▸ ScriptCallbacks.keeping_none)
      (hcallbacks ▸ ScriptCallbacks.sparesLifecycle_none) fun _ => true
    have hcancelled := htorn.cancelled
    rw [hsession] at hcancelled
    exact ⟨start, rest, character, effects, after, outcome, hborn, hrun, htalks, heq,
      (htorn.respawned hdead).1, hcancelled, htorn.silent, htorn.lives,
      fun operations => (hlater operations).1⟩
  · cases hview

end Character

end CharacterSim
