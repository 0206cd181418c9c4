import CharacterSim.Proofs.Character.Course
import CharacterSim.Proofs.Sync.Payload

/-! What operations leave of a character's connection. Few concern it: a dialogue is begun or gone on
with, or the client goes. Whatever else is asked of a character, whatever its scripts do, and also
where a mistake stops it, the client and the dialogue stay the same, and only the client is told
anything. -/

namespace CharacterSim

/-- At most the client is told something, no window is closed, and no script thread goes on. -/
def Effect.Aside (client : Option ClientId) : Effect → Prop
  | sent receiver message => client = some receiver ∧ message.id ≠ .npcClose
  | resumed _ _ => False
  | _ => True

namespace Dialogue

/-- The message that closes the window of the NPC. -/
def closing (dialogue : Dialogue) : Message :=
  { id := .npcClose, payload := Message.encodeInt16 dialogue.npc.toInt16 }

/-- What is left of a dialogue that goes on with an entity, if it waits again. -/
def next? (dialogue : Dialogue) (entity : Entity) : Option Dialogue :=
  match dialogue.thread.resume entity with
  | (_, .suspended, thread) => some { dialogue with thread }
  | (_, .finished, _) => none

end Dialogue

namespace Step

variable {α : Type} {allowed : Effect → Prop}

theorem ensures_require (kind : ComponentKind) (component : Option α) :
    (require kind component).Ensures allowed (fun _ => True) fun _ => True := by
  cases component with
  | none => exact ensures_fail trivial
  | some component => exact ensures_pure trivial

theorem ensures_emit {effects : List Effect} (h : ∀ effect ∈ effects, allowed effect) :
    (emit effects).Ensures allowed (fun _ => True) fun _ => True :=
  ensures_ok h trivial

end Step

namespace Character

/-- The character has the client that it had, and the dialogue. -/
structure StaysWith (before after : Character) : Prop where
  client : after.client = before.client
  connected : after.connected = before.connected
  dialogue : after.dialogue = before.dialogue

/-- The operations that concern the dialogue or the client. -/
def Operation.Concerns : Operation → Prop
  | startDialogue _ _ | resumeDialogue | disconnected _ => True
  | _ => False

/-- The connection of a character is left alone: what is told is told aside, and what comes out stays
with the client and the dialogue. -/
def LeavesBe {α : Type} (character : Character) (outcome : α → Character) (step : Step α) : Prop :=
  step.Ensures (Effect.Aside character.client) (fun _ => True) fun value =>
    character.StaysWith (outcome value)

variable {α β : Type} {character before middle after : Character} {client : Option ClientId}

theorem StaysWith.refl (character : Character) : character.StaysWith character := ⟨rfl, rfl, rfl⟩

theorem StaysWith.trans (h : before.StaysWith middle) (hafter : middle.StaysWith after) :
    before.StaysWith after :=
  ⟨hafter.client.trans h.client, hafter.connected.trans h.connected,
    hafter.dialogue.trans h.dialogue⟩

/-- The next step may take what comes out of a step for the character that it was. -/
theorem LeavesBe.bind {outcome : α → Character} {last : β → Character} {step : Step α}
    {next : α → Step β} (h : character.LeavesBe outcome step)
    (hnext : ∀ value, (outcome value).LeavesBe last (next value)) :
    character.LeavesBe last (step >>= next) := by
  refine Step.Ensures.bind h fun value hvalue => ?_
  have hrest := hnext value
  rw [LeavesBe, hvalue.client] at hrest
  exact hrest.imp fun _ hlast => hvalue.trans hlast

/-- A step that answers with no character goes before one that leaves the connection alone. -/
theorem LeavesBe.precede {last : β → Character} {step : Step α} {next : α → Step β}
    (h : step.Ensures (Effect.Aside character.client) (fun _ => True) fun _ => True)
    (hnext : ∀ value, character.LeavesBe last (next value)) :
    character.LeavesBe last (step >>= next) :=
  Step.Ensures.bind h fun value _ => hnext value

theorem leavesBe_pure {outcome : α → Character} {value : α}
    (h : character.StaysWith (outcome value)) : character.LeavesBe outcome (pure value) :=
  Step.ensures_pure h

theorem StaysWith.leavesBe {outcome : α → Character} {step : Step α}
    (h : character.StaysWith middle) (hstep : middle.LeavesBe outcome step) :
    character.LeavesBe outcome step := by
  rw [LeavesBe, h.client] at hstep
  exact hstep.imp fun _ hafter => h.trans hafter

/-! ### Components -/

theorem LeavesBe.requireBeing {last : β → Character} {next : Being → Step β}
    (hnext : ∀ being, character.LeavesBe last (next being)) :
    character.LeavesBe last (character.requireBeing >>= next) :=
  .precede (Step.ensures_require _ _) hnext

theorem LeavesBe.requireAbilities {last : β → Character} {next : Abilities → Step β}
    (hnext : ∀ abilities, character.LeavesBe last (next abilities)) :
    character.LeavesBe last (character.requireAbilities >>= next) :=
  .precede (Step.ensures_require _ _) hnext

theorem staysWith_withBeing (character : Character) (being : Being) :
    character.StaysWith (character.withBeing being) := ⟨rfl, rfl, rfl⟩

theorem staysWith_withAbilities (character : Character) (abilities : Abilities) :
    character.StaysWith (character.withAbilities abilities) := ⟨rfl, rfl, rfl⟩

theorem aside_isDead (character : Character) :
    character.isDead.Ensures (Effect.Aside client) (fun _ => True) fun _ => True :=
  (Step.ensures_require _ _).bind fun _ _ => Step.ensures_pure trivial

/-! ### Taking note of changes and telling them -/

/-- What is flushed closes no window. -/
theorem aside_delivery {dirty : DirtySets} {source : SyncSource} {channels : SyncChannels}
    {message : Message} (h : message ∈ dirty.messages source channels) :
    (delivery client message).Aside client := by
  obtain ⟨channel, -, -, rfl⟩ := DirtySets.mem_flush_iff.1 h
  cases client with
  | none => exact trivial
  | some receiver =>
    refine ⟨rfl, ?_⟩
    rw [DirtySets.id_message]
    cases channel <;> exact MessageId.noConfusion

theorem aside_updates {databaseId : Int32} {being : Being} {ids : List AttributeId} :
    ∀ effect ∈ updates databaseId being ids, effect.Aside client := by
  intro effect hmem
  obtain ⟨id, -, heffect⟩ := List.mem_filterMap.1 hmem
  obtain ⟨record, -, rfl⟩ := Option.map_eq_some_iff.1 heffect
  exact trivial

theorem leavesBe_absorb (character : Character) :
    character.LeavesBe (fun after => after) character.absorb :=
  .requireBeing fun _ => .precede (Step.ensures_emit aside_updates) fun _ =>
    .requireAbilities fun _ => leavesBe_pure ⟨rfl, rfl, rfl⟩

theorem leavesBe_flush (character : Character) (channels : SyncChannels) :
    character.LeavesBe (fun after => after) (character.flush channels) := by
  rw [flush_eq]
  refine Step.ensures_ok (fun effect hmem => ?_) ⟨rfl, rfl, rfl⟩
  obtain ⟨message, hmessage, rfl⟩ := List.mem_map.1 hmem
  exact aside_delivery hmessage

theorem leavesBe_update (character : Character) :
    character.LeavesBe (fun after => after) character.update := by
  refine character.leavesBe_absorb.bind fun absorbed => ?_
  refine .precede absorbed.aside_isDead fun dead => ?_
  cases dead with
  | true => exact leavesBe_pure (.refl absorbed)
  | false => exact absorbed.leavesBe_flush .characterStatus

theorem leavesBe_modifiedAllAttributes (character : Character) :
    character.LeavesBe (fun after => after) character.modifiedAllAttributes :=
  .precede (Step.ensures_emit (by simp [Effect.Aside])) fun _ =>
    .requireBeing fun _ => leavesBe_pure ⟨rfl, rfl, rfl⟩

/-! ### Sessions, death and revival -/

theorem aside_callOf {callbacks : ScriptCallbacks} {hook : Hook} {entity : EntityId} :
    ∀ effect ∈ callbacks.callOf hook entity, effect.Aside client := by
  intro effect hmem
  obtain ⟨call, -, rfl⟩ := List.mem_map.1 hmem
  exact trivial

theorem leavesBe_activateAbility (character : Character) (id : AbilityId) :
    character.LeavesBe Prod.fst (character.activateAbility id) := by
  refine .requireAbilities fun abilities => ?_
  cases abilities.activate id with
  | ok next => exact leavesBe_pure (character.staysWith_withAbilities next)
  | error denied =>
    exact .precede (Step.ensures_emit (by simp [Effect.Aside])) fun _ =>
      leavesBe_pure (.refl character)

theorem leavesBe_giveAbility (character : Character) (id : AbilityId) :
    character.LeavesBe Prod.fst (character.giveAbility id) := by
  refine .requireAbilities fun abilities => ?_
  cases abilities.give? id with
  | some next => exact leavesBe_pure (character.staysWith_withAbilities next)
  | none => exact leavesBe_pure (.refl character)

theorem leavesBe_takeAbility (character : Character) (id : AbilityId) :
    character.LeavesBe Prod.fst (character.takeAbility id) := by
  refine .requireAbilities fun abilities => ?_
  cases abilities.take? id with
  | some next => exact leavesBe_pure (character.staysWith_withAbilities next)
  | none => exact leavesBe_pure (.refl character)

/-- At most a session is told to cancel. -/
theorem aside_cancel (active : Transaction) (alive : SessionId → Bool) :
    (active.cancel alive).Ensures (Effect.Aside client) (fun _ => True) fun _ => True :=
  Transaction.cancel_ensures (fun _ => trivial) (fun _ => trivial) alive

theorem aside_setTrading (active : Transaction) (alive : SessionId → Bool)
    (session : Option SessionId) : (active.setTrading alive session).Ensures
      (Effect.Aside client) (fun _ => True) fun _ => True := by
  unfold Transaction.setTrading
  split
  · exact (aside_cancel active alive).bind fun _ _ => Step.ensures_pure trivial
  · split
    · exact Step.ensures_fail trivial
    · exact Step.ensures_pure trivial

theorem aside_setBuySell (active : Transaction) (alive : SessionId → Bool)
    (session : Option SessionId) : (active.setBuySell alive session).Ensures
      (Effect.Aside client) (fun _ => True) fun _ => True := by
  unfold Transaction.setBuySell
  split
  · exact (aside_cancel active alive).bind fun _ _ => Step.ensures_pure trivial
  · split
    · exact Step.ensures_fail trivial
    · exact Step.ensures_pure trivial

theorem leavesBe_die (character : Character) : character.LeavesBe Prod.fst character.die := by
  refine .requireBeing fun being => ?_
  cases being.die with
  | error refusal => exact leavesBe_pure (.refl character)
  | ok dead =>
    dsimp only
    rw [ScriptCallbacks.onDeath_eq]
    exact .precede (Step.ensures_ok aside_callOf trivial) fun _ => leavesBe_pure ⟨rfl, rfl, rfl⟩

theorem leavesBe_applyDamage (character : Character) (amount : Float) :
    character.LeavesBe (fun after => after) (character.applyDamage amount) := by
  refine .requireBeing fun being => ?_
  split
  · exact leavesBe_pure (.refl character)
  · split
    · exact leavesBe_pure (.refl character)
    · dsimp only
      split
      · exact (character.staysWith_withBeing _).leavesBe
          ((leavesBe_die _).bind fun result => leavesBe_pure (.refl result.1))
      · exact leavesBe_pure (character.staysWith_withBeing _)

theorem leavesBe_respawn (character : Character) :
    character.LeavesBe Prod.fst character.respawn := by
  refine .requireBeing fun being => ?_
  cases being.revive with
  | error refusal =>
    exact .precede (Step.ensures_emit (by simp [Effect.Aside])) fun _ =>
      leavesBe_pure (.refl character)
  | ok revived =>
    dsimp only
    rw [ScriptCallbacks.onDeathAccepted_eq]
    refine .precede (Step.ensures_ok aside_callOf trivial) fun accepted => ?_
    split
    · exact leavesBe_pure ⟨rfl, rfl, rfl⟩
    · exact .precede (Step.ensures_require _ _) fun restored =>
        .precede (Step.ensures_emit (by simp [Effect.Aside])) fun _ => leavesBe_pure ⟨rfl, rfl, rfl⟩

theorem leavesBe_triggerLoginCallback (character : Character) :
    character.LeavesBe (fun after => after) character.triggerLoginCallback := by
  refine .precede ?_ fun _ => leavesBe_pure ⟨rfl, rfl, rfl⟩
  unfold ScriptCallbacks.onLogin ScriptCallbacks.notify
  split
  · exact (Step.ensures_emit (by simp [Effect.Aside])).bind fun _ _ => Step.ensures_pure trivial
  · exact Step.ensures_pure trivial

/-! ### Any other operation -/

theorem LeavesBe.answers {step : Step Character} {answer : Answer}
    (h : character.LeavesBe (fun after => after) step) :
    character.LeavesBe Prod.fst (do return (← step, answer)) :=
  h.bind fun after => leavesBe_pure (.refl after)

theorem LeavesBe.answersWith {step : Step (Character × α)} {answer : α → Answer}
    (h : character.LeavesBe Prod.fst step) : character.LeavesBe Prod.fst (do
      let (after, result) ← step
      return (after, answer result)) :=
  h.bind fun result => leavesBe_pure (.refl result.1)

/-- Whatever does not concern the connection leaves it alone, mistaken or not. -/
theorem leavesBe_respond (character : Character) {operation : Operation}
    (h : ¬ operation.Concerns) : character.LeavesBe Prod.fst (character.respond operation) := by
  cases operation with
  | tick elapsed =>
    have hstep : character.LeavesBe (fun after => after) (character.tick elapsed) :=
      .requireAbilities fun _ => leavesBe_pure ⟨rfl, rfl, rfl⟩
    exact hstep.answers
  | update => exact character.leavesBe_update.answers
  | sendStatus =>
    exact (character.leavesBe_absorb.bind fun absorbed => absorbed.leavesBe_flush _).answers
  | pendingSync =>
    have hstep : character.LeavesBe Prod.fst (character.pendingSync) :=
      character.leavesBe_absorb.bind fun absorbed => leavesBe_pure (.refl absorbed)
    exact hstep.answersWith
  | modifiedAllAttributes => exact character.leavesBe_modifiedAllAttributes.answers
  | setBase id value =>
    have hstep : character.LeavesBe Prod.fst (character.setBase id value) :=
      .requireBeing fun _ => leavesBe_pure ⟨rfl, rfl, rfl⟩
    exact hstep.answersWith
  | addModifier id source modifier =>
    have hstep : character.LeavesBe (fun after => after)
        (character.addModifier id source modifier) :=
      .requireBeing fun _ => leavesBe_pure ⟨rfl, rfl, rfl⟩
    exact hstep.answers
  | removeModifier id source =>
    have hstep : character.LeavesBe (fun after => after) (character.removeModifier id source) :=
      .requireBeing fun _ => leavesBe_pure ⟨rfl, rfl, rfl⟩
    exact hstep.answers
  | setAttributePoints points => exact leavesBe_pure ⟨rfl, rfl, rfl⟩
  | setCorrectionPoints points => exact leavesBe_pure ⟨rfl, rfl, rfl⟩
  | usePoint id =>
    have hstep : character.LeavesBe Prod.fst (character.usePoint id) :=
      .requireBeing fun _ => leavesBe_pure ⟨rfl, rfl, rfl⟩
    exact hstep.answersWith
  | useCorrection id =>
    have hstep : character.LeavesBe Prod.fst (character.useCorrection id) :=
      .requireBeing fun _ => leavesBe_pure ⟨rfl, rfl, rfl⟩
    exact hstep.answersWith
  | activateAbility id => exact (character.leavesBe_activateAbility id).answersWith
  | giveAbility id => exact (character.leavesBe_giveAbility id).answersWith
  | takeAbility id => exact (character.leavesBe_takeAbility id).answersWith
  | incrementKillCount monster => exact leavesBe_pure ⟨rfl, rfl, rfl⟩
  | setTrading alive session =>
    have hstep : character.LeavesBe (fun after => after) (character.setTrading alive session) :=
      .precede (aside_setTrading _ alive session) fun _ => leavesBe_pure ⟨rfl, rfl, rfl⟩
    exact hstep.answers
  | setBuySell alive session =>
    have hstep : character.LeavesBe (fun after => after) (character.setBuySell alive session) :=
      .precede (aside_setBuySell _ alive session) fun _ => leavesBe_pure ⟨rfl, rfl, rfl⟩
    exact hstep.answers
  | cancelTransaction alive =>
    have hstep : character.LeavesBe (fun after => after) (character.cancelTransaction alive) :=
      .precede (aside_cancel _ alive) fun _ => leavesBe_pure ⟨rfl, rfl, rfl⟩
    exact hstep.answers
  | die => exact character.leavesBe_die.answersWith
  | applyDamage amount => exact (character.leavesBe_applyDamage amount).answers
  | respawn => exact character.leavesBe_respawn.answersWith
  | triggerLoginCallback => exact character.leavesBe_triggerLoginCallback.answers
  | disconnected alive => exact absurd trivial h
  | startDialogue thread npc => exact absurd trivial h
  | resumeDialogue => exact absurd trivial h
  | script change => exact leavesBe_pure ⟨rfl, rfl, rfl⟩

/-! ### The loss of the client -/

/-- A character whose client is gone. -/
def detached (character : Character) : Character :=
  { character with connected := false, client := none, dialogue := none }

/-- Once the client is gone, the rest of its loss leaves the connection alone. -/
theorem leavesBe_disconnected (character : Character) (alive : SessionId → Bool) :
    character.detached.LeavesBe Prod.fst (character.disconnected alive) := by
  have hcancel : character.detached.LeavesBe (fun after => after)
      (character.detached.cancelTransaction alive) :=
    .precede (aside_cancel _ alive) fun _ => leavesBe_pure ⟨rfl, rfl, rfl⟩
  refine hcancel.bind fun cancelled => ?_
  refine .precede (cancelled.aside_isDead) fun dead => ?_
  cases dead with
  | true =>
    exact cancelled.leavesBe_respawn.bind fun result => leavesBe_pure (.refl result.1)
  | false =>
    exact .precede (Step.ensures_emit (by simp [Effect.Aside])) fun _ =>
      leavesBe_pure (.refl cancelled)

theorem leavesBe_respond_disconnected (character : Character) (alive : SessionId → Bool) :
    character.detached.LeavesBe Prod.fst (character.respond (.disconnected alive)) :=
  (character.leavesBe_disconnected alive).answersWith

/-! ### Dialogues -/

/-- A dialogue goes on by one resumption of its thread. Where that finishes it, the message that
closes its window is delivered. -/
theorem resumeDialogue_eq {dialogue : Dialogue} (h : character.dialogue = some dialogue) :
    character.resumeDialogue =
      ⟨.resumed dialogue.npc character.id ::
        (if (dialogue.next? character.entity).isNone then
          [delivery character.client (dialogue.closing)] else []),
      .ok { character with
        entity := (dialogue.thread.resume character.entity).1
        dialogue := dialogue.next? character.entity }⟩ := by
  rw [resumeDialogue, h]
  dsimp only
  rw [Step.emit_bind, Dialogue.next?]
  rcases dialogue.thread.resume character.entity with ⟨entity, status, thread⟩
  cases status with
  | suspended => rfl
  | finished =>
    dsimp only
    rw [send_eq, Step.bind_of_ok rfl]
    rfl

theorem resumeDialogue_of_none (h : character.dialogue = none) :
    character.resumeDialogue = Step.fail .noDialogue := by
  rw [resumeDialogue, h]

end Character

end CharacterSim
