import CharacterSim.Proofs.Character.Connection

/-! Conversations with NPCs along a run. The dialogue that was begun last lives until its thread
finishes, another takes its place or the client goes; it alone is gone on with, and only a thread
that finishes closes a window, once. -/

namespace CharacterSim

namespace Effect

/-- The window that a client is told to close. -/
def closing? : Effect → Option (ClientId × Message)
  | sent client message => if message.id = .npcClose then some (client, message) else none
  | _ => none

/-- The windows that clients are told to close, in order. -/
def closings (effects : List Effect) : List (ClientId × Message) := effects.filterMap closing?

/-- The NPC whose script thread goes on, and with which entity. -/
def resumption? : Effect → Option (NpcId × EntityId)
  | resumed npc entity => some (npc, entity)
  | _ => none

/-- The script threads that go on, in order. -/
def resumptions (effects : List Effect) : List (NpcId × EntityId) :=
  effects.filterMap resumption?

variable {client : Option ClientId} {effects : List Effect}

theorem closings_append (more : List Effect) :
    closings (effects ++ more) = closings effects ++ closings more := List.filterMap_append

theorem resumptions_append (more : List Effect) :
    resumptions (effects ++ more) = resumptions effects ++ resumptions more := List.filterMap_append

theorem Aside.closing?_eq {effect : Effect} (h : effect.Aside client) : effect.closing? = none := by
  cases effect with
  | sent receiver message => exact if_neg h.2
  | _ => rfl

theorem Aside.resumption?_eq {effect : Effect} (h : effect.Aside client) :
    effect.resumption? = none := by
  cases effect with
  | resumed npc entity => cases h
  | _ => rfl

theorem closings_of_aside (h : ∀ effect ∈ effects, effect.Aside client) : closings effects = [] :=
  List.filterMap_eq_nil_iff.2 fun effect hmem => (h effect hmem).closing?_eq

theorem resumptions_of_aside (h : ∀ effect ∈ effects, effect.Aside client) :
    resumptions effects = [] :=
  List.filterMap_eq_nil_iff.2 fun effect hmem => (h effect hmem).resumption?_eq

end Effect

namespace Character

/-! ### The dialogues of a run -/

/-- The dialogue that an operation begins. -/
def Operation.begins? : Operation → Option Dialogue
  | startDialogue thread npc => some { npc, thread }
  | _ => none

/-- No dialogue that was running before outlasts the operation. -/
def Operation.Interrupts : Operation → Prop
  | startDialogue _ _ | disconnected _ => True
  | _ => False

/-- A script thread goes on. -/
def Operation.resumes : Operation → Bool
  | startDialogue _ _ | resumeDialogue => true
  | _ => false

end Character

namespace Dialogue

open Character

/-- What becomes of a dialogue in some moments: where it stands after them, or the moment in which
it finished. -/
def through (dialogue : Dialogue) : List Moment → Except Moment Dialogue
  | [] => .ok dialogue
  | moment :: rest =>
    if moment.operation.resumes then
      match dialogue.next? moment.before.entity with
      | some next => next.through rest
      | none => .error moment
    else dialogue.through rest

/-- The window is to be closed if a dialogue finishes in some moments and the client is there
then. -/
def farewell (dialogue : Dialogue) (moments : List Moment) : List (ClientId × Message) :=
  match dialogue.through moments with
  | .ok _ => []
  | .error last => last.before.client.toList.map fun client => (client, dialogue.closing)

variable {dialogue next : Dialogue} {entity : Entity} {moments : List Moment} {moment : Moment}

theorem npc_next? (h : dialogue.next? entity = some next) : next.npc = dialogue.npc := by
  unfold next? at h
  split at h
  · cases h
    rfl
  · cases h

theorem npc_through (h : dialogue.through moments = .ok next) : next.npc = dialogue.npc := by
  induction moments generalizing dialogue with
  | nil =>
    cases h
    rfl
  | cons moment rest ih =>
    rw [through] at h
    split at h
    · split at h
      · next middle hmiddle => exact (ih h).trans (npc_next? hmiddle)
      · cases h
    · exact ih h

/-- One moment more concerns a dialogue that was not finished before. -/
theorem through_concat : dialogue.through (moments ++ [moment]) =
    (dialogue.through moments).bind fun current => current.through [moment] := by
  induction moments generalizing dialogue with
  | nil => rfl
  | cons first rest ih =>
    rw [List.cons_append, through, through]
    split
    · split
      · exact ih
      · rfl
    · exact ih

theorem through_singleton (h : moment.operation.resumes = true) : dialogue.through [moment] =
    match dialogue.next? moment.before.entity with
    | some next => .ok next
    | none => .error moment := by
  rw [through, if_pos h]
  rfl

theorem through_singleton_of_not_resumes (h : moment.operation.resumes = false) :
    dialogue.through [moment] = .ok dialogue := by
  rw [through, h, if_neg Bool.false_ne_true, through]

end Dialogue

namespace Character

/-- The dialogue was begun last of all in a run, or there before it, and these are the moments since
then. In none of them another took its place or the client went. -/
inductive Latest (start : Character) (moments : List Moment) (begun : Dialogue)
    (since : List Moment) : Prop
  | carried (hstart : start.dialogue = some begun) (hsince : since = moments)
    (hcalm : ∀ moment ∈ moments, ¬ moment.operation.Interrupts)
  | begun (earlier later : List Moment) (moment : Moment)
    (hmoments : moments = earlier ++ moment :: later) (hsince : since = moment :: later)
    (hbegins : moment.operation.begins? = some begun)
    (hcalm : ∀ other ∈ later, ¬ other.operation.Interrupts)

/-- The dialogue is what became of the one begun last, which is not finished. -/
def Converses (start : Character) (moments : List Moment) (dialogue : Dialogue) : Prop :=
  ∃ begun since, Latest start moments begun since ∧ begun.through since = .ok dialogue

variable {start final character before after : Character} {operations : List Operation}
  {operation : Operation} {answer : Answer} {moments since : List Moment} {moment : Moment}
  {begun dialogue : Dialogue}

theorem Operation.interrupts_of_begins? (h : operation.begins? = some dialogue) :
    operation.Interrupts := by
  cases operation with
  | startDialogue thread npc => exact trivial
  | _ => cases h

theorem Operation.resumes_of_begins? (h : operation.begins? = some dialogue) :
    operation.resumes = true := by
  cases operation with
  | startDialogue thread npc => rfl
  | _ => cases h

/-- One moment more either goes by or begins a dialogue. -/
theorem latest_concat : Latest start (moments ++ [moment]) begun since ↔
    (¬ moment.operation.Interrupts ∧
      ∃ earlier, Latest start moments begun earlier ∧ since = earlier ++ [moment]) ∨
    moment.operation.begins? = some begun ∧ since = [moment] := by
  constructor
  · rintro (⟨hstart, rfl, hcalm⟩ | ⟨earlier, later, first, hmoments, rfl, hbegins, hcalm⟩)
    · rw [List.forall_mem_append, List.forall_mem_singleton] at hcalm
      exact .inl ⟨hcalm.2, moments, .carried hstart rfl hcalm.1, rfl⟩
    · rcases List.eq_nil_or_concat' later with rfl | ⟨between, last, rfl⟩
      · obtain ⟨-, hlast⟩ := List.append_inj' hmoments rfl
        cases hlast
        exact .inr ⟨hbegins, rfl⟩
      · rw [← List.cons_append, ← List.append_assoc] at hmoments
        obtain ⟨rfl, hlast⟩ := List.append_inj' hmoments rfl
        cases hlast
        rw [List.forall_mem_append, List.forall_mem_singleton] at hcalm
        exact .inl ⟨hcalm.2, first :: between, .begun earlier between first rfl rfl hbegins hcalm.1,
          rfl⟩
  · rintro (⟨hgoes, earlier, hearlier, rfl⟩ | ⟨hbegins, rfl⟩)
    · rcases hearlier with ⟨hstart, rfl, hcalm⟩ | ⟨past, later, first, rfl, rfl, hbegins, hcalm⟩
      · refine .carried hstart rfl ?_
        rw [List.forall_mem_append, List.forall_mem_singleton]
        exact ⟨hcalm, hgoes⟩
      · refine .begun past (later ++ [moment]) first (by simp) (by simp) hbegins ?_
        rw [List.forall_mem_append, List.forall_mem_singleton]
        exact ⟨hcalm, hgoes⟩
    · exact .begun moments [] moment rfl rfl hbegins fun _ hnone => nomatch hnone

/-! ### One operation -/

/-- The operation begins the dialogue, or goes on with it if it is that of the character. -/
def Turns (character : Character) (operation : Operation) (dialogue : Dialogue) : Prop :=
  operation.begins? = some dialogue ∨
    operation = .resumeDialogue ∧ character.dialogue = some dialogue

/-- A dialogue is gone on with, and no other. Its thread is resumed once, with the entity of the
character, and makes of it what it becomes; and if it is finished then, the client that is there is
told to close the window, once. -/
structure GoesOn (character : Character) (operation : Operation) (dialogue : Dialogue) : Prop where
  resumed : Effect.resumptions (character.respond operation).effects = [(dialogue.npc, character.id)]
  closed : Effect.closings (character.respond operation).effects =
    if (dialogue.next? character.entity).isNone then
      character.client.toList.map fun client => (client, dialogue.closing) else []
  result : ∃ after, (character.respond operation).result = .ok (after, .done) ∧
    after.entity = (dialogue.thread.resume character.entity).1 ∧
    after.dialogue = dialogue.next? character.entity

theorem Turns.respond_eq (h : character.Turns operation dialogue) :
    character.respond operation =
      ⟨.resumed dialogue.npc character.id ::
        (if (dialogue.next? character.entity).isNone then
          [delivery character.client dialogue.closing] else []),
      .ok ({ character with
        entity := (dialogue.thread.resume character.entity).1
        dialogue := dialogue.next? character.entity }, .done)⟩ := by
  rcases h with hbegins | ⟨rfl, hdialogue⟩
  · cases operation with
    | startDialogue thread npc =>
      cases hbegins
      have hbegun : ({ character with dialogue := some { npc, thread } } : Character).dialogue =
          some { npc, thread } := rfl
      rw [respond, startDialogue, resumeDialogue_eq hbegun, Step.bind_of_ok rfl, Step.effects_pure,
        List.append_nil]
      rfl
    | _ => cases hbegins
  · rw [respond, resumeDialogue_eq hdialogue, Step.bind_of_ok rfl, Step.effects_pure,
      List.append_nil]
    rfl

theorem closings_delivery (client : Option ClientId) (dialogue : Dialogue) :
    Effect.closings [delivery client dialogue.closing] =
      client.toList.map fun client => (client, dialogue.closing) := by
  cases client <;> rfl

theorem Turns.goesOn (h : character.Turns operation dialogue) :
    character.GoesOn operation dialogue := by
  have heq := h.respond_eq
  refine ⟨?_, ?_, ?_⟩
  · rw [heq]
    split
    · cases character.client <;> rfl
    · rfl
  · rw [heq]
    split
    · exact closings_delivery character.client dialogue
    · rfl
  · rw [heq]
    exact ⟨_, rfl, rfl, rfl⟩

theorem dialogue_of_not_turns (h : ∀ dialogue, ¬ character.Turns .resumeDialogue dialogue) :
    character.dialogue = none :=
  Option.eq_none_iff_forall_ne_some.2 fun dialogue hsome => h dialogue (.inr ⟨rfl, hsome⟩)

/-- An operation that goes on with no dialogue closes no window. -/
theorem aside_respond (h : ∀ dialogue, ¬ character.Turns operation dialogue) : ∃ client,
    ∀ effect ∈ (character.respond operation).effects, effect.Aside client := by
  by_cases hconcerns : operation.Concerns
  · cases operation with
    | startDialogue thread npc => exact absurd (.inl rfl) (h { npc, thread })
    | resumeDialogue =>
      refine ⟨none, ?_⟩
      rw [respond, resumeDialogue_of_none (dialogue_of_not_turns h)]
      intro effect hmem
      cases hmem
    | disconnected alive => exact ⟨none, (character.leavesBe_respond_disconnected alive).effects⟩
    | _ => exact hconcerns.elim
  · exact ⟨character.client, (character.leavesBe_respond hconcerns).effects⟩

/-- The loss of the client ends a dialogue; anything else that goes on with none leaves it. -/
theorem dialogue_of_respond (h : ∀ dialogue, ¬ before.Turns operation dialogue)
    (hafter : (before.respond operation).result = .ok (after, answer)) :
    operation.Interrupts ∧ after.dialogue = none ∨
    ¬ operation.Interrupts ∧ operation.resumes = false ∧ after.dialogue = before.dialogue := by
  by_cases hconcerns : operation.Concerns
  · cases operation with
    | startDialogue thread npc => exact absurd (.inl rfl) (h { npc, thread })
    | resumeDialogue =>
      rw [respond, resumeDialogue_of_none (dialogue_of_not_turns h)] at hafter
      cases hafter
    | disconnected alive =>
      have hstays := (before.leavesBe_respond_disconnected alive).result _ hafter
      exact .inl ⟨trivial, hstays.dialogue⟩
    | _ => exact hconcerns.elim
  · refine .inr ⟨?_, ?_, ((before.leavesBe_respond hconcerns).result _ hafter).dialogue⟩
    · cases operation <;> first | exact hconcerns | exact fun hno => hno
    · cases operation <;> first | rfl | exact absurd trivial hconcerns

/-! ### Runs -/

/-- What became of a dialogue in some moments, what was closed and what was resumed in them. -/
structure Accounts (begun : Dialogue) (since : List Moment) (after : Character) : Prop where
  dialogue : after.dialogue = (begun.through since).toOption
  closings : Effect.closings (since.flatMap Moment.effects) = begun.farewell since
  resumptions : Effect.resumptions (since.flatMap Moment.effects) =
    (since.filter (·.operation.resumes)).map fun moment => (begun.npc, moment.before.id)

/-- A dialogue that was not finished is gone on with in the next moment. -/
theorem Accounts.goesOn {current : Dialogue} (hthrough : begun.through since = .ok current)
    (hclosings : Effect.closings (since.flatMap Moment.effects) = [])
    (hresumptions : Effect.resumptions (since.flatMap Moment.effects) =
      (since.filter (·.operation.resumes)).map fun moment => (begun.npc, moment.before.id))
    (hresumes : moment.operation.resumes = true)
    (hgoes : moment.before.GoesOn moment.operation current)
    (hmoment : (moment.before.respond moment.operation).result = .ok (moment.after, moment.answer)) :
    Accounts begun (since ++ [moment]) moment.after := by
  have hnpc : current.npc = begun.npc := Dialogue.npc_through hthrough
  have hstep : begun.through (since ++ [moment]) = current.through [moment] := by
    rw [Dialogue.through_concat, hthrough]
    rfl
  rw [Dialogue.through_singleton hresumes] at hstep
  obtain ⟨after, hafter, -, hdialogue⟩ := hgoes.result
  obtain ⟨rfl, -⟩ := Prod.mk.inj (Except.ok.inj (hafter.symm.trans hmoment))
  have hclosed := hgoes.closed
  refine ⟨?_, ?_, ?_⟩
  · rw [hstep, hdialogue]
    cases current.next? moment.before.entity <;> rfl
  · rw [List.flatMap_append, Effect.closings_append, hclosings, List.flatMap_singleton,
      List.nil_append, Dialogue.farewell, hstep]
    refine hclosed.trans ?_
    cases current.next? moment.before.entity with
    | some next => rfl
    | none =>
      dsimp only
      rw [Dialogue.closing, hnpc]
      rfl
  · rw [List.flatMap_append, Effect.resumptions_append, hresumptions, List.flatMap_singleton,
      List.filter_append, List.map_append, List.filter_singleton, hresumes]
    refine congrArg _ (hgoes.resumed.trans ?_)
    rw [hnpc]
    rfl

/-- In a moment that goes by nothing becomes of a dialogue. -/
theorem Accounts.passes (h : Accounts begun since moment.before)
    (hresumes : moment.operation.resumes = false)
    (hturns : ∀ dialogue, ¬ moment.before.Turns moment.operation dialogue)
    (hdialogue : moment.after.dialogue = moment.before.dialogue) :
    Accounts begun (since ++ [moment]) moment.after := by
  obtain ⟨client, haside⟩ := aside_respond hturns
  have hthrough : begun.through (since ++ [moment]) = begun.through since := by
    rw [Dialogue.through_concat]
    cases begun.through since with
    | error last => rfl
    | ok current => exact Dialogue.through_singleton_of_not_resumes hresumes
  refine ⟨?_, ?_, ?_⟩
  · rw [hthrough, hdialogue, h.dialogue]
  · rw [List.flatMap_append, Effect.closings_append, h.closings, List.flatMap_singleton,
      Moment.effects, Effect.closings_of_aside haside, List.append_nil, Dialogue.farewell,
      Dialogue.farewell, hthrough]
  · rw [List.flatMap_append, Effect.resumptions_append, h.resumptions, List.flatMap_singleton,
      Moment.effects, Effect.resumptions_of_aside haside, List.filter_append, List.filter_singleton,
      hresumes, cond_false, List.append_nil, List.append_nil]

/-- The dialogue of a character is what became of the one begun last. -/
structure Conversant (start : Character) (moments : List Moment) (final : Character) : Prop where
  latest : ∀ begun since, Latest start moments begun since → Accounts begun since final
  silent : (∀ begun since, ¬ Latest start moments begun since) → final.dialogue = none

theorem conversant_nil (start : Character) : Conversant start [] start where
  latest begun since hlatest := by
    rcases hlatest with ⟨hstart, rfl, -⟩ | ⟨earlier, later, moment, hmoments, -, -, -⟩
    · exact ⟨hstart, rfl, rfl⟩
    · exact absurd hmoments.symm (by simp)
  silent hsilent := Option.eq_none_iff_forall_ne_some.2 fun begun hstart =>
    hsilent begun [] (.carried hstart rfl fun _ hnone => nomatch hnone)

theorem Conversant.dialogue_iff (h : Conversant start moments final) :
    final.dialogue = some dialogue ↔ Converses start moments dialogue := by
  constructor
  · intro hdialogue
    by_contra hnot
    -- If none lives, the one begun last is finished, and the character would hold none.
    have hsilent : ∀ begun since, ¬ Latest start moments begun since := by
      intro begun since hlatest
      have hthrough := (h.latest begun since hlatest).dialogue.symm.trans hdialogue
      cases hcurrent : begun.through since with
      | error last =>
        rw [hcurrent] at hthrough
        cases hthrough
      | ok current =>
        rw [hcurrent] at hthrough
        cases hthrough
        exact hnot ⟨begun, since, hlatest, hcurrent⟩
    rw [h.silent hsilent] at hdialogue
    cases hdialogue
  · rintro ⟨begun, since, hlatest, hthrough⟩
    rw [(h.latest begun since hlatest).dialogue, hthrough]
    rfl

theorem Conversant.begins (hbegins : moment.operation.begins? = some dialogue)
    (hmoment : (moment.before.respond moment.operation).result = .ok (moment.after, moment.answer)) :
    Conversant start (moments ++ [moment]) moment.after where
  latest begun since hlatest := by
    rcases latest_concat.1 hlatest with ⟨hcalm, -⟩ | ⟨hbegun, rfl⟩
    · exact absurd (Operation.interrupts_of_begins? hbegins) hcalm
    · have hturns : moment.before.Turns moment.operation begun := .inl hbegun
      have haccounts : Accounts begun ([] ++ [moment]) moment.after :=
        .goesOn rfl rfl rfl (Operation.resumes_of_begins? hbegun) hturns.goesOn hmoment
      exact haccounts
  silent hsilent := absurd (latest_concat.2 (.inr ⟨hbegins, rfl⟩)) (hsilent dialogue [moment])

theorem Conversant.resumes (h : Conversant start moments moment.before)
    (hresumes : moment.operation = .resumeDialogue)
    (hdialogue : moment.before.dialogue = some dialogue)
    (hmoment : (moment.before.respond moment.operation).result = .ok (moment.after, moment.answer)) :
    Conversant start (moments ++ [moment]) moment.after where
  latest begun since hlatest := by
    have hturns : moment.before.Turns moment.operation dialogue := .inr ⟨hresumes, hdialogue⟩
    have hfresh : moment.operation.begins? = none := by
      rw [hresumes]
      rfl
    have hsome : moment.operation.resumes = true := by
      rw [hresumes]
      rfl
    rcases latest_concat.1 hlatest with ⟨-, earlier, hearlier, rfl⟩ | ⟨hbegun, -⟩
    · -- What the character holds is what became of the dialogue begun last, so that did not finish.
      have haccounts := h.latest begun earlier hearlier
      have hheld := haccounts.dialogue.symm.trans hdialogue
      cases hthrough : begun.through earlier with
      | error last =>
        rw [hthrough] at hheld
        cases hheld
      | ok current =>
        rw [hthrough] at hheld
        cases hheld
        have hclosings := haccounts.closings
        rw [Dialogue.farewell, hthrough] at hclosings
        exact .goesOn hthrough hclosings haccounts.resumptions hsome hturns.goesOn hmoment
    · cases hfresh.symm.trans hbegun
  silent hsilent := by
    have hcalm : ¬ moment.operation.Interrupts := by
      rw [hresumes]
      exact fun hno => hno
    have hnone := h.silent fun begun since hlatest => hsilent begun (since ++ [moment])
      (latest_concat.2 (.inl ⟨hcalm, since, hlatest, rfl⟩))
    cases hnone.symm.trans hdialogue

theorem Conversant.passes (h : Conversant start moments moment.before)
    (hturns : ∀ dialogue, ¬ moment.before.Turns moment.operation dialogue)
    (hmoment : (moment.before.respond moment.operation).result = .ok (moment.after, moment.answer)) :
    Conversant start (moments ++ [moment]) moment.after := by
  have hbegins : ∀ begun, moment.operation.begins? ≠ some begun :=
    fun begun hbegins => hturns begun (.inl hbegins)
  rcases dialogue_of_respond hturns hmoment with ⟨hleaves, hnone⟩ | ⟨hcalm, hresumes, hdialogue⟩
  · refine ⟨fun begun since hlatest => ?_, fun _ => hnone⟩
    rcases latest_concat.1 hlatest with ⟨hcalm, -⟩ | ⟨hbegun, -⟩
    · exact absurd hleaves hcalm
    · exact absurd hbegun (hbegins begun)
  · refine ⟨fun begun since hlatest => ?_, fun hsilent => ?_⟩
    · rcases latest_concat.1 hlatest with ⟨-, earlier, hearlier, rfl⟩ | ⟨hbegun, -⟩
      · exact (h.latest begun earlier hearlier).passes hresumes hturns hdialogue
      · exact absurd hbegun (hbegins begun)
    · rw [hdialogue]
      exact h.silent fun begun since hlatest => hsilent begun (since ++ [moment])
        (latest_concat.2 (.inl ⟨hcalm, since, hlatest, rfl⟩))

/-- The run goes on with a new dialogue, with the one that lives, or with none. -/
theorem Conversant.concat (h : Conversant start moments moment.before)
    (hmoment : (moment.before.respond moment.operation).result = .ok (moment.after, moment.answer)) :
    Conversant start (moments ++ [moment]) moment.after := by
  by_cases hturns : ∃ dialogue, moment.before.Turns moment.operation dialogue
  · obtain ⟨dialogue, hbegins | ⟨hresumes, hdialogue⟩⟩ := hturns
    · exact .begins hbegins hmoment
    · exact h.resumes hresumes hdialogue hmoment
  · exact h.passes (fun dialogue hdialogue => hturns ⟨dialogue, hdialogue⟩) hmoment

theorem conversant_of_attend (hrun : (start.attend operations).result = .ok (final, moments)) :
    Conversant start moments final :=
  attend_induction (motive := Conversant start) (conversant_nil start)
    (fun _ _ _ hmoment hbefore => hbefore.concat hmoment) hrun

/-- Windows are closed once. After any run the character is in the dialogue begun last, unless that
finished, another took its place or the client went, and it talks to the NPC of that dialogue; to go
on with a dialogue is a mistake where there is none. Whatever is done next, that dialogue is gone on
with, or the one that begins, or none; and where none is, no window is closed. All in all the window
of a dialogue is closed if its thread finished while the client was there, once, and not if another
took its place or the client went before. -/
theorem windows_close_once (hrun : (start.attend operations).result = .ok (final, moments)) :
    (∀ dialogue, final.dialogue = some dialogue ↔ Converses start moments dialogue) ∧
    (∀ npc, final.talkingTo? = some npc ↔
      ∃ dialogue, Converses start moments dialogue ∧ dialogue.npc = npc) ∧
    ((∃ fault, final.resumeDialogue.result = .error fault) ↔
      ∀ dialogue, ¬ Converses start moments dialogue) ∧
    (∀ operation dialogue, operation.begins? = some dialogue ∨
      operation = .resumeDialogue ∧ Converses start moments dialogue →
        final.GoesOn operation dialogue) ∧
    (∀ operation, (∀ dialogue, ¬ (operation.begins? = some dialogue ∨
      operation = .resumeDialogue ∧ Converses start moments dialogue)) →
        Effect.resumptions (final.respond operation).effects = [] ∧
        Effect.closings (final.respond operation).effects = []) ∧
    ∀ begun since, Latest start moments begun since →
      Effect.closings (since.flatMap Moment.effects) = begun.farewell since ∧
      Effect.resumptions (since.flatMap Moment.effects) =
        (since.filter (·.operation.resumes)).map fun moment => (begun.npc, moment.before.id) := by
  have hconversant := conversant_of_attend hrun
  have hdialogue : ∀ dialogue, final.dialogue = some dialogue ↔
      Converses start moments dialogue := fun _ => hconversant.dialogue_iff
  have hturns : ∀ operation dialogue, final.Turns operation dialogue ↔
      (operation.begins? = some dialogue ∨
        operation = .resumeDialogue ∧ Converses start moments dialogue) := by
    intro operation dialogue
    rw [Turns, hdialogue]
  refine ⟨hdialogue, fun npc => ?_, ?_, ?_, ?_, ?_⟩
  · simp only [talkingTo?, Option.map_eq_some_iff, hdialogue]
  · simp only [← hdialogue, ← Option.eq_none_iff_forall_ne_some]
    constructor
    · rintro ⟨fault, hfault⟩
      by_contra hsome
      obtain ⟨dialogue, hheld⟩ := Option.ne_none_iff_exists'.1 hsome
      rw [resumeDialogue_eq hheld] at hfault
      cases hfault
    · intro hnone
      exact ⟨.noDialogue, by rw [resumeDialogue_of_none hnone]; rfl⟩
  · exact fun operation dialogue hgoes => ((hturns operation dialogue).2 hgoes).goesOn
  · intro operation hnone
    obtain ⟨client, haside⟩ := aside_respond fun dialogue hgoes =>
      hnone dialogue ((hturns operation dialogue).1 hgoes)
    exact ⟨Effect.resumptions_of_aside haside, Effect.closings_of_aside haside⟩
  · exact fun begun since hlatest =>
      ⟨(hconversant.latest begun since hlatest).closings,
        (hconversant.latest begun since hlatest).resumptions⟩

/-- A script that waits so many times before it finishes. -/
def sampleThread (waits : Nat) : ScriptThread where
  behaviour seen entity := (entity, if seen.length < waits then .suspended else .finished)

/-- A dialogue that another takes the place of, which comes to its end, and one that the client
leaves. -/
def sampleTalks : List Operation :=
  [.startDialogue (sampleThread 1) 5, .startDialogue (sampleThread 1) 65533, .resumeDialogue,
    .startDialogue (sampleThread 1) 6, .disconnected fun _ => false]

theorem windows_close_once_of_sample : ∃ start rest final moments,
    (sampleBirth {}).result = .ok (.ok start, rest) ∧
      (start.attend sampleTalks).result = .ok (final, moments) ∧
      Effect.closings (start.attend sampleTalks).effects =
        [(⟨0⟩, { id := .npcClose, payload := [255, 253] })] ∧
      final.talkingTo? = none ∧ ∃ fault, final.resumeDialogue.result = .error fault := by
  have hview : (born? (sampleBirth {})).map (fun start =>
      (match (start.attend sampleTalks).result with
        | .ok (final, _) => some final.talkingTo?
        | .error _ => none,
        Effect.closings (start.attend sampleTalks).effects)) =
      some (some none, [(⟨0⟩, { id := .npcClose, payload := [255, 253] })]) := by
    decide +kernel
  obtain ⟨start, hstart, hview⟩ := Option.map_eq_some_iff.1 hview
  obtain ⟨hend, hclosings⟩ := Prod.mk.inj hview
  obtain ⟨rest, hborn⟩ := exists_of_born hstart
  split at hend
  · next final moments hrun =>
    have hsilent : final.talkingTo? = none := Option.some.inj hend
    obtain ⟨-, htalks, hmistaken, -⟩ := windows_close_once hrun
    refine ⟨start, rest, final, moments, hborn, hrun, hclosings, hsilent, hmistaken.2 ?_⟩
    intro dialogue hlives
    cases hsilent.symm.trans ((htalks dialogue.npc).2 ⟨dialogue, hlives, rfl⟩)
  · cases hend

end Character

end CharacterSim
