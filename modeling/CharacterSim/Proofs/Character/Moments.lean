import CharacterSim.Proofs.Ability.Deeds
import CharacterSim.Proofs.Character.Synchronization

/-! The run of a character, moment by moment: each with the operation, its answer, and the character
before and after it. -/

namespace CharacterSim

namespace Effect

/-- The message that is handed to a client. -/
def messageTo? (client : ClientId) : Effect → Option Message
  | sent receiver message => if receiver = client then some message else none
  | _ => none

/-- The messages that are handed to a client, in order. -/
def sentTo (client : ClientId) (effects : List Effect) : List Message :=
  effects.filterMap (messageTo? client)

variable {client : ClientId} {effects : List Effect}

theorem sentTo_append (more : List Effect) :
    sentTo client (effects ++ more) = sentTo client effects ++ sentTo client more :=
  List.filterMap_append

theorem sentTo_updates (databaseId : Int32) (being : Being) (ids : List AttributeId) :
    sentTo client (Character.updates databaseId being ids) = [] := by
  refine List.filterMap_eq_nil_iff.2 fun effect hmem => ?_
  obtain ⟨id, -, heffect⟩ := List.mem_filterMap.1 hmem
  obtain ⟨record, -, rfl⟩ := Option.map_eq_some_iff.1 heffect
  rfl

theorem sentTo_map_delivery (messages : List Message) :
    sentTo client (messages.map (Character.delivery (some client))) = messages := by
  simp [sentTo, messageTo?, Character.delivery, List.filterMap_map, Function.comp_def]

end Effect

namespace Character

/-- One operation of a run. -/
structure Moment where
  before : Character
  operation : Operation
  answer : Answer
  after : Character

/-- What is done in a moment. -/
def Moment.effects (moment : Moment) : List Effect :=
  (moment.before.respond moment.operation).effects

/-- The messages that a client receives in a moment. -/
def Moment.messages (client : ClientId) (moment : Moment) : List Message :=
  Effect.sentTo client (moment.before.respond moment.operation).effects

/-- One operation after the other, with all that is to be seen of them. -/
def attend (character : Character) (operations : List Operation) :
    Step (Character × List Moment) :=
  operations.foldlM (fun state operation => do
    let (after, answer) ← state.1.respond operation
    return (after, state.2 ++ [⟨state.1, operation, answer, after⟩])) (character, [])

variable {start final : Character} {operations : List Operation} {moments : List Moment}
  {character : Character} {being : Being} {abilities : Abilities} {client : ClientId}

theorem attend_concat (operation : Operation) :
    start.attend (operations ++ [operation]) = do
      let (before, moments) ← start.attend operations
      let (after, answer) ← before.respond operation
      return (after, moments ++ [⟨before, operation, answer, after⟩]) := by
  simp [attend]

theorem attend_concat_of_ok {before after : Character} {operation : Operation} {answer : Answer}
    (hbefore : (start.attend operations).result = .ok (before, moments))
    (hafter : (before.respond operation).result = .ok (after, answer)) :
    (start.attend (operations ++ [operation])).result =
      .ok (after, moments ++ [⟨before, operation, answer, after⟩]) := by
  rw [attend_concat, Step.bind_of_ok hbefore]
  dsimp only
  rw [Step.bind_of_ok hafter]
  rfl

/-- What holds at the start and is kept by every moment of a run holds after it. -/
theorem attend_induction {motive : List Moment → Character → Prop} (hnil : motive [] start)
    (hconcat : ∀ moments (moment : Moment), moment.operation ∈ operations →
      (moment.before.respond moment.operation).result = .ok (moment.after, moment.answer) →
      motive moments moment.before → motive (moments ++ [moment]) moment.after)
    (hrun : (start.attend operations).result = .ok (final, moments)) : motive moments final := by
  induction operations using List.reverseRecOn generalizing final moments with
  | nil =>
    cases hrun
    exact hnil
  | append_singleton earlier operation ih =>
    rw [attend_concat] at hrun
    obtain ⟨⟨before, past⟩, hbefore, hrun, -⟩ := Step.bind_eq_ok hrun
    obtain ⟨⟨after, answer⟩, hafter, hrun, -⟩ := Step.bind_eq_ok hrun
    cases hrun
    refine hconcat past ⟨before, operation, answer, _⟩ (by simp) hafter (ih ?_ hbefore)
    exact fun moments moment hmem => hconcat moments moment (List.mem_append_left _ hmem)

/-- What is done in a run is done in its moments. -/
theorem effects_attend (hrun : (start.attend operations).result = .ok (final, moments)) :
    (start.attend operations).effects = moments.flatMap Moment.effects := by
  induction operations using List.reverseRecOn generalizing final moments with
  | nil =>
    cases hrun
    rfl
  | append_singleton earlier operation ih =>
    rw [attend_concat] at hrun ⊢
    obtain ⟨⟨before, past⟩, hbefore, hlast, heffects⟩ := Step.bind_eq_ok hrun
    obtain ⟨⟨after, answer⟩, -, hlast, hmore⟩ := Step.bind_eq_ok hlast
    cases hlast
    rw [heffects, hmore, Step.effects_pure, List.append_nil, ih hbefore, List.flatMap_append,
      List.flatMap_singleton]
    rfl

/-- The messages of a run are those of its moments. -/
theorem sentTo_attend (hrun : (start.attend operations).result = .ok (final, moments)) :
    Effect.sentTo client (start.attend operations).effects =
      moments.flatMap (Moment.messages client) := by
  rw [effects_attend hrun, Effect.sentTo, List.filterMap_flatMap]
  rfl

/-- The client hears the messages of the flushed channels, and nothing else. -/
theorem sentTo_drainEffects (h : character.client = some client) (channels : SyncChannels) :
    Effect.sentTo client (character.drainEffects being abilities channels) =
      (character.absorbed being abilities).dirty.messages
        (character.absorbed being abilities).syncSource channels := by
  dsimp only [drainEffects]
  rw [Effect.sentTo_append, Effect.sentTo_updates, List.nil_append, h, Effect.sentTo_map_delivery]

/-- Taking note of changes alters no value that a flush reads. -/
theorem syncSource_absorbed (hbeing : character.entity.being? = some being)
    (habilities : character.entity.abilities? = some abilities) :
    (character.absorbed being abilities).syncSource = character.syncSource := by
  unfold syncSource
  rw [hbeing, habilities]
  rfl

end Character

end CharacterSim
