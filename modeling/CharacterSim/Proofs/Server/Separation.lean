import CharacterSim.Proofs.Character.Wholeness
import CharacterSim.Proofs.Server.Operation

/-! A character that is whole gets through every tick: it stays where it is while it acts, it is
whole when it is moved, and no warp of its own is dropped. -/

namespace CharacterSim

namespace Character

variable {entity : EntityId} {context : CharacterContext} {character : Character}
  {mistake : Fault → Prop}

theorem not_warns_drainEffects {being : Being} {abilities : Abilities} {channels : SyncChannels} :
    ∀ effect ∈ character.drainEffects being abilities channels, ¬ effect.Warns := by
  rintro effect hmem ⟨event, rfl, hwarn⟩
  rcases List.mem_append.1 hmem with hreport | hmessage
  · obtain ⟨id, -, hupdate⟩ := List.mem_filterMap.1 hreport
    obtain ⟨record, -, heq⟩ := Option.map_eq_some_iff.1 hupdate
    cases heq
  · obtain ⟨message, -, hdelivery⟩ := List.mem_map.1 hmessage
    unfold delivery at hdelivery
    split at hdelivery
    · cases hdelivery
    · cases hdelivery
      cases hwarn

/-- The character is where it was, and goes on with the same dialogue. -/
structure Stays (before after : Character) : Prop where
  actor : after.entity.actor? = before.entity.actor?
  databaseId : after.databaseId = before.databaseId
  dialogue : after.dialogue = before.dialogue

theorem Stays.trans {before after last : Character} (h : before.Stays after)
    (hlast : after.Stays last) : before.Stays last :=
  ⟨hlast.actor.trans h.actor, hlast.databaseId.trans h.databaseId, hlast.dialogue.trans h.dialogue⟩

theorem Whole.drain_stays (h : character.Whole entity context) {operation : Operation}
    (hdrains : operation.Drains) :
    (character.perform operation).Ensures (fun effect => ¬ effect.Warns) mistake fun after =>
      after.Whole entity context ∧ character.Stays after := by
  obtain ⟨being, hbeing⟩ := h.complete.being
  obtain ⟨abilities, habilities⟩ := h.complete.abilities
  have hdrained : (character.perform operation).Ensures _ mistake (Whole entity context) :=
    h.drain_ensures hdrains
  have hwhole := hdrained.result
  rw [perform_of_drains hdrains hbeing habilities] at hwhole ⊢
  exact Step.ensures_ok not_warns_drainEffects ⟨hwhole _ rfl, rfl, rfl, rfl⟩

/-- A character stays where it is while it acts. -/
theorem Whole.turn_stays (h : character.Whole entity context) (elapsed : Duration) :
    (character.turn elapsed).Ensures (fun effect => ¬ effect.Warns) mistake fun after =>
      after.Whole entity context ∧ character.Stays after := by
  obtain ⟨abilities, habilities⟩ := h.complete.abilities
  rw [turn, tick, requireAbilities_eq habilities, pure_bind, pure_bind]
  refine ((h.withAbilities (abilities.tick elapsed)).drain_stays .update).bind ?_
  intro updated hdrained
  obtain ⟨hupdated, hstays⟩ := hdrained
  refine (hupdated.drain_stays .sendStatus).imp ?_
  intro sent hdrained
  obtain ⟨hsent, hstays'⟩ := hdrained
  have hall := hstays.trans hstays'
  exact ⟨hsent, hall.actor, hall.databaseId, hall.dialogue⟩

theorem Whole.movedTo (h : character.Whole entity context) (warp : Warp) :
    (character.movedTo warp).Whole entity context := by
  unfold Character.movedTo
  split
  · exact ⟨h.id, h.context, h.complete.setActor _⟩
  · exact h

theorem Whole.landed (h : character.Whole entity context) (warps : List Warp) :
    (character.landed entity warps).Whole entity context :=
  landed_induction warps h fun _ warp hwhole => hwhole.movedTo warp

end Character

namespace Simulation

variable {context : CharacterContext} {characters : SortedMap EntityId Character} {entity : EntityId}
  {character : Character} {simulation : Simulation} {elapsed : Duration} {mistake : Fault → Prop}

/-- Every character is whole, under its own id. -/
def AllWhole (context : CharacterContext) (characters : SortedMap EntityId Character) : Prop :=
  ∀ entity character, characters.get? entity = some character → character.Whole entity context

theorem AllWhole.insert (h : AllWhole context characters)
    (hwhole : character.Whole entity context) :
    AllWhole context (characters.insert entity character) := by
  intro other found hfound
  rw [SortedMap.get?_insert] at hfound
  split at hfound
  · next heq =>
    subst heq
    cases hfound
    exact hwhole
  · exact h other found hfound

theorem AllWhole.exists_arrival (h : AllWhole simulation.context simulation.characters)
    (elapsed : Duration) (hcharacter : simulation.character? entity = some character) :
    ∃ later, (character.turn elapsed).result = .ok later ∧ character.Stays later ∧
      simulation.arrival elapsed entity = some (later.landed entity simulation.world.warps) := by
  obtain ⟨later, hlater, -, hstays⟩ :=
    ((h entity character hcharacter).turn_stays elapsed).exists_ok
  exact ⟨later, hlater, hstays, arrival_of_ok hcharacter hlater⟩

/-- Who is there at the beginning of a tick is there before anybody leaves. -/
theorem AllWhole.mem_keys_iff_arrival (h : AllWhole simulation.context simulation.characters)
    (elapsed : Duration) : entity ∈ simulation.characters.keys ↔
      ∃ character, simulation.arrival elapsed entity = some character := by
  rw [SortedMap.mem_keys_iff]
  constructor
  · intro hthere
    obtain ⟨character, hcharacter⟩ := hthere
    obtain ⟨later, -, -, harrival⟩ := h.exists_arrival elapsed hcharacter
    exact ⟨_, harrival⟩
  · intro hthere
    obtain ⟨character, harrival⟩ := hthere
    obtain ⟨earlier, -, hearlier, -⟩ := exists_of_arrival harrival
    exact ⟨earlier, hearlier⟩

theorem arrival_whole (h : ∀ earlier, simulation.character? entity = some earlier →
      earlier.Whole entity context)
    (harrival : simulation.arrival elapsed entity = some character) :
    character.Whole entity context := by
  obtain ⟨earlier, later, hearlier, hlater, rfl⟩ := exists_of_arrival harrival
  have hturn : (earlier.turn elapsed).Ensures _ (fun _ => True) _ :=
    (h earlier hearlier).turn_stays elapsed
  exact (hturn.result later hlater).1.landed _

theorem AllWhole.arrival_whole (h : AllWhole simulation.context simulation.characters)
    (harrival : simulation.arrival elapsed entity = some character) :
    character.Whole entity simulation.context :=
  Simulation.arrival_whole (h entity) harrival

/-- Every character gets through a tick. -/
theorem AllWhole.separates (h : AllWhole simulation.context simulation.characters)
    (elapsed : Duration) : (simulation.tick elapsed).Ensures
      (fun effect => effect.Warns →
        ∃ warp ∈ simulation.world.warps, simulation.character? warp.entity = none) mistake
      (simulation.Separates elapsed) := by
  have hplaced : ∀ entity character, simulation.arrival elapsed entity = some character →
      character.entity.actor? ≠ none := by
    intro entity character harrival
    obtain ⟨actor, hactor⟩ := (h.arrival_whole harrival).complete.actor
    simp [hactor]
  refine (tick_separates (fun effect hnotes => hnotes.not_warns)
    (fun entity character hfound => ((h entity character hfound).turn_stays elapsed).imp
      fun _ _ => trivial)
    fun entity _ character harrival hnone =>
      absurd hnone (hplaced entity character harrival)).allow ?_
  intro effect hallowed hwarns
  obtain ⟨warp, hmem, hnone⟩ := hallowed.resolve_left (not_not_intro hwarns)
  refine ⟨warp, hmem, Option.eq_none_iff_forall_ne_some.2 fun character hfound => ?_⟩
  obtain ⟨later, -, -, harrival⟩ := h.exists_arrival elapsed hfound
  rw [harrival] at hnone
  exact hplaced warp.entity _ harrival hnone

theorem Separates.allWhole {outcome : Simulation × List ServerEvent}
    (hseparates : simulation.Separates elapsed outcome)
    (h : AllWhole simulation.context simulation.characters) :
    AllWhole simulation.context outcome.1.characters := by
  intro entity character hfound
  have hcharacter := hseparates.character entity
  rw [show outcome.1.character? entity = some character from hfound] at hcharacter
  split at hcharacter
  · cases hcharacter
  · exact h.arrival_whole hcharacter.symm

end Simulation

end CharacterSim
