import CharacterSim.Proofs.Character.Lifecycle
import CharacterSim.Proofs.Server.Tick

/-! Where no script interferes, nobody dies or is revived in a tick, and it is told of those who
leave in it and of no one else. -/

namespace CharacterSim

namespace Character

variable {entity : EntityId} {character : Character} {mistake : Fault → Prop}

theorem Intact.turn_steady (h : character.Intact) (elapsed : Duration) :
    (character.turn elapsed).Ensures (fun _ => True) mistake character.Steady := by
  unfold turn
  refine (h.tick_steady elapsed).bind fun ticked hticked => ?_
  refine (hticked.intact.drain_steady .update).bind fun updated hupdated => ?_
  refine (hupdated.intact.drain_steady .sendStatus).imp fun sent hsent => ?_
  exact (hticked.trans hupdated).trans hsent

theorem Intact.steady_movedTo (h : character.Intact) (warp : Warp) :
    character.Steady (character.movedTo warp) := by
  unfold movedTo
  split
  · exact h.steady_setActor _
  · exact h.steady_self

theorem Intact.steady_landed (h : character.Intact) (warps : List Warp) :
    character.Steady (character.landed entity warps) :=
  landed_induction warps h.steady_self fun _ warp hsteady =>
    hsteady.trans (hsteady.intact.steady_movedTo warp)

end Character

namespace Simulation

variable {simulation : Simulation} {before after characters : SortedMap EntityId Character}
  {entity : EntityId} {character : Character} {elapsed : Duration} {mistake : Fault → Prop}

/-- The same characters at a later time, of whom none has died or been revived. -/
def Preserves (before after : SortedMap EntityId Character) : Prop :=
  ∀ entity, Option.Rel Character.Steady (before.get? entity) (after.get? entity)

/-- Every character is intact. -/
def AllIntact (characters : SortedMap EntityId Character) : Prop :=
  ∀ entity character, characters.get? entity = some character → character.Intact

theorem Preserves.get?_before (h : Preserves before after)
    (hafter : after.get? entity = some character) :
    ∃ earlier, before.get? entity = some earlier ∧ earlier.Steady character := by
  have hrel := h entity
  rw [hafter] at hrel
  generalize before.get? entity = found at hrel ⊢
  cases hrel with
  | some hsteady => exact ⟨_, rfl, hsteady⟩

theorem Preserves.allIntact (h : Preserves before after) : AllIntact after := by
  intro entity character hafter
  obtain ⟨_, -, hsteady⟩ := h.get?_before hafter
  exact hsteady.intact

/-- The characters are the same when they have acted and are moved. -/
theorem AllIntact.moved_preserves (h : AllIntact simulation.characters) (elapsed : Duration) :
    (simulation.moved elapsed).Ensures (fun _ => True) mistake
      (Preserves simulation.characters) := by
  have hturn : ∀ entity character, simulation.character? entity = some character →
      (character.turn elapsed).Ensures (fun _ => True) mistake character.Steady :=
    fun entity character hfound => (h entity character hfound).turn_steady elapsed
  refine (moved_arrives (fun _ _ => trivial) fun entity character hfound =>
    (hturn entity character hfound).imp fun _ _ => trivial).anyEffects.imp fun characters hmoved => ?_
  obtain ⟨hacted, harrival⟩ := hmoved
  intro entity
  rw [harrival]
  cases hfound : simulation.characters.get? entity with
  | none =>
    rw [arrival, character?, hfound]
    exact .none
  | some character =>
    obtain ⟨later, hlater⟩ := hacted entity character hfound
    rw [arrival_of_ok hfound hlater]
    have hsteady := (hturn entity character hfound).result later hlater
    exact .some (hsteady.trans (hsteady.intact.steady_landed _))

/-- What is left of the characters, and what was told of the others, while requested removals are
carried out. -/
structure Leaving (characters : SortedMap EntityId Character) (removals : List EntityId)
    (state : SortedMap EntityId Character × List ServerEvent) : Prop where
  remaining : ∀ entity character, state.1.get? entity = some character →
    characters.get? entity = some character
  reported : ∀ entity character, characters.get? entity = some character →
    (state.1.get? entity = none ↔
      ∃ map position, .removed entity character.databaseId map position ∈ state.2)
  requested : ∀ entity character, characters.get? entity = some character →
    state.1.get? entity = none → entity ∈ removals
  known : ∀ event ∈ state.2, ∃ entity character map position,
    characters.get? entity = some character ∧
      event = .removed entity character.databaseId map position

theorem Left.leaving {removals : List EntityId}
    {state : SortedMap EntityId Character × List ServerEvent} (h : Left characters removals state) :
    Leaving characters removals state where
  remaining entity character hthere := by
    rw [h.remaining] at hthere
    split at hthere
    · cases hthere
    · exact hthere
  reported entity character hfound := by
    have htold := h.told entity
    rw [hfound, Option.bind_some] at htold
    rw [h.remaining]
    by_cases hmem : entity ∈ removals
    · obtain ⟨actor, hactor⟩ := Option.ne_none_iff_exists'.1 (h.placed entity hmem character hfound)
      rw [if_pos hmem, Character.farewell, hactor] at htold
      have hevent : .removed entity character.databaseId actor.map actor.position ∈
          state.2.filter (·.tells entity) := by
        rw [htold]
        exact List.mem_singleton_self _
      exact iff_of_true (if_pos hmem) ⟨_, _, (List.mem_filter.1 hevent).1⟩
    · rw [if_neg hmem] at htold
      rw [if_neg hmem, hfound]
      refine iff_of_false (Option.some_ne_none character) fun htells => ?_
      obtain ⟨map, position, hevent⟩ := htells
      exact List.filter_eq_nil_iff.1 htold _ hevent (decide_eq_true rfl)
  requested entity character hfound hgone := by
    rw [h.remaining, hfound] at hgone
    by_contra hmem
    rw [if_neg hmem] at hgone
    cases hgone
  known event hevent := by
    obtain ⟨entity, htells⟩ := h.known event hevent
    have htold := List.mem_filter.2 ⟨hevent, htells⟩
    rw [h.told] at htold
    split at htold
    · obtain ⟨character, hfound, hfarewell⟩ :=
        Option.bind_eq_some_iff.1 (Option.mem_toList.1 htold)
      obtain ⟨actor, -, rfl⟩ := Option.map_eq_some_iff.1 hfarewell
      exact ⟨entity, character, actor.map, actor.position, hfound, rfl⟩
    · cases htold

/-- What comes of a tick, in which the characters were these before any of them left. -/
structure Ticked (simulation : Simulation) (elapsed : Duration)
    (characters : SortedMap EntityId Character) (outcome : Simulation × List ServerEvent) :
    Prop where
  moved : (simulation.moved elapsed).result = .ok characters
  preserves : Preserves simulation.characters characters
  leaving : Leaving characters simulation.world.removals (outcome.1.characters, outcome.2)
  rest : outcome.1 = { simulation with characters := outcome.1.characters, world := {} }

theorem tick_ensures (h : AllIntact simulation.characters) (elapsed : Duration) :
    (simulation.tick elapsed).Ensures (fun _ => True) mistake fun outcome =>
      ∃ characters, simulation.Ticked elapsed characters outcome := by
  rw [tick_eq]
  refine (h.moved_preserves elapsed).result_eq.bind ?_
  intro characters hmoved
  obtain ⟨hpreserves, hmoved⟩ := hmoved
  have hplaced : ∀ entity ∈ simulation.world.removals, ∀ character,
      characters.get? entity = some character → character.entity.actor? = none →
        mistake (.missingComponent .actor) := by
    intro entity _ character hfound hnone
    obtain ⟨actor, hactor⟩ := (hpreserves.allIntact entity character hfound).complete.actor
    cases hactor.symm.trans hnone
  refine (removals_leave _ hplaced).anyEffects.bind ?_
  intro state hleft
  obtain ⟨remaining, events⟩ := state
  exact Step.ensures_pure ⟨characters, hmoved, hpreserves, hleft.leaving, rfl⟩

end Simulation

end CharacterSim
