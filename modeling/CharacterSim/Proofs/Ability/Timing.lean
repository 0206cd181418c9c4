import CharacterSim.Ability.Possessed

/-! Time that passes in pieces. What is left of a timer after many of them is what is left after one
that is as long as all, so it does not depend on the pieces. -/

namespace CharacterSim

namespace Duration

/-- How long some spans are together. -/
def total (spans : List Duration) : Duration := spans.foldr (· + ·) zero

@[simp] theorem total_nil : total [] = zero := rfl

@[simp] theorem total_cons (span : Duration) (spans : List Duration) :
    total (span :: spans) = span + total spans := rfl

theorem sub_zero (span : Duration) : span - zero = span := rfl

end Duration

namespace Abilities

variable (abilities : Abilities)

theorem tick_zero : abilities.tick .zero = abilities := by
  have hremaining : (abilities.remaining.mapValues fun _ remaining => remaining - .zero) =
      abilities.remaining := by
    refine SortedMap.ext_get? fun id => ?_
    rw [SortedMap.get?_mapValues]
    simp only [Duration.sub_zero, Option.map_id']
  rw [tick, hremaining, Duration.sub_zero]

/-- Two ticks take their total from every timer. -/
theorem tick_tick (first second : Duration) :
    (abilities.tick first).tick second = abilities.tick (first + second) := by
  have hremaining : ((abilities.remaining.mapValues fun _ remaining => remaining - first).mapValues
      fun _ remaining => remaining - second) =
        abilities.remaining.mapValues fun _ remaining => remaining - (first + second) := by
    refine SortedMap.ext_get? fun id => ?_
    simp only [SortedMap.get?_mapValues, Option.map_map, Function.comp_def, Duration.sub_sub]
  simp only [tick, hremaining, Duration.sub_sub]

/-- One tick after the other is one of their total. -/
theorem foldl_tick (spans : List Duration) :
    spans.foldl tick abilities = abilities.tick (Duration.total spans) := by
  induction spans generalizing abilities with
  | nil => rw [List.foldl_nil, Duration.total_nil, tick_zero]
  | cons span rest ih => rw [List.foldl_cons, ih, tick_tick, Duration.total_cons]

end Abilities

end CharacterSim
