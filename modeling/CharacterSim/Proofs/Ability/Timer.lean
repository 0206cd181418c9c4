import CharacterSim.Proofs.Ability.Cooldown
import CharacterSim.Script.Action
import Mathlib.Data.List.Induction

/-! The timers that a use of an ability starts: its own recharge, and the global cooldown. A script that
gives and uses abilities leaves both of them whole, whatever else it gives and tries to use, as no time
passes for it. -/

namespace CharacterSim

/-- Something that keeps abilities from use for a while. -/
inductive AbilityTimer where
  | recharge (id : AbilityId)
  | cooldown

/-- The request is to give an ability or to use one. -/
def AbilityRequest.Exercises : AbilityRequest → Prop
  | give _ | activate _ => True
  | take _ | tick _ => False

namespace AbilityTimer

/-- The time that it is started with. -/
def whole (catalog : AbilityCatalog) : AbilityTimer → Duration
  | recharge id => catalog.recharge id
  | cooldown => catalog.globalCooldown

/-- What is left of it; nothing can be told of an ability that is not possessed. -/
def left? (abilities : Abilities) : AbilityTimer → Option Duration
  | recharge id => abilities.remaining? id
  | cooldown => some abilities.globalCooldown

/-- The timer is one of those that a use of the ability starts. -/
def StartedBy (id : AbilityId) : AbilityTimer → Prop
  | recharge other => other = id
  | cooldown => True

variable {timer : AbilityTimer} {abilities after : Abilities} {id : AbilityId}

@[simp] theorem left?_tick (elapsed : Duration) :
    timer.left? (abilities.tick elapsed) = (timer.left? abilities).map fun left => left - elapsed := by
  cases timer with
  | recharge id => exact SortedMap.get?_mapValues abilities.remaining _ id
  | cooldown => rfl

@[simp] theorem left?_clearSignals : timer.left? abilities.clearSignals = timer.left? abilities := by
  cases timer <;> rfl

/-- An ability cannot be used while one of its timers runs. -/
theorem isZero_of_activate (h : abilities.activate id = .ok after) (htimer : timer.StartedBy id)
    {left : Duration} (hleft : timer.left? abilities = some left) : left.isZero = true := by
  obtain ⟨hcooldown, ⟨remaining, hremaining, hzero⟩, -⟩ := Abilities.activate_eq_ok_iff.1 h
  cases timer with
  | recharge other =>
    obtain rfl : other = id := htimer
    cases hremaining.symm.trans hleft
    exact hzero
  | cooldown =>
    cases hleft
    exact hcooldown

/-- A timer that is started has its whole time left. -/
theorem left?_of_activate (h : abilities.activate id = .ok after) (htimer : timer.StartedBy id) :
    timer.left? after = some (timer.whole abilities.catalog) := by
  obtain ⟨-, -, rfl⟩ := Abilities.activate_eq_ok_iff.1 h
  cases timer with
  | recharge other =>
    obtain rfl : other = id := htimer
    exact SortedMap.get?_insert_self ..
  | cooldown => rfl

end AbilityTimer

namespace Abilities

variable {abilities : Abilities} {timer : AbilityTimer} {id : AbilityId} {request : AbilityRequest}
  {requests : List AbilityRequest}

theorem attemptAll_concat (abilities : Abilities) (requests : List AbilityRequest)
    (request : AbilityRequest) : abilities.attemptAll (requests ++ [request]) =
      (((abilities.attemptAll requests).1.attempt request).1,
        (abilities.attemptAll requests).2 ++
          ((abilities.attemptAll requests).1.attempt request).2) := by
  rw [attemptAll, List.foldl_append]
  rfl

@[simp] theorem catalog_attempt : (abilities.attempt request).1.catalog = abilities.catalog := by
  cases request with
  | give id =>
    rw [attempt]
    split
    · next hgive =>
      obtain ⟨-, -, rfl⟩ := give?_eq_some_iff.1 hgive
      rfl
    · rfl
  | take id =>
    rw [attempt]
    split
    · next htake =>
      obtain ⟨-, rfl⟩ := take?_eq_some_iff.1 htake
      rfl
    · rfl
  | activate id =>
    rw [attempt]
    split
    · next hactivate =>
      obtain ⟨-, -, rfl⟩ := activate_eq_ok_iff.1 hactivate
      rfl
    · rfl
  | tick elapsed => rfl

@[simp] theorem catalog_attemptAll : (abilities.attemptAll requests).1.catalog = abilities.catalog := by
  induction requests using List.reverseRecOn with
  | nil => rfl
  | append_singleton rest request ih => rw [attemptAll_concat, catalog_attempt, ih]

/-- To give and to use abilities takes nothing from a timer that is whole. -/
theorem left?_attempt_of_whole (hrequest : request.Exercises)
    (h : timer.left? abilities = some (timer.whole abilities.catalog)) :
    timer.left? (abilities.attempt request).1 = some (timer.whole abilities.catalog) := by
  cases request with
  | give other =>
    rw [attempt]
    split
    · next hgive =>
      obtain ⟨-, hnew, rfl⟩ := give?_eq_some_iff.1 hgive
      cases timer with
      | recharge id =>
        have hne : id ≠ other := by
          rintro rfl
          rw [has, SortedMap.contains_iff.2 ⟨_, h⟩] at hnew
          cases hnew
        exact (SortedMap.get?_insert_of_ne _ hne _).trans h
      | cooldown => exact h
    · exact h
  | activate other =>
    rw [attempt]
    split
    · next hactivate =>
      by_cases htimer : timer.StartedBy other
      · exact AbilityTimer.left?_of_activate hactivate htimer
      · obtain ⟨-, -, rfl⟩ := activate_eq_ok_iff.1 hactivate
        cases timer with
        | recharge id => exact (SortedMap.get?_insert_of_ne _ htimer _).trans h
        | cooldown => exact absurd trivial htimer
    · exact h
  | take other => exact hrequest.elim
  | tick elapsed => exact hrequest.elim

/-- Where an ability was used among what was given and used, its timers are whole. -/
theorem left?_of_used (hrequests : ∀ request ∈ requests, request.Exercises)
    (hused : .done (.used id) ∈ (abilities.attemptAll requests).2) (htimer : timer.StartedBy id) :
    timer.left? (abilities.attemptAll requests).1 = some (timer.whole abilities.catalog) := by
  induction requests using List.reverseRecOn with
  | nil => cases hused
  | append_singleton rest request ih =>
    have hrequest := hrequests request (by simp)
    have hrest := ih fun other hmem => hrequests other (List.mem_append_left _ hmem)
    rw [attemptAll_concat] at hused ⊢
    rcases List.mem_append.1 hused with hbefore | hnow
    · have hwhole := hrest hbefore
      rw [← @catalog_attemptAll abilities rest] at hwhole ⊢
      exact left?_attempt_of_whole hrequest hwhole
    · cases request with
      | activate other =>
        rw [attempt] at hnow ⊢
        split at hnow
        · next hactivate =>
          obtain rfl : id = other := by simpa using hnow
          rw [← @catalog_attemptAll abilities rest]
          exact AbilityTimer.left?_of_activate hactivate htimer
        · cases hnow
      | give other =>
        rw [attempt] at hnow
        split at hnow <;> simp at hnow
      | take other => exact hrequest.elim
      | tick elapsed => exact hrequest.elim

end Abilities

/-! ### Scripts -/

/-- There is a script for logins, which gives and uses abilities and otherwise leaves them alone. A
login is the first that the scripts are told of a character. -/
structure ScriptCallbacks.Exercising (requests : Entity → List AbilityRequest)
    (callbacks : ScriptCallbacks) : Prop where
  exercises : ∀ entity, ∀ request ∈ requests entity, request.Exercises
  login : ∃ callback, callbacks.login = some callback ∧ ∀ entity, (callback [] entity).abilities? =
    entity.abilities?.map fun abilities => (abilities.attemptAll (requests entity)).1

namespace ScriptAction

/-- The action takes no ability away, and not the abilities altogether. -/
def Exercises : ScriptAction → Prop
  | take _ | remove .ability => False
  | _ => True

/-- What the action asks of abilities. -/
def request? : ScriptAction → Option AbilityRequest
  | give id => some (.give id)
  | activate id => some (.activate id)
  | _ => none

variable {entity : Entity} {action : ScriptAction}

theorem abilities?_updateAbilities (change : Abilities → Abilities) :
    (entity.updateAbilities change).abilities? = entity.abilities?.map change := by
  rw [Entity.abilities?, Entity.updateAbilities, Entity.abilities?]
  cases entity.abilities <;> rfl

theorem abilities?_run (h : action.Exercises) : (run entity action).abilities? =
    entity.abilities?.map fun abilities => (abilities.attemptAll action.request?.toList).1 := by
  cases action with
  | give id =>
    rw [run, abilities?_updateAbilities]
    refine Option.map_congr fun abilities _ => ?_
    cases hgive : abilities.give? id <;> simp [request?, Abilities.attemptAll, Abilities.attempt, hgive]
  | activate id =>
    rw [run, abilities?_updateAbilities]
    refine Option.map_congr fun abilities _ => ?_
    cases hactivate : abilities.activate id <;>
      simp [request?, Abilities.attemptAll, Abilities.attempt, hactivate]
  | take id => exact h.elim
  | remove kind =>
    cases kind with
    | ability => exact h.elim
    | being | actor => exact Option.map_id'.symm
  | setAttribute | addModifier | removeModifier | rename | die | revive | clearChanged | move =>
    exact Option.map_id'.symm

/-- A list of actions exercises the abilities of an entity one request after the other. -/
theorem abilities?_runAll {actions : List ScriptAction} (h : ∀ action ∈ actions, action.Exercises) :
    (runAll actions entity).abilities? = entity.abilities?.map fun abilities =>
      (abilities.attemptAll (actions.filterMap request?)).1 := by
  induction actions using List.reverseRecOn with
  | nil => exact Option.map_id'.symm
  | append_singleton rest action ih =>
    have hrest := ih fun other hmem => h other (List.mem_append_left _ hmem)
    have haction := h action (by simp)
    have hlast : runAll (rest ++ [action]) entity = run (runAll rest entity) action :=
      List.foldl_append
    rw [hlast, abilities?_run haction, hrest, Option.map_map, List.filterMap_append]
    refine Option.map_congr fun abilities _ => ?_
    cases hrequest : action.request? with
    | none => simp [hrequest, Abilities.attemptAll]
    | some request => simp [hrequest, Abilities.attemptAll]

end ScriptAction

theorem ScriptCallbacks.exercising_ofActions {actions : List ScriptAction}
    (h : ∀ action ∈ actions, action.Exercises) (death deathAccepted : Option (List ScriptAction))
    (handled : Bool) : (ofActions death deathAccepted (some actions) handled).Exercising
      fun _ => actions.filterMap ScriptAction.request? where
  exercises entity request hmem := by
    obtain ⟨action, -, hrequest⟩ := List.mem_filterMap.1 hmem
    cases action <;> cases hrequest <;> trivial
  login := ⟨_, rfl, fun _ => ScriptAction.abilities?_runAll h⟩

end CharacterSim
