import CharacterSim.Proofs.Attribute.Scope
import CharacterSim.Proofs.Character.Construction

/-! What the actions of a format do to the data they load, and when they refuse to. -/

namespace CharacterSim

namespace Abilities

variable {abilities : Abilities} {id : AbilityId}

theorem give?_of_has (h : abilities.has id = true) : abilities.give? id = none := by
  rw [give?, h, Bool.or_true]
  rfl

theorem give?_of_not_offered (h : abilities.catalog.contains id = false) :
    abilities.give? id = none := by
  rw [give?, h]
  rfl

theorem give?_of_offered (h : abilities.catalog.contains id = true)
    (hnew : abilities.has id = false) : abilities.give? id = some { abilities with
      remaining := abilities.remaining.insert id .zero
      signals := abilities.signals ++ [.changed id] } := by
  rw [give?, h, hnew]
  rfl

/-- The abilities with one more, if it was not granted before. -/
def grant (abilities : Abilities) (id : AbilityId) : Abilities :=
  (abilities.give? id).getD abilities

theorem catalog_grant (id : AbilityId) : (abilities.grant id).catalog = abilities.catalog := by
  unfold grant give?
  split <;> rfl

theorem globalCooldown_grant (id : AbilityId) :
    (abilities.grant id).globalCooldown = abilities.globalCooldown := by
  unfold grant give?
  split <;> rfl

/-- An ability on offer that is granted again keeps the time until it can be used. -/
theorem remaining?_grant (hoffered : abilities.catalog.contains id = true) (other : AbilityId) :
    (abilities.grant id).remaining? other =
      if other = id then some ((abilities.remaining? id).getD .zero)
      else abilities.remaining? other := by
  rw [grant]
  cases hhas : abilities.has id with
  | true =>
    obtain ⟨remaining, hremaining⟩ := SortedMap.contains_iff.1 hhas
    rw [give?_of_has hhas, Option.getD_none]
    split
    · next heq => rw [heq, remaining?, hremaining, Option.getD_some]
    · rfl
  | false =>
    have hnone : abilities.remaining? id = none := by
      simpa [has, SortedMap.contains, remaining?] using hhas
    rw [give?_of_offered hoffered hhas, hnone]
    split
    · next heq => exact heq ▸ SortedMap.get?_insert_self ..
    · next hne => exact SortedMap.get?_insert_of_ne _ hne _

end Abilities

namespace CharacterData

/-- The data with another base, if the character carries the attribute. -/
def withBase (data : CharacterData) (id : AttributeId) (value : Float) : CharacterData :=
  { data with being := (data.being.setAttribute id value).1 }

/-- The data with one more ability, if it was not granted before. -/
def withAbility (data : CharacterData) (id : AbilityId) : CharacterData :=
  { data with abilities := data.abilities.grant id }

/-- Data are prepared for a context when they carry its attributes and none but its abilities can be
granted. -/
structure Prepared (data : CharacterData) (context : CharacterContext) : Prop where
  carried : ∀ id, (data.being.base? id).isSome = (context.registry.scoped? .character id).isSome
  catalog : data.abilities.catalog = context.abilities
  granted : ∀ id, data.abilities.has id = true → context.abilities.contains id = true

variable {data : CharacterData} {context : CharacterContext} {id : AttributeId}

theorem base?_withBase (value : Float) (other : AttributeId) :
    (data.withBase id value).being.base? other =
      if other = id then (data.being.base? other).map fun _ => value
      else data.being.base? other :=
  AttributeStore.base?_setBase value

theorem base?_initial (h : context.registry.Coherent) (name : String) (id : AttributeId) :
    (initial context name).being.base? id =
      (context.registry.scoped? .character id).map (·.defaultBase) :=
  AttributeStore.base?_forScope h .character id

theorem prepared_initial (h : context.registry.Coherent) (name : String) :
    (initial context name).Prepared context where
  carried id := by rw [base?_initial h, Option.isSome_map]
  catalog := rfl
  granted _ hhas := by cases hhas

theorem Prepared.withBase (h : data.Prepared context) (value : Float) :
    (data.withBase id value).Prepared context where
  carried other := by
    rw [← h.carried other, base?_withBase]
    split
    · rw [Option.isSome_map]
    · rfl
  catalog := h.catalog
  granted := h.granted

theorem Prepared.withAbility (h : data.Prepared context) {ability : AbilityId}
    (hoffered : context.abilities.contains ability = true) :
    (data.withAbility ability).Prepared context where
  carried := h.carried
  catalog := (Abilities.catalog_grant ability).trans h.catalog
  granted other hhas := by
    have hremaining : ((data.abilities.grant ability).remaining? other).isSome = true := hhas
    rw [Abilities.remaining?_grant (h.catalog.symm ▸ hoffered)] at hremaining
    split at hremaining
    · next heq => rwa [heq]
    · exact h.granted other hremaining

end CharacterData

namespace Load

variable {α : Type} {context : CharacterContext} {state : LoadState}

theorem run_read (reader : Read α) (state : LoadState) : ((read reader).run state).run =
    match (reader.run state.cursor).run with
    | (.ok value, cursor) => (.ok value, { state with cursor })
    | (.error error, cursor) => (.error (.wire error), { state with cursor }) := by
  rw [read, run_get_bind]
  dsimp only
  rw [run_set_bind]
  rcases (reader.run state.cursor).run with ⟨_ | value, cursor⟩ <;> rfl

theorem run_nonNegative (field : String) (value : Int) (state : LoadState) :
    ((nonNegative field value).run state).run =
      if value < 0 then (.error (.invalidValue field value), state)
      else (.ok value.toNat, state) := by
  unfold nonNegative
  split
  · rfl
  · rfl

/-- A base is set where every character carries the attribute, and refused elsewhere. -/
theorem run_setBase (h : state.data.Prepared context) (id : AttributeId) (value : Float) :
    ((setBase id value).run state).run =
      (if (context.registry.scoped? .character id).isSome then .ok ()
        else .error (.unknownAttribute id),
        { state with data := state.data.withBase id value }) := by
  rw [setBase, run_get_bind]
  dsimp only
  rw [run_modifyData_bind, ← h.carried id, Being.base?, AttributeStore.base?, Option.isSome_map]
  have happlied : (state.data.being.setAttribute id value).2 =
      (state.data.being.attributes.get? id).isSome := by
    unfold Being.setAttribute AttributeStore.setBase
    cases state.data.being.attributes.get? id <;> rfl
  rw [happlied]
  cases (state.data.being.attributes.get? id).isSome <;> rfl

/-- An ability is granted where it is on offer, and refused elsewhere. -/
theorem run_giveAbility (h : state.data.Prepared context) (id : AbilityId) :
    ((giveAbility id).run state).run =
      if context.abilities.contains id then
        (.ok (), { state with data := state.data.withAbility id })
      else (.error (.unknownAbility id), state) := by
  rw [giveAbility, run_get_bind, CharacterData.withAbility, Abilities.grant]
  cases hoffered : context.abilities.contains id with
  | false =>
    have hhas : state.data.abilities.has id = false := by
      rw [Bool.eq_false_iff]
      intro hhas
      rw [h.granted id hhas] at hoffered
      cases hoffered
    dsimp only
    rw [Abilities.give?_of_not_offered (h.catalog ▸ hoffered), hhas]
    rfl
  | true =>
    dsimp only
    cases hhas : state.data.abilities.has id with
    | false =>
      rw [Abilities.give?_of_offered (h.catalog ▸ hoffered) hhas]
      rfl
    | true =>
      rw [Abilities.give?_of_has hhas]
      rfl

end Load

end CharacterSim
