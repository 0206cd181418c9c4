import CharacterSim.Proofs.Attribute.Freshness
import CharacterSim.Proofs.Numeric.Amount
import CharacterSim.Script.Action
import Mathlib.Logic.Relation

/-! What scripts may do to an entity: change what its components hold, but neither take note of the
changes of a being nor take a component away. An attribute whose record an edit rewrites is among the
changes afterwards, unless its values stay the same numbers. -/

namespace CharacterSim

/-- The values of a record as messages state them. -/
def AttributeRecord.wire (record : AttributeRecord) : Int32 × Int32 :=
  (Amount.toFixedPoint record.base, Amount.toFixedPoint record.modified)

namespace Being

/-- One change of a being. -/
inductive Edit : Being → Being → Prop where
  | setAttribute (being : Being) (id : AttributeId) (value : Float) :
    Edit being (being.setAttribute id value).1
  | recalculate (being : Being) (id : AttributeId) : Edit being (being.recalculate id)
  | addModifier (being : Being) (id : AttributeId) (source : ModifierSource)
    (modifier : Modifier) : Edit being (being.addModifier id source modifier)
  | removeModifier (being : Being) (id : AttributeId) (source : ModifierSource) :
    Edit being (being.removeModifier id source)
  | rename (being : Being) (name : String) : Edit being { being with name }
  | transition (being : Being) (lifecycle : LifecycleState) : Edit being { being with lifecycle }

abbrev Edits : Being → Being → Prop := Relation.ReflTransGen Edit

variable {before after : Being} {id : AttributeId}

@[simp] theorem attributes_clearChanged : before.clearChanged.attributes = before.attributes := rfl

@[simp] theorem not_mem_changed_clearChanged : id ∉ before.clearChanged.changed :=
  SortedSet.not_mem_empty id

theorem Edit.registry_eq (h : Edit before after) :
    after.attributes.registry = before.attributes.registry := by
  cases h with
  | setAttribute id value => exact AttributeStore.registry_setBase value
  | recalculate id => exact AttributeStore.registry_recalculate
  | addModifier id source modifier => exact AttributeStore.registry_addModifier
  | removeModifier id source => exact AttributeStore.registry_removeModifier
  | rename name => rfl
  | transition lifecycle => rfl

theorem Edit.mem_changed (h : Edit before after) (hmem : id ∈ before.changed) :
    id ∈ after.changed := by
  cases h with
  | rename name => exact hmem
  | transition lifecycle => exact hmem
  | _ => exact SortedSet.mem_insertAll_iff.2 (.inr hmem)

/-- An attribute that is not among the changes was left alone, or recalculated to the same number. -/
theorem Edit.get?_of_not_mem (h : Edit before after) (hmem : id ∉ after.changed) :
    after.attributes.get? id = before.attributes.get? id ∨
      (before.attributes.recalculate id).2 = false ∧
      after.attributes.get? id =
        (before.attributes.get? id).map (before.attributes.refreshed id) := by
  have hrewritten : ∀ {result : AttributeStore × List AttributeId},
      id ∉ (before.rewritten result).changed → id ∉ result.2 :=
    fun hmem hresult => hmem (SortedSet.mem_insertAll_iff.2 (.inl hresult))
  cases h with
  | setAttribute other value =>
    exact .inl (AttributeStore.get?_setBase_of_not_mem (hrewritten hmem))
  | addModifier other source modifier =>
    exact .inl (AttributeStore.get?_addModifier_of_not_mem (hrewritten hmem))
  | removeModifier other source =>
    exact .inl (AttributeStore.get?_removeModifier_of_not_mem (hrewritten hmem))
  | rename name => exact .inl rfl
  | transition lifecycle => exact .inl rfl
  | recalculate other =>
    change (before.attributes.recalculate other).1.get? id = _ ∨
      _ ∧ (before.attributes.recalculate other).1.get? id = _
    rw [AttributeStore.get?_recalculate]
    split
    · next heq =>
      subst heq
      refine .inr ⟨?_, rfl⟩
      cases hsame : (before.attributes.recalculate id).2 with
      | false => rfl
      | true => exact absurd (hrewritten hmem) (by simp [hsame])
    · exact .inl rfl

theorem Edit.wire_eq (h : Edit before after) (hmem : id ∉ after.changed) :
    (after.attributes.get? id).map AttributeRecord.wire =
      (before.attributes.get? id).map AttributeRecord.wire := by
  rcases h.get?_of_not_mem hmem with hget | ⟨hsame, hget⟩
  · rw [hget]
  · rw [hget]
    cases hrecord : before.attributes.get? id with
    | none => rfl
    | some record =>
      have hwire : (before.attributes.refreshed id record).wire = record.wire := by
        rw [AttributeRecord.wire, AttributeRecord.wire, AttributeStore.base_refreshed]
        rcases AttributeStore.modified_beq_of_recalculate hrecord hsame with heq | hbeq
        · rw [heq]
        · rw [Amount.toFixedPoint_eq_of_beq hbeq]
      simp [hwire]

theorem Edit.fresh (h : Edit before after) (hcoherent : before.attributes.registry.Coherent)
    (hfresh : before.attributes.Fresh) : after.attributes.Fresh := by
  cases h with
  | setAttribute id value => exact hfresh.setBase hcoherent value
  | recalculate id =>
    show (before.attributes.recalculate id).1.Fresh
    rwa [hfresh.recalculate_eq_self]
  | addModifier id source modifier => exact hfresh.addModifier source modifier
  | removeModifier id source => exact hfresh.removeModifier source
  | rename name => exact hfresh
  | transition lifecycle => exact hfresh

/-- In a fresh store the records outside the changes stay as they are. -/
theorem Edit.get?_eq (h : Edit before after) (hfresh : before.attributes.Fresh)
    (hmem : id ∉ after.changed) : after.attributes.get? id = before.attributes.get? id := by
  rcases h.get?_of_not_mem hmem with hget | ⟨-, hget⟩
  · exact hget
  · rw [hget, ← show (before.attributes.recalculate id).1.get? id = _ from
      AttributeStore.get?_recalculate.trans (if_pos rfl), hfresh.recalculate_eq_self]

/-! ### Any number of edits -/

theorem Edits.registry_eq (h : Edits before after) :
    after.attributes.registry = before.attributes.registry := by
  induction h with
  | refl => rfl
  | tail _ hedit ih => rw [hedit.registry_eq, ih]

theorem Edits.mem_changed (h : Edits before after) (hmem : id ∈ before.changed) :
    id ∈ after.changed := by
  induction h with
  | refl => exact hmem
  | tail _ hedit ih => exact hedit.mem_changed ih

theorem Edits.wire_eq (h : Edits before after) (hmem : id ∉ after.changed) :
    (after.attributes.get? id).map AttributeRecord.wire =
      (before.attributes.get? id).map AttributeRecord.wire := by
  induction h with
  | refl => rfl
  | tail _ hedit ih => rw [hedit.wire_eq hmem, ih fun hbefore => hmem (hedit.mem_changed hbefore)]

theorem Edits.fresh (h : Edits before after) (hcoherent : before.attributes.registry.Coherent)
    (hfresh : before.attributes.Fresh) : after.attributes.Fresh := by
  induction h with
  | refl => exact hfresh
  | tail hedits hedit ih =>
    exact hedit.fresh ((Edits.registry_eq hedits).symm ▸ hcoherent) ih

theorem Edits.get?_eq (h : Edits before after) (hcoherent : before.attributes.registry.Coherent)
    (hfresh : before.attributes.Fresh) (hmem : id ∉ after.changed) :
    after.attributes.get? id = before.attributes.get? id := by
  induction h with
  | refl => rfl
  | tail hedits hedit ih =>
    rw [hedit.get?_eq (Edits.fresh hedits hcoherent hfresh) hmem,
      ih fun hbefore => hmem (hedit.mem_changed hbefore)]

/-! ### Death and revival -/

theorem die_eq_ok_iff : before.die = .ok after ↔
    before.isDead = false ∧ after = { before with lifecycle := .dead } := by
  obtain ⟨name, lifecycle, attributes, changed⟩ := before
  cases lifecycle <;>
    simp [die, isDead, LifecycleState.die, LifecycleState.isDead, Except.map, eq_comm]

theorem revive_eq_ok_iff : before.revive = .ok after ↔
    before.isDead = true ∧ after = { before with lifecycle := .alive } := by
  obtain ⟨name, lifecycle, attributes, changed⟩ := before
  cases lifecycle <;>
    simp [revive, isDead, LifecycleState.revive, LifecycleState.isDead, Except.map, eq_comm]

end Being

namespace Entity

/-- One change of an entity. What the actor and the abilities become is left open. -/
inductive Edit : Entity → Entity → Prop where
  | being {entity : Entity} {held next : Being} (hheld : entity.being? = some held)
    (hedit : held.Edit next) : Edit entity (entity.setBeing next)
  | actor {entity : Entity} {held : Actor} (hheld : entity.actor? = some held) (next : Actor) :
    Edit entity (entity.setActor next)
  | abilities {entity : Entity} {held : Abilities} (hheld : entity.abilities? = some held)
    (next : Abilities) : Edit entity (entity.setAbilities next)

abbrev Edits : Entity → Entity → Prop := Relation.ReflTransGen Edit

/-- The entity has a component of every kind. -/
structure Complete (entity : Entity) : Prop where
  being : ∃ being, entity.being? = some being
  actor : ∃ actor, entity.actor? = some actor
  abilities : ∃ abilities, entity.abilities? = some abilities

variable {before after : Entity}

@[simp] theorem being?_setBeing (being : Being) : (before.setBeing being).being? = some being := rfl

@[simp] theorem actor?_setBeing (being : Being) : (before.setBeing being).actor? = before.actor? :=
  rfl

@[simp] theorem abilities?_setBeing (being : Being) :
    (before.setBeing being).abilities? = before.abilities? := rfl

@[simp] theorem being?_setActor (actor : Actor) : (before.setActor actor).being? = before.being? :=
  rfl

@[simp] theorem actor?_setActor (actor : Actor) : (before.setActor actor).actor? = some actor := rfl

@[simp] theorem abilities?_setActor (actor : Actor) :
    (before.setActor actor).abilities? = before.abilities? := rfl

@[simp] theorem being?_setAbilities (abilities : Abilities) :
    (before.setAbilities abilities).being? = before.being? := rfl

@[simp] theorem actor?_setAbilities (abilities : Abilities) :
    (before.setAbilities abilities).actor? = before.actor? := rfl

@[simp] theorem abilities?_setAbilities (abilities : Abilities) :
    (before.setAbilities abilities).abilities? = some abilities := rfl

theorem Complete.setBeing (h : before.Complete) (being : Being) :
    (before.setBeing being).Complete := ⟨⟨being, rfl⟩, h.actor, h.abilities⟩

theorem Complete.setActor (h : before.Complete) (actor : Actor) :
    (before.setActor actor).Complete := ⟨h.being, ⟨actor, rfl⟩, h.abilities⟩

theorem Complete.setAbilities (h : before.Complete) (abilities : Abilities) :
    (before.setAbilities abilities).Complete := ⟨h.being, h.actor, ⟨abilities, rfl⟩⟩

theorem Edits.complete (h : Edits before after) (hcomplete : before.Complete) :
    after.Complete := by
  induction h with
  | refl => exact hcomplete
  | tail _ hedit ih =>
    cases hedit with
    | being => exact ih.setBeing _
    | actor => exact ih.setActor _
    | abilities => exact ih.setAbilities _

theorem Edits.id_eq (h : Edits before after) : after.id = before.id := by
  induction h with
  | refl => rfl
  | tail _ hedit ih => cases hedit <;> exact ih

theorem Edits.being (h : Edits before after) {held : Being} (hheld : before.being? = some held) :
    ∃ next, after.being? = some next ∧ held.Edits next := by
  induction h with
  | refl => exact ⟨held, hheld, .refl⟩
  | tail _ hedit ih =>
    obtain ⟨middle, hmiddle, hedits⟩ := ih
    cases hedit with
    | being hheld hbeing =>
      obtain rfl := Option.some.inj (hmiddle.symm.trans hheld)
      exact ⟨_, rfl, hedits.tail hbeing⟩
    | actor => exact ⟨middle, hmiddle, hedits⟩
    | abilities => exact ⟨middle, hmiddle, hedits⟩

theorem setBeing_eq_self {held : Being} (h : before.being? = some held) :
    before.setBeing held = before := by
  obtain ⟨id, being, actor, abilities⟩ := before
  cases being with
  | held component => rw [← Option.some.inj h]; rfl
  | vacant => cases h
  | foreign tag => cases h

theorem Edits.setBeing {held next : Being} (hheld : before.being? = some held)
    (h : held.Edits next) : Edits before (before.setBeing next) := by
  induction h with
  | refl => rw [setBeing_eq_self hheld]
  | @tail middle next _ hedit ih =>
    exact ih.tail (@Edit.being (before.setBeing middle) _ _ rfl hedit)

/-! ### Scripts -/

theorem updateBeing_eq (change : Being → Being) : before.updateBeing change =
    match before.being? with
    | some being => before.setBeing (change being)
    | none => before := by
  obtain ⟨id, being, actor, abilities⟩ := before
  cases being <;> rfl

theorem updateActor_eq (change : Actor → Actor) : before.updateActor change =
    match before.actor? with
    | some actor => before.setActor (change actor)
    | none => before := by
  obtain ⟨id, being, actor, abilities⟩ := before
  cases actor <;> rfl

theorem updateAbilities_eq (change : Abilities → Abilities) : before.updateAbilities change =
    match before.abilities? with
    | some abilities => before.setAbilities (change abilities)
    | none => before := by
  obtain ⟨id, being, actor, abilities⟩ := before
  cases abilities <;> rfl

theorem Edits.updateBeing {change : Being → Being}
    (h : ∀ being : Being, being.Edits (change being)) :
    Edits before (before.updateBeing change) := by
  rw [updateBeing_eq]
  cases hheld : before.being? with
  | some being => exact Edits.setBeing hheld (h being)
  | none => exact .refl

theorem Edits.updateActor (change : Actor → Actor) : Edits before (before.updateActor change) := by
  rw [updateActor_eq]
  cases hheld : before.actor? with
  | some actor => exact .single (.actor hheld _)
  | none => exact .refl

theorem Edits.updateAbilities (change : Abilities → Abilities) :
    Edits before (before.updateAbilities change) := by
  rw [updateAbilities_eq]
  cases hheld : before.abilities? with
  | some abilities => exact .single (.abilities hheld _)
  | none => exact .refl

end Entity

namespace ScriptAction

/-- The action neither takes note of changes nor takes a component away. -/
def IsEdit : ScriptAction → Prop
  | clearChanged | remove _ => False
  | _ => True

theorem edits_transition (being : Being) {result : Except LifecycleError LifecycleState} :
    being.Edits (transition being (result.map fun lifecycle => { being with lifecycle })) := by
  cases result with
  | ok lifecycle => exact .single (.transition being lifecycle)
  | error refusal => exact .refl

theorem edits_run {action : ScriptAction} (h : action.IsEdit) (entity : Entity) :
    entity.Edits (action.run entity) := by
  cases action with
  | setAttribute id value =>
    exact Entity.Edits.updateBeing fun being => .single (.setAttribute being id value)
  | addModifier id source modifier =>
    exact Entity.Edits.updateBeing fun being => .single (.addModifier being id source modifier)
  | removeModifier id source =>
    exact Entity.Edits.updateBeing fun being => .single (.removeModifier being id source)
  | rename name => exact Entity.Edits.updateBeing fun being => .single (.rename being name)
  | die => exact Entity.Edits.updateBeing fun being => edits_transition being
  | revive => exact Entity.Edits.updateBeing fun being => edits_transition being
  | clearChanged => cases h
  | give id => exact Entity.Edits.updateAbilities _
  | take id => exact Entity.Edits.updateAbilities _
  | activate id => exact Entity.Edits.updateAbilities _
  | move map position => exact Entity.Edits.updateActor _
  | remove kind => cases h

theorem edits_runAll {actions : List ScriptAction} (h : ∀ action ∈ actions, action.IsEdit)
    (entity : Entity) : entity.Edits (runAll actions entity) := by
  induction actions generalizing entity with
  | nil => exact .refl
  | cons action rest ih =>
    obtain ⟨haction, hrest⟩ := List.forall_mem_cons.1 h
    exact (edits_run haction entity).trans (ih hrest _)

end ScriptAction

/-- Whatever the callbacks do to an entity, at any call, they do by edits. -/
structure ScriptCallbacks.Gentle (callbacks : ScriptCallbacks) : Prop where
  death : ∀ callback, callbacks.death = some callback →
    ∀ history, ∀ entity : Entity, entity.Edits (callback history entity)
  deathAccepted : ∀ callback, callbacks.deathAccepted = some callback →
    ∀ history, ∀ entity : Entity, entity.Edits (callback history entity).1
  login : ∀ callback, callbacks.login = some callback →
    ∀ history, ∀ entity : Entity, entity.Edits (callback history entity)

theorem ScriptCallbacks.gentle_none : ({} : ScriptCallbacks).Gentle := by
  constructor <;> exact fun _ hnone => by cases hnone

/-- Callbacks that run lists of actions are gentle when the actions are edits. -/
theorem ScriptCallbacks.gentle_ofActions {death deathAccepted login : Option (List ScriptAction)}
    (h : ∀ actions, actions = death ∨ actions = deathAccepted ∨ actions = login →
      ∀ list, actions = some list → ∀ action ∈ list, action.IsEdit) (handled : Bool) :
    (ScriptCallbacks.ofActions death deathAccepted login handled).Gentle where
  death callback hcallback := by
    obtain ⟨list, hlist, rfl⟩ := Option.map_eq_some_iff.1 hcallback
    exact fun _ => ScriptAction.edits_runAll (h death (.inl rfl) list hlist)
  deathAccepted callback hcallback := by
    obtain ⟨list, hlist, rfl⟩ := Option.map_eq_some_iff.1 hcallback
    exact fun _ => ScriptAction.edits_runAll (h deathAccepted (.inr (.inl rfl)) list hlist)
  login callback hcallback := by
    obtain ⟨list, hlist, rfl⟩ := Option.map_eq_some_iff.1 hcallback
    exact fun _ => ScriptAction.edits_runAll (h login (.inr (.inr rfl)) list hlist)

/-- Whatever the thread does to an entity, at any resumption, it does by edits. -/
def ScriptThread.Gentle (thread : ScriptThread) : Prop :=
  ∀ seen, ∀ entity : Entity, entity.Edits (thread.behaviour seen entity).1

end CharacterSim
