import CharacterSim.Proofs.Attribute.Catalog
import CharacterSim.Proofs.Attribute.Store

/-! The attributes that some kinds of entity have in common, and the stores of just these. -/

namespace CharacterSim

namespace AttributeRegistry

/-- The definition of an attribute, if it applies to any of the given kinds of entity. -/
def scoped? (registry : AttributeRegistry) (scopes : ScopeSet) (id : AttributeId) :
    Option AttributeInfo :=
  (registry.get? id).filter fun info => info.scopes.intersects scopes

variable {registry : AttributeRegistry} {scopes : ScopeSet} {id : AttributeId}
  {info : AttributeInfo}

theorem scoped?_eq_some_iff : registry.scoped? scopes id = some info ↔
    registry.get? id = some info ∧ info.scopes.intersects scopes = true :=
  Option.filter_eq_some_iff

theorem Coherent.scoped?_eq_some_iff_mem (h : registry.Coherent) :
    registry.scoped? scopes id = some info ↔ info ∈ registry.scope scopes ∧ info.id = id := by
  rw [scoped?_eq_some_iff, scope, List.mem_filter]
  constructor
  · rintro ⟨hget, hscopes⟩
    exact ⟨⟨SortedMap.mem_values_iff.2 ⟨id, hget⟩, hscopes⟩, h.indexed id info hget⟩
  · rintro ⟨⟨hmem, hscopes⟩, rfl⟩
    exact ⟨h.indexed.mem_values_iff.1 hmem, hscopes⟩

theorem Coherent.nodup_scope (h : registry.Coherent) (scopes : ScopeSet) :
    ((registry.scope scopes).map (·.id)).Nodup := by
  have hall : (registry.infos.map (·.id)).Nodup := by
    rw [infos, h.indexed.map_id_values]
    exact registry.table.keys_nodup
  exact hall.sublist (List.filter_sublist.map _)

end AttributeRegistry

namespace AttributeStore

/-- The records of the attributes that apply to some kinds of entity, before any recalculation. -/
def defaults (registry : AttributeRegistry) (scopes : ScopeSet) :
    SortedMap AttributeId AttributeRecord :=
  .ofList ((registry.scope scopes).map fun info => (info.id, { base := info.defaultBase }))

variable {registry : AttributeRegistry} {scopes : ScopeSet} {id : AttributeId}

theorem forScope_eq (registry : AttributeRegistry) (scopes : ScopeSet) :
    forScope registry scopes = recalculateAll ⟨registry, defaults registry scopes⟩ := by
  rw [defaults, SortedMap.ofList, List.foldl_map]
  rfl

theorem get?_defaults_eq_some_iff (h : registry.Coherent) {record : AttributeRecord} :
    (defaults registry scopes).get? id = some record ↔
      ∃ info, registry.scoped? scopes id = some info ∧ record = { base := info.defaultBase } := by
  have hnodup : (((registry.scope scopes).map fun info =>
      (info.id, ({ base := info.defaultBase } : AttributeRecord))).map Prod.fst).Nodup := by
    rw [List.map_map]
    exact h.nodup_scope scopes
  rw [defaults, SortedMap.get?_ofList_eq_some_iff hnodup, List.mem_map]
  simp only [h.scoped?_eq_some_iff_mem, Prod.mk.injEq]
  constructor
  · rintro ⟨info, hmem, hid, hrecord⟩
    exact ⟨info, ⟨hmem, hid⟩, hrecord.symm⟩
  · rintro ⟨info, ⟨hmem, hid⟩, hrecord⟩
    exact ⟨info, hmem, hid, hrecord.symm⟩

/-- A store for some kinds of entity carries what applies to them, at its default base. -/
theorem base?_forScope (h : registry.Coherent) (scopes : ScopeSet) (id : AttributeId) :
    (forScope registry scopes).base? id = (registry.scoped? scopes id).map (·.defaultBase) := by
  have hdefaults : ∀ value, (AttributeStore.mk registry (defaults registry scopes)).base? id =
      some value ↔ (registry.scoped? scopes id).map (·.defaultBase) = some value := by
    intro value
    simp only [base?, get?, Option.map_eq_some_iff, get?_defaults_eq_some_iff h]
    constructor
    · rintro ⟨record, ⟨info, hinfo, rfl⟩, rfl⟩
      exact ⟨info, hinfo, rfl⟩
    · rintro ⟨info, hinfo, rfl⟩
      exact ⟨_, ⟨info, hinfo, rfl⟩, rfl⟩
  rw [forScope_eq, recalculateAll, base?_recalculateEach]
  exact Option.ext hdefaults

/-! ### Stores without modifiers -/

/-- No attribute has a modifier. -/
def Unmodified (store : AttributeStore) : Prop :=
  ∀ id record, store.get? id = some record → record.modifiers = .empty

variable {store : AttributeStore}

theorem Unmodified.recalculateEach (h : store.Unmodified) (ids : List AttributeId) :
    (store.recalculateEach ids).Unmodified := by
  intro id record hget
  rw [get?_recalculateEach] at hget
  split at hget
  · obtain ⟨before, hbefore, rfl⟩ := Option.map_eq_some_iff.1 hget
    rw [refreshed]
    split
    · exact h id before hbefore
    · exact h id before hbefore
  · exact h id record hget

theorem Unmodified.setBase (h : store.Unmodified) (id : AttributeId) (value : Float) :
    (store.setBase id value).1.Unmodified := by
  cases hget : store.get? id with
  | none =>
    rw [setBase_of_none hget]
    exact h
  | some record =>
    have hput : (store.put id { record with base := value }).Unmodified := by
      intro other found hfound
      rw [get?_put] at hfound
      split at hfound
      · cases hfound
        exact h id record hget
      · exact h other found hfound
    rw [setBase_of_some hget]
    exact hput.recalculateEach _

theorem unmodified_forScope (h : registry.Coherent) (scopes : ScopeSet) :
    (forScope registry scopes).Unmodified := by
  have hdefaults : (AttributeStore.mk registry (defaults registry scopes)).Unmodified := by
    intro id record hget
    obtain ⟨info, -, rfl⟩ := (get?_defaults_eq_some_iff h).1 hget
    rfl
  rw [forScope_eq]
  exact hdefaults.recalculateEach _

end AttributeStore

end CharacterSim
