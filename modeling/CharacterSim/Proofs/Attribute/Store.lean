import CharacterSim.Attribute.Store

/-! What the operations of a store leave behind, read off look-ups. Recalculation never touches a
base, so the values it computes do not depend on the order in which attributes are visited. -/

namespace CharacterSim.AttributeStore

variable {store first second : AttributeStore} {id other : AttributeId}

theorem ext_get? (hregistry : first.registry = second.registry)
    (hget : ∀ id, first.get? id = second.get? id) : first = second := by
  obtain ⟨registry, records⟩ := first
  obtain ⟨registry', records'⟩ := second
  obtain rfl : registry = registry' := hregistry
  obtain rfl : records = records' := SortedMap.ext_get? hget
  rfl

/-- The store with one record put in. -/
def put (store : AttributeStore) (id : AttributeId) (record : AttributeRecord) : AttributeStore :=
  { store with records := store.records.insert id record }

@[simp] theorem registry_put (record : AttributeRecord) :
    (store.put id record).registry = store.registry := rfl

theorem get?_put (record : AttributeRecord) :
    (store.put id record).get? other = if other = id then some record else store.get? other := by
  split
  · next heq => exact heq ▸ SortedMap.get?_insert_self ..
  · next hne => exact SortedMap.get?_insert_of_ne _ hne _

theorem get?_put_of_ne (h : other ≠ id) (record : AttributeRecord) :
    (store.put id record).get? other = store.get? other := by
  rw [get?_put, if_neg h]

theorem base?_put_of_ne (h : other ≠ id) (record : AttributeRecord) :
    (store.put id record).base? other = store.base? other := by
  rw [base?, get?_put_of_ne h, ← base?]

theorem contains_eq_true_iff : store.contains id = true ↔ ∃ record, store.get? id = some record :=
  SortedMap.contains_iff

theorem mem_ids_iff : id ∈ store.ids ↔ ∃ record, store.get? id = some record :=
  SortedMap.mem_keys_iff

/-! ### What a recalculation computes -/

/-- A derivation reads the bases of its sources and nothing else. -/
theorem derived_congr {derivation : Derivation}
    (h : ∀ source ∈ derivation.sources, first.base? source = second.base? source) (base : Float) :
    first.derived derivation base = second.derived derivation base := by
  cases derivation with
  | base => rfl
  | linear terms =>
    have hterms : ∀ term ∈ terms, term.weight * (first.base? term.source).getD 0.0 =
        term.weight * (second.base? term.source).getD 0.0 := fun term hmem => by
      rw [h term.source (List.mem_map_of_mem hmem)]
    simp only [derived, List.map_congr_left hterms]

theorem freshValue_congr {info : AttributeInfo} {record : AttributeRecord}
    (h : ∀ source, info.DerivesFrom source → first.base? source = second.base? source) :
    first.freshValue info record = second.freshValue info record := by
  rw [freshValue, freshValue,
    derived_congr fun source hmem => h source (AttributeInfo.mem_sources_iff.1 hmem)]

/-- The record with its modified value recomputed, where the catalog defines the attribute. -/
def refreshed (store : AttributeStore) (id : AttributeId) (record : AttributeRecord) :
    AttributeRecord :=
  match store.registry.get? id with
  | some info => { record with modified := store.freshValue info record }
  | none => record

@[simp] theorem base_refreshed (record : AttributeRecord) :
    (store.refreshed id record).base = record.base := by
  unfold refreshed
  split <;> rfl

@[simp] theorem refreshed_refreshed (record : AttributeRecord) :
    store.refreshed id (store.refreshed id record) = store.refreshed id record := by
  unfold refreshed
  split <;> rfl

theorem refreshed_congr (hregistry : first.registry = second.registry)
    (hbase : ∀ id, first.base? id = second.base? id) (record : AttributeRecord) :
    first.refreshed id record = second.refreshed id record := by
  unfold refreshed
  rw [hregistry]
  split
  · rw [freshValue_congr fun source _ => hbase source]
  · rfl

theorem get?_recalculate : (store.recalculate id).1.get? other =
    if other = id then (store.get? id).map (store.refreshed id) else store.get? other := by
  unfold recalculate
  split
  · next info record hinfo hrecord =>
    rw [hrecord, Option.map_some, refreshed, hinfo]
    exact get?_put _
  · next hnone =>
    split
    · next heq =>
      subst heq
      cases hrecord : store.get? other with
      | none => rfl
      | some record =>
        cases hinfo : store.registry.get? other with
        | none => simp [refreshed, hinfo]
        | some info => exact absurd hrecord (hnone info record hinfo)
    · rfl

@[simp] theorem registry_recalculate : (store.recalculate id).1.registry = store.registry := by
  unfold recalculate
  split <;> rfl

@[simp] theorem base?_recalculate : (store.recalculate id).1.base? other = store.base? other := by
  rw [base?, base?, get?_recalculate]
  split
  · next heq =>
    subst heq
    cases store.get? other <;> simp
  · rfl

/-- An attribute is reported as changed unless its new value is the same number. -/
theorem modified_beq_of_recalculate {record : AttributeRecord} (hget : store.get? id = some record)
    (h : (store.recalculate id).2 = false) :
    (store.refreshed id record).modified = record.modified ∨
      (record.modified == (store.refreshed id record).modified) = true := by
  unfold recalculate at h
  unfold refreshed
  cases hinfo : store.registry.get? id with
  | none => exact .inl rfl
  | some info =>
    right
    rw [hinfo, hget] at h
    simpa [bne] using h

/-! ### Recalculating a list of attributes -/

@[simp] theorem recalculateEach_nil : store.recalculateEach [] = store := rfl

theorem recalculateEach_cons (ids : List AttributeId) :
    store.recalculateEach (id :: ids) = (store.recalculate id).1.recalculateEach ids := rfl

@[simp] theorem registry_recalculateEach (ids : List AttributeId) :
    (store.recalculateEach ids).registry = store.registry := by
  induction ids generalizing store with
  | nil => rfl
  | cons id ids ih => rw [recalculateEach_cons, ih, registry_recalculate]

@[simp] theorem base?_recalculateEach (ids : List AttributeId) :
    (store.recalculateEach ids).base? other = store.base? other := by
  induction ids generalizing store with
  | nil => rfl
  | cons id ids ih => rw [recalculateEach_cons, ih, base?_recalculate]

theorem get?_recalculateEach (ids : List AttributeId) : (store.recalculateEach ids).get? other =
    if other ∈ ids then (store.get? other).map (store.refreshed other) else store.get? other := by
  induction ids generalizing store with
  | nil => simp
  | cons id ids ih =>
    have hrefreshed : (store.recalculate id).1.refreshed other = store.refreshed other :=
      funext (refreshed_congr registry_recalculate fun _ => base?_recalculate)
    rw [recalculateEach_cons, ih, get?_recalculate, hrefreshed]
    by_cases heq : other = id
    · subst heq
      cases store.get? other <;> simp
    · simp [heq]

/-! ### Changes of bases and modifiers -/

/-- Setting a base rewrites the attribute and the carried ones that depend on it. -/
theorem setBase_of_some {record : AttributeRecord} (hget : store.get? id = some record)
    (value : Float) : store.setBase id value =
      let touched := id :: (store.registry.dependents id).filter store.contains
      ((store.put id { record with base := value }).recalculateEach touched, touched) := by
  unfold setBase
  rw [hget]
  rfl

theorem setBase_of_none (hget : store.get? id = none) (value : Float) :
    store.setBase id value = (store, []) := by
  unfold setBase
  rw [hget]

@[simp] theorem registry_setBase (value : Float) :
    (store.setBase id value).1.registry = store.registry := by
  unfold setBase
  split
  · rfl
  · exact registry_recalculateEach _

/-- No other base changes. -/
theorem base?_setBase (value : Float) : (store.setBase id value).1.base? other =
    if other = id then (store.base? other).map fun _ => value else store.base? other := by
  cases hget : store.get? id with
  | none =>
    rw [setBase_of_none hget]
    split
    · next heq =>
      rw [heq, base?, hget]
      rfl
    · rfl
  | some record =>
    rw [setBase_of_some hget]
    dsimp only
    rw [base?_recalculateEach]
    split
    · next heq =>
      rw [heq, base?, base?, get?_put, if_pos rfl, hget]
      rfl
    · next hne => exact base?_put_of_ne hne _

theorem get?_setBase_of_not_mem {value : Float} (h : other ∉ (store.setBase id value).2) :
    (store.setBase id value).1.get? other = store.get? other := by
  cases hget : store.get? id with
  | none => rw [setBase_of_none hget]
  | some record =>
    rw [setBase_of_some hget] at h ⊢
    have hne : other ≠ id := fun heq => h (heq ▸ List.mem_cons_self)
    simp only [get?_recalculateEach, if_neg h]
    exact get?_put_of_ne hne _

theorem setModifiers_eq (record : AttributeRecord) (modifiers : ModifierStack) :
    store.setModifiers id record modifiers =
      (store.put id { record with modifiers }).recalculateEach [id] := rfl

@[simp] theorem registry_setModifiers (record : AttributeRecord) (modifiers : ModifierStack) :
    (store.setModifiers id record modifiers).registry = store.registry := by
  rw [setModifiers_eq, registry_recalculateEach, registry_put]

theorem get?_setModifiers_of_ne (h : other ≠ id) (record : AttributeRecord)
    (modifiers : ModifierStack) :
    (store.setModifiers id record modifiers).get? other = store.get? other := by
  rw [setModifiers_eq, get?_recalculateEach, if_neg (by simpa using h), get?_put_of_ne h]

@[simp] theorem registry_addModifier {source : ModifierSource} {modifier : Modifier} :
    (store.addModifier id source modifier).1.registry = store.registry := by
  unfold addModifier
  split
  · rfl
  · exact registry_setModifiers _ _

@[simp] theorem registry_removeModifier {source : ModifierSource} :
    (store.removeModifier id source).1.registry = store.registry := by
  unfold removeModifier
  split
  · rfl
  · split
    · exact registry_setModifiers _ _
    · rfl

theorem get?_addModifier_of_not_mem {source : ModifierSource} {modifier : Modifier}
    (h : other ∉ (store.addModifier id source modifier).2) :
    (store.addModifier id source modifier).1.get? other = store.get? other := by
  unfold addModifier at h ⊢
  split at h
  · rfl
  · exact get?_setModifiers_of_ne (by simpa using h) _ _

theorem get?_removeModifier_of_not_mem {source : ModifierSource}
    (h : other ∉ (store.removeModifier id source).2) :
    (store.removeModifier id source).1.get? other = store.get? other := by
  unfold removeModifier at h ⊢
  split at h
  · rfl
  · split at h
    · next hsource =>
      rw [if_pos hsource]
      exact get?_setModifiers_of_ne (by simpa using h) _ _
    · next hsource => rw [if_neg hsource]

end CharacterSim.AttributeStore
