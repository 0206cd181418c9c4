import CharacterSim.Proofs.Attribute.Acceptance
import CharacterSim.Proofs.Attribute.Freshness
import CharacterSim.Proofs.Numeric.Comparison

/-! Whether a modified value can leave the range of its attribute. Every operation edits records and
then recalculates those it edited, so that no record is left at the value it was created with; and a
catalog has no range without a nearest amount. -/

namespace CharacterSim

namespace Bounds

variable {bounds : Bounds}

/-- The amount is in the range, or is no number. -/
def Admits (bounds : Bounds) (amount : Float) : Prop :=
  (bounds.min ≤ amount ∧ amount ≤ bounds.max) ∨ amount.isNaN = true

theorem isValid_iff : bounds.isValid = true ↔ bounds.min ≤ bounds.max := decide_eq_true_iff

/-- The nearest amount of a usable range is in it, wherever the amount itself lies. -/
theorem admits_clamp (h : bounds.isValid = true) (amount : Float) :
    bounds.Admits (bounds.clamp amount) := by
  have hrange := isValid_iff.1 h
  obtain ⟨hmin, hmax⟩ := Amount.isNaN_of_le hrange
  unfold clamp
  split
  · exact .inl ⟨Amount.le_self hmin, hrange⟩
  · next hbelow =>
    split
    · exact .inl ⟨hrange, Amount.le_self hmax⟩
    · next habove =>
      cases hnumber : amount.isNaN with
      | true => exact .inr hnumber
      | false =>
        exact .inl ⟨Amount.le_of_not_lt hnumber hmin hbelow, Amount.le_of_not_lt hmax hnumber habove⟩

theorem clamp?_eq_some_iff {amount nearest : Float} :
    bounds.clamp? amount = some nearest ↔ bounds.isValid = true ∧ bounds.clamp amount = nearest := by
  unfold clamp?
  split <;> simp_all

end Bounds

namespace AttributeRegistry

/-- Every range of the catalog has a nearest amount to offer. -/
def Usable (registry : AttributeRegistry) : Prop :=
  ∀ id info, registry.get? id = some info → info.bounds.isValid = true

theorem Accepted.usable {registry : AttributeRegistry} (h : registry.Accepted) :
    registry.Usable := by
  obtain ⟨infos, hlist⟩ := h
  obtain ⟨hbounds, hdistinct, hbuilt⟩ := ofList_eq_ok_iff_ofInfos.1 hlist
  obtain ⟨htable, -⟩ := coherent_of_ofTable? (AttributeTable.indexed_ofInfos hdistinct) hbuilt
  intro id info hget
  rw [get?, htable, AttributeTable.get?_ofInfos_eq_some_iff hdistinct] at hget
  exact Bounds.isValid_iff.2 (hbounds info hget.1)

end AttributeRegistry

namespace AttributeStore

variable {store : AttributeStore} {id : AttributeId} {ids : List AttributeId}

/-! ### Operations whose ranges may be unusable -/

/-- `recalculate` for a range that may have no nearest amount. -/
def recalculate? (store : AttributeStore) (id : AttributeId) : Option (AttributeStore × Bool) :=
  match store.registry.get? id, store.get? id with
  | some info, some record => do
    let value ← info.bounds.clamp?
      (record.modifiers.apply (store.derived info.derivation record.base))
    return (store.put id { record with modified := value }, record.modified != value)
  | _, _ => some (store, false)

def recalculateEach? (store : AttributeStore) (ids : List AttributeId) : Option AttributeStore :=
  ids.foldlM (fun store id => (store.recalculate? id).map Prod.fst) store

/-- `forScope` for ranges that may have no nearest amount. -/
def forScope? (registry : AttributeRegistry) (scopes : ScopeSet) : Option AttributeStore :=
  let store : AttributeStore := ⟨registry, defaults registry scopes⟩
  store.recalculateEach? store.ids

/-- What an operation writes before it recalculates, and the attributes it then recalculates. -/
def edit (store : AttributeStore) : Operation → AttributeStore × List AttributeId
  | .create id base =>
    if !store.registry.contains id || store.contains id then (store, [])
    else (store.put id { base }, [id])
  | .setBase id value =>
    match store.get? id with
    | none => (store, [])
    | some record => (store.put id { record with base := value },
        id :: (store.registry.dependents id).filter store.contains)
  | .recalculate id => (store, [id])
  | .recalculateAll => (store, store.ids)
  | .addModifier id source modifier =>
    match store.get? id with
    | none => (store, [])
    | some record =>
      (store.put id { record with modifiers := record.modifiers.add source modifier }, [id])
  | .removeModifier id source =>
    match store.get? id with
    | none => (store, [])
    | some record =>
      if record.modifiers.hasSource source then
        (store.put id { record with modifiers := record.modifiers.withdraw source }, [id])
      else (store, [])

/-- `perform` for ranges that may have no nearest amount. -/
def perform? (store : AttributeStore) (operation : Operation) : Option AttributeStore :=
  (store.edit operation).1.recalculateEach? (store.edit operation).2

def performAll? (store : AttributeStore) (operations : List Operation) : Option AttributeStore :=
  operations.foldlM perform? store

/-- There is no nearest amount exactly for a carried attribute whose range is unusable. -/
theorem recalculate?_eq_none_iff : store.recalculate? id = none ↔
    ∃ info record, store.registry.get? id = some info ∧ store.get? id = some record ∧
      info.bounds.isValid = false := by
  unfold recalculate?
  split
  · next info record hinfo hrecord => simp [Bounds.clamp?, hinfo, hrecord]
  · next hnone =>
    refine iff_of_false nofun ?_
    rintro ⟨info, record, hinfo, hrecord, -⟩
    exact hnone info record hinfo hrecord

theorem recalculate?_eq_some (h : store.registry.Usable) (id : AttributeId) :
    store.recalculate? id = some (store.recalculate id) := by
  unfold recalculate? recalculate
  cases hinfo : store.registry.get? id with
  | none => rfl
  | some info =>
    cases store.get? id with
    | none => rfl
    | some record =>
      simp only [Bounds.clamp?_eq_some_iff.2 ⟨h id info hinfo, rfl⟩]
      rfl

theorem recalculateEach?_eq_some (h : store.registry.Usable) (ids : List AttributeId) :
    store.recalculateEach? ids = some (store.recalculateEach ids) := by
  induction ids generalizing store with
  | nil => rfl
  | cons id ids ih =>
    have hnext : (store.recalculate id).1.registry.Usable := registry_recalculate.symm ▸ h
    rw [recalculateEach?, List.foldlM_cons, recalculate?_eq_some h]
    exact ih hnext

/-- Every operation is an edit and the recalculation of what it edited. -/
theorem perform_eq (store : AttributeStore) (operation : Operation) :
    store.perform operation = (store.edit operation).1.recalculateEach (store.edit operation).2 := by
  cases operation with
  | create id base =>
    rw [perform, create?, edit]
    split
    · rfl
    · rfl
  | setBase id value =>
    rw [perform, setBase, edit]
    cases store.get? id <;> rfl
  | recalculate id => rfl
  | recalculateAll => rfl
  | addModifier id source modifier =>
    rw [perform, addModifier, edit]
    cases store.get? id <;> rfl
  | removeModifier id source =>
    rw [perform, removeModifier, edit]
    cases store.get? id with
    | none => rfl
    | some record =>
      dsimp only
      split <;> rfl

@[simp] theorem registry_edit (operation : Operation) :
    (store.edit operation).1.registry = store.registry := by
  rw [← registry_recalculateEach, ← perform_eq, registry_perform]

theorem perform?_eq_some (h : store.registry.Usable) (operation : Operation) :
    store.perform? operation = some (store.perform operation) := by
  have hedited : (store.edit operation).1.registry.Usable := (registry_edit operation).symm ▸ h
  rw [perform?, recalculateEach?_eq_some hedited, perform_eq]

theorem performAll?_eq_some (h : store.registry.Usable) (operations : List Operation) :
    store.performAll? operations = some (store.performAll operations) := by
  induction operations generalizing store with
  | nil => rfl
  | cons operation rest ih =>
    have hnext : (store.perform operation).registry.Usable := (registry_perform operation).symm ▸ h
    rw [performAll?, List.foldlM_cons, perform?_eq_some h]
    exact ih hnext

theorem forScope?_eq_some {registry : AttributeRegistry} (h : registry.Usable)
    (scopes : ScopeSet) : forScope? registry scopes = some (forScope registry scopes) := by
  rw [forScope?, forScope_eq]
  exact recalculateEach?_eq_some h _

/-! ### Values in their ranges -/

/-- Every record is of an attribute of the catalog, whose range admits its modified value. -/
def Bounded (store : AttributeStore) : Prop :=
  ∀ id record, store.get? id = some record → ∃ info, store.registry.get? id = some info ∧
    info.bounds.Admits record.modified

/-- `Bounded`, but for the listed attributes. -/
def BoundedExcept (store : AttributeStore) (ids : List AttributeId) : Prop :=
  ∀ id record, store.get? id = some record → ∃ info, store.registry.get? id = some info ∧
    (id ∉ ids → info.bounds.Admits record.modified)

theorem Bounded.except (h : store.Bounded) (ids : List AttributeId) : store.BoundedExcept ids := by
  intro id record hget
  obtain ⟨info, hinfo, hadmits⟩ := h id record hget
  exact ⟨info, hinfo, fun _ => hadmits⟩

/-- Recalculating the attributes that may be out of range brings all of them into it. -/
theorem BoundedExcept.recalculateEach (h : store.BoundedExcept ids)
    (husable : store.registry.Usable) : (store.recalculateEach ids).Bounded := by
  intro id record hget
  rw [registry_recalculateEach]
  rw [get?_recalculateEach] at hget
  split at hget
  · obtain ⟨before, hbefore, rfl⟩ := Option.map_eq_some_iff.1 hget
    obtain ⟨info, hinfo, -⟩ := h id before hbefore
    refine ⟨info, hinfo, ?_⟩
    rw [refreshed, hinfo]
    exact Bounds.admits_clamp (husable id info hinfo) _
  · next hout =>
    obtain ⟨info, hinfo, hadmits⟩ := h id record hget
    exact ⟨info, hinfo, hadmits hout⟩

/-- A record of the catalog put into a store can be out of range itself. -/
theorem Bounded.put (h : store.Bounded) {record : AttributeRecord} (hid : id ∈ ids)
    (hknown : ∃ info, store.registry.get? id = some info) :
    (store.put id record).BoundedExcept ids := by
  intro other found hget
  rw [registry_put]
  rw [get?_put] at hget
  split at hget
  · next heq =>
    obtain ⟨info, hinfo⟩ := hknown
    exact ⟨info, heq ▸ hinfo, fun hout => absurd (heq ▸ hid) hout⟩
  · exact h.except ids other found hget

theorem Bounded.edit (h : store.Bounded) (operation : Operation) :
    (store.edit operation).1.BoundedExcept (store.edit operation).2 := by
  have hknown : ∀ id record, store.get? id = some record →
      ∃ info, store.registry.get? id = some info := by
    intro id record hget
    obtain ⟨info, hinfo, -⟩ := h id record hget
    exact ⟨info, hinfo⟩
  cases operation with
  | create id base =>
    rw [AttributeStore.edit]
    split
    · exact h.except []
    · next hfree =>
      simp only [Bool.or_eq_true, Bool.not_eq_true', not_or, Bool.not_eq_false] at hfree
      exact h.put List.mem_cons_self (AttributeRegistry.contains_eq_true_iff.1 hfree.1)
  | setBase id value =>
    rw [AttributeStore.edit]
    split
    · exact h.except []
    · next record hget => exact h.put List.mem_cons_self (hknown id record hget)
  | recalculate id => exact h.except [id]
  | recalculateAll => exact h.except store.ids
  | addModifier id source modifier =>
    rw [AttributeStore.edit]
    split
    · exact h.except []
    · next record hget => exact h.put List.mem_cons_self (hknown id record hget)
  | removeModifier id source =>
    rw [AttributeStore.edit]
    split
    · exact h.except []
    · next record hget =>
      split
      · exact h.put List.mem_cons_self (hknown id record hget)
      · exact h.except []

theorem Bounded.perform (h : store.Bounded) (husable : store.registry.Usable)
    (operation : Operation) : (store.perform operation).Bounded := by
  have hedited : (store.edit operation).1.registry.Usable :=
    (registry_edit operation).symm ▸ husable
  rw [perform_eq]
  exact (h.edit operation).recalculateEach hedited

theorem Bounded.performAll (h : store.Bounded) (husable : store.registry.Usable)
    (operations : List Operation) : (store.performAll operations).Bounded := by
  induction operations generalizing store with
  | nil => exact h
  | cons operation rest ih =>
    exact ih (h.perform husable operation) ((registry_perform operation).symm ▸ husable)

theorem Initial.bounded {registry : AttributeRegistry} (h : Initial registry store)
    (haccepted : registry.Accepted) : store.Bounded := by
  rcases h with rfl | ⟨scopes, rfl⟩
  · intro id record hget
    cases hget
  · rw [forScope_eq]
    apply BoundedExcept.recalculateEach _ haccepted.usable
    intro id record hget
    obtain ⟨info, hinfo, -⟩ := (get?_defaults_eq_some_iff haccepted.coherent).1 hget
    have hknown := (AttributeRegistry.scoped?_eq_some_iff.1 hinfo).1
    exact ⟨info, hknown, fun hout => absurd (mem_ids_iff.2 ⟨record, hget⟩) hout⟩

/-- Nothing that is asked of a store with an accepted catalog meets a range without a nearest amount,
and after each operation every modified value is in its range or no number. -/
theorem inRange_throughout {registry : AttributeRegistry} (h : registry.Accepted) :
    (∀ scopes, forScope? registry scopes = some (forScope registry scopes)) ∧
    ∀ store, Initial registry store → ∀ operations,
      store.performAll? operations = some (store.performAll operations) ∧
      ∀ done, done <+: operations → ∀ id record, (store.performAll done).get? id = some record →
        ∃ info, registry.get? id = some info ∧
          ((info.bounds.min ≤ record.modified ∧ record.modified ≤ info.bounds.max) ∨
            record.modified.isNaN = true) := by
  refine ⟨forScope?_eq_some h.usable, ?_⟩
  intro store hinitial operations
  have husable : store.registry.Usable := hinitial.registry_eq ▸ h.usable
  refine ⟨performAll?_eq_some husable operations, ?_⟩
  intro done _ id record hget
  obtain ⟨info, hinfo, hadmits⟩ := (hinitial.bounded h).performAll husable done id record hget
  rw [registry_performAll, hinitial.registry_eq] at hinfo
  exact ⟨info, hinfo, hadmits⟩

/-- An infinite base is held at the highest amount, and the difference of two infinities is shown as
no number. -/
theorem inRange_throughout_of_infinite :
    ((forScope .sample .being).performAll? [.setBase .hp (1.0 / 0.0)]).bind (·.modified? .hp) =
      some Amount.highest ∧
    ((forScope .sample .being).performAll? [.setBase .hp (1.0 / 0.0),
      .addModifier .hp ⟨7⟩ (.flat (-1.0 / 0.0))]).bind (fun store =>
        (store.modified? .hp).map Float.isNaN) = some true := by
  obtain ⟨-, hruns⟩ := inRange_throughout AttributeRegistry.sample_accepted
  have hinitial : Initial .sample (forScope .sample .being) := .inr ⟨.being, rfl⟩
  rw [(hruns _ hinitial _).1, (hruns _ hinitial _).1]
  decide +kernel

end AttributeStore

end CharacterSim
