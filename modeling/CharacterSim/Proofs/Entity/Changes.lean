import CharacterSim.Proofs.Attribute.Dependents
import CharacterSim.Proofs.Attribute.Withdrawal
import CharacterSim.Proofs.Entity.Edit
import CharacterSim.Proofs.Numeric.Comparison

/-! What a being reports as changed. A request writes the records it reaches and no others, and reports
what it wrote. A recalculation reports nothing when it finds the same number; that it then leaves the
very same amount, and not the other zero, is because no value of the store was stale. -/

namespace CharacterSim

namespace AttributeStore

variable {store : AttributeStore} {id other : AttributeId}

theorem contains_eq_isSome_inputs? : store.contains id = (store.inputs? id).isSome :=
  Option.isSome_map.symm

/-- Nothing that is asked of carried attributes makes the entity lose or gain one. -/
theorem contains_perform (operation : Operation) (h : operation.Adjusts) :
    (store.perform operation).contains id = store.contains id := by
  rw [contains_eq_isSome_inputs?, inputs?_perform h, Option.isSome_map,
    ← contains_eq_isSome_inputs?]

/-! ### What is reported -/

theorem mem_setBase_iff (hcarried : store.contains id = true) (value : Float) :
    other ∈ (store.setBase id value).2 ↔
      store.contains other = true ∧ (other = id ∨ other ∈ store.registry.dependents id) := by
  obtain ⟨record, hget⟩ := contains_eq_true_iff.1 hcarried
  rw [setBase_of_some hget, List.mem_cons, List.mem_filter]
  constructor
  · rintro (rfl | ⟨hreads, hother⟩)
    · exact ⟨hcarried, .inl rfl⟩
    · exact ⟨hother, .inr hreads⟩
  · rintro ⟨hother, heq | hreads⟩
    · exact .inl heq
    · exact .inr ⟨hreads, hother⟩

theorem setBase_of_not_contains (h : store.contains id = false) (value : Float) :
    store.setBase id value = (store, []) :=
  setBase_of_none (Option.isSome_eq_false_iff.1 h |> Option.isNone_iff_eq_none.1) value

theorem contains_of_mem_setBase {value : Float} (h : other ∈ (store.setBase id value).2) :
    store.contains other = true := by
  cases hcarried : store.contains id with
  | true => exact ((mem_setBase_iff hcarried value).1 h).1
  | false =>
    rw [setBase_of_not_contains hcarried] at h
    cases h

theorem contains_of_recalculate (h : (store.recalculate id).2 = true) :
    store.contains id = true := by
  unfold recalculate at h
  split at h
  · next record _ hget => exact contains_eq_true_iff.2 ⟨_, hget⟩
  · cases h

theorem eq_of_mem_recalculate (h : other ∈ if (store.recalculate id).2 then [id] else []) :
    other = id ∧ store.contains other = true := by
  split at h
  · next hchanged =>
    obtain rfl := List.mem_singleton.1 h
    exact ⟨rfl, contains_of_recalculate hchanged⟩
  · cases h

theorem eq_of_mem_addModifier {source : ModifierSource} {modifier : Modifier}
    (h : other ∈ (store.addModifier id source modifier).2) :
    other = id ∧ store.contains other = true := by
  unfold addModifier at h
  split at h
  · cases h
  · next record hget =>
    obtain rfl := List.mem_singleton.1 h
    exact ⟨rfl, contains_eq_true_iff.2 ⟨record, hget⟩⟩

theorem eq_of_mem_removeModifier {source : ModifierSource}
    (h : other ∈ (store.removeModifier id source).2) :
    other = id ∧ store.contains other = true := by
  unfold removeModifier at h
  split at h
  · cases h
  · next record hget =>
    split at h
    · obtain rfl := List.mem_singleton.1 h
      exact ⟨rfl, contains_eq_true_iff.2 ⟨record, hget⟩⟩
    · cases h

/-- A value that is no number is always another one. -/
theorem recalculate_of_isNaN {record : AttributeRecord} {info : AttributeInfo}
    (hget : store.get? id = some record) (hinfo : store.registry.get? id = some info)
    (h : record.modified.isNaN = true) : (store.recalculate id).2 = true := by
  unfold recalculate
  rw [hinfo, hget]
  show (record.modified != store.freshValue info record) = true
  cases hbeq : record.modified == store.freshValue info record with
  | false => rw [bne, hbeq]; rfl
  | true =>
    obtain ⟨hnumber, -⟩ := Amount.isNaN_of_le (Amount.le_of_beq hbeq)
    rw [hnumber] at h
    cases h

end AttributeStore

/-- The listed attributes are what a new base of an attribute touches: the attribute and what the entity
carries of all that derives from it, each once, and each after those of them that it derives from. -/
structure AttributeRegistry.Touches (registry : AttributeRegistry) (store : AttributeStore)
    (id : AttributeId) (touched : List AttributeId) : Prop where
  mem_iff : ∀ other, other ∈ touched ↔ store.contains other = true ∧
    (other = id ∨ Relation.TransGen registry.Reads other id)
  nodup : touched.Nodup
  follows : ∀ first ∈ touched, ∀ second ∈ touched,
    Relation.TransGen registry.Reads second first → [first, second].Sublist touched

theorem AttributeRegistry.Coherent.touches_setBase {store : AttributeStore}
    (h : store.registry.Coherent) {id : AttributeId} (hcarried : store.contains id = true)
    (value : Float) : store.registry.Touches store id (store.setBase id value).2 := by
  obtain ⟨record, hget⟩ := AttributeStore.contains_eq_true_iff.1 hcarried
  have htouched : (store.setBase id value).2 =
      id :: (store.registry.dependents id).filter store.contains := by
    rw [AttributeStore.setBase_of_some hget]
  have hself : id ∉ (store.registry.dependents id).filter store.contains := by
    intro hmem
    exact h.acyclic id (h.mem_dependents_iff.1 (List.mem_filter.1 hmem).1)
  refine ⟨fun other => ?_, ?_, ?_⟩
  · rw [AttributeStore.mem_setBase_iff hcarried, h.mem_dependents_iff]
  · rw [htouched]
    exact List.nodup_cons.2 ⟨hself, (h.nodup_dependents id).filter _⟩
  · rw [htouched]
    intro first hfirst second hsecond hderives
    -- the attribute itself comes first: it derives from nothing that derives from it
    have hlater : second ∈ (store.registry.dependents id).filter store.contains := by
      rcases List.mem_cons.1 hsecond with rfl | hmem
      · rcases List.mem_cons.1 hfirst with rfl | hother
        · exact absurd hderives (h.acyclic _)
        · have hback := h.mem_dependents_iff.1 (List.mem_filter.1 hother).1
          exact absurd (hderives.trans hback) (h.acyclic _)
      · exact hmem
    rcases List.mem_cons.1 hfirst with rfl | hother
    · exact (List.singleton_sublist.2 hlater).cons_cons first
    · obtain ⟨hsecond, hkept⟩ := List.mem_filter.1 hlater
      obtain ⟨hfirst, hother⟩ := List.mem_filter.1 hother
      have hpair := (h.pair_sublist_dependents hfirst hsecond hderives).filter store.contains
      rw [List.filter_cons_of_pos hother, List.filter_cons_of_pos hkept, List.filter_nil] at hpair
      exact hpair.cons id

namespace Being

/-- What can be asked about the attributes of a being. -/
inductive Operation where
  | setAttribute (id : AttributeId) (value : Float)
  | recalculate (id : AttributeId)
  | addModifier (id : AttributeId) (source : ModifierSource) (modifier : Modifier)
  | removeModifier (id : AttributeId) (source : ModifierSource)
  /-- The owner takes note of the changes. -/
  | takeChanged

/-- The operation may rewrite the record of the attribute: it names the attribute, or sets a base from
which it derives. -/
def Operation.Reaches (registry : AttributeRegistry) : Operation → AttributeId → Prop
  | setAttribute id _, other => other = id ∨ Relation.TransGen registry.Reads other id
  | recalculate id, other => other = id
  | addModifier id _ _, other => other = id
  | removeModifier id _, other => other = id
  | takeChanged, _ => False

def perform (being : Being) : Operation → Being
  | .setAttribute id value => (being.setAttribute id value).1
  | .recalculate id => being.recalculate id
  | .addModifier id source modifier => being.addModifier id source modifier
  | .removeModifier id source => being.removeModifier id source
  | .takeChanged => being.clearChanged

def performAll (being : Being) (operations : List Operation) : Being :=
  operations.foldl perform being

variable {being before after : Being} {id other : AttributeId} {operation : Operation}
  {operations : List Operation} {registry : AttributeRegistry}

theorem edit_perform (h : operation ≠ .takeChanged) : being.Edit (being.perform operation) := by
  cases operation with
  | setAttribute id value => exact .setAttribute being id value
  | recalculate id => exact .recalculate being id
  | addModifier id source modifier => exact .addModifier being id source modifier
  | removeModifier id source => exact .removeModifier being id source
  | takeChanged => exact absurd rfl h

theorem edits_performAll (h : .takeChanged ∉ operations) :
    being.Edits (being.performAll operations) := by
  induction operations generalizing being with
  | nil => exact .refl
  | cons operation rest ih =>
    obtain ⟨hfirst, hrest⟩ := not_or.1 (mt List.mem_cons.2 h)
    exact (ih hrest).head (edit_perform (Ne.symm hfirst))

/-! ### What is changed is carried -/

theorem Edit.contains_eq (h : Edit before after) :
    after.attributes.contains id = before.attributes.contains id := by
  cases h with
  | setAttribute target value =>
    exact AttributeStore.contains_perform (.setBase target value) trivial
  | recalculate target =>
    exact AttributeStore.contains_perform (.recalculate target) trivial
  | addModifier target source modifier =>
    exact AttributeStore.contains_perform (.addModifier target source modifier) trivial
  | removeModifier target source =>
    exact AttributeStore.contains_perform (.removeModifier target source) trivial
  | rename name => rfl
  | transition lifecycle => rfl

theorem mem_changed_rewritten_iff {result : AttributeStore × List AttributeId} :
    id ∈ (being.rewritten result).changed ↔ id ∈ result.2 ∨ id ∈ being.changed :=
  SortedSet.mem_insertAll_iff

/-- What an edit reports is carried. -/
theorem Edit.contains_of_mem_changed (h : Edit before after) (hmem : id ∈ after.changed) :
    id ∈ before.changed ∨ before.attributes.contains id = true := by
  have hreported : ∀ result : AttributeStore × List AttributeId,
      (id ∈ result.2 → before.attributes.contains id = true) →
        id ∈ (before.rewritten result).changed →
          id ∈ before.changed ∨ before.attributes.contains id = true :=
    fun _ hcarried hchanged => (mem_changed_rewritten_iff.1 hchanged).symm.imp_right hcarried
  cases h with
  | rename name => exact .inl hmem
  | transition lifecycle => exact .inl hmem
  | setAttribute target value =>
    exact hreported _ AttributeStore.contains_of_mem_setBase hmem
  | recalculate target =>
    exact hreported _ (fun hlisted => (AttributeStore.eq_of_mem_recalculate hlisted).2) hmem
  | addModifier target source modifier =>
    exact hreported _ (fun hlisted => (AttributeStore.eq_of_mem_addModifier hlisted).2) hmem
  | removeModifier target source =>
    exact hreported _ (fun hlisted => (AttributeStore.eq_of_mem_removeModifier hlisted).2) hmem

/-- A being whose attributes are of the catalog, none of them stale, and whose changes are of attributes
it carries. -/
structure Tracked (registry : AttributeRegistry) (being : Being) : Prop where
  registry_eq : being.attributes.registry = registry
  fresh : being.attributes.Fresh
  carried : ∀ id ∈ being.changed, being.attributes.contains id = true

theorem Tracked.edit (h : before.Tracked registry) (hcoherent : registry.Coherent)
    (hedit : Edit before after) : after.Tracked registry where
  registry_eq := hedit.registry_eq.trans h.registry_eq
  fresh := hedit.fresh (h.registry_eq ▸ hcoherent) h.fresh
  carried id hmem := by
    rw [hedit.contains_eq]
    exact (hedit.contains_of_mem_changed hmem).elim (h.carried id) fun hcarried => hcarried

theorem Tracked.perform (h : being.Tracked registry) (hcoherent : registry.Coherent)
    (operation : Operation) : (being.perform operation).Tracked registry := by
  by_cases htaken : operation = .takeChanged
  · subst htaken
    exact ⟨h.registry_eq, h.fresh, fun id hmem => absurd hmem not_mem_changed_clearChanged⟩
  · exact h.edit hcoherent (edit_perform htaken)

theorem Tracked.performAll (h : being.Tracked registry) (hcoherent : registry.Coherent)
    (operations : List Operation) : (being.performAll operations).Tracked registry := by
  induction operations generalizing being with
  | nil => exact h
  | cons operation rest ih => exact ih (h.perform hcoherent operation)

theorem tracked_ofStore (h : registry.Coherent) (name : String) (scopes : ScopeSet) :
    (ofStore name (.forScope registry scopes)).Tracked registry where
  registry_eq := AttributeStore.registry_recalculateEach _
  fresh := AttributeStore.fresh_forScope h scopes
  carried id hmem := absurd hmem (SortedSet.not_mem_empty id)

/-! ### What an operation leaves alone -/

/-- What an operation does not reach is neither rewritten nor reported. -/
theorem Tracked.frame (h : being.Tracked registry) (hcoherent : registry.Coherent)
    (hout : ¬ operation.Reaches registry id) :
    (being.perform operation).attributes.get? id = being.attributes.get? id ∧
      (id ∈ (being.perform operation).changed → id ∈ being.changed) := by
  have hsilent : ∀ result : AttributeStore × List AttributeId, id ∉ result.2 →
      id ∈ (being.rewritten result).changed → id ∈ being.changed :=
    fun _ hunreported hmem => (mem_changed_rewritten_iff.1 hmem).resolve_left hunreported
  cases operation with
  | setAttribute target value =>
    have hunreported : id ∉ (being.attributes.setBase target value).2 := by
      intro hmem
      cases hcarried : being.attributes.contains target with
      | true =>
        have hstore : being.attributes.registry.Coherent := h.registry_eq.symm ▸ hcoherent
        have hreached := (((hstore.touches_setBase hcarried value).mem_iff id).1 hmem).2
        rw [h.registry_eq] at hreached
        exact hout hreached
      | false =>
        rw [AttributeStore.setBase_of_not_contains hcarried] at hmem
        cases hmem
    exact ⟨AttributeStore.get?_setBase_of_not_mem hunreported, hsilent _ hunreported⟩
  | recalculate target =>
    exact ⟨AttributeStore.get?_recalculate.trans (if_neg hout),
      hsilent _ fun hmem => hout (AttributeStore.eq_of_mem_recalculate hmem).1⟩
  | addModifier target source modifier =>
    have hunreported : id ∉ (being.attributes.addModifier target source modifier).2 :=
      fun hmem => hout (AttributeStore.eq_of_mem_addModifier hmem).1
    exact ⟨AttributeStore.get?_addModifier_of_not_mem hunreported, hsilent _ hunreported⟩
  | removeModifier target source =>
    have hunreported : id ∉ (being.attributes.removeModifier target source).2 :=
      fun hmem => hout (AttributeStore.eq_of_mem_removeModifier hmem).1
    exact ⟨AttributeStore.get?_removeModifier_of_not_mem hunreported, hsilent _ hunreported⟩
  | takeChanged => exact ⟨rfl, fun hmem => absurd hmem not_mem_changed_clearChanged⟩

/-- Setting a base is refused exactly for an attribute that is not carried, and then changes nothing. -/
theorem setAttribute_of_not_contains (h : being.attributes.contains id = false) (value : Float) :
    being.setAttribute id value = (being, false) := by
  rw [setAttribute, AttributeStore.setBase_of_not_contains h]
  rfl

theorem setAttribute_of_contains (h : being.attributes.contains id = true) (value : Float) :
    (being.setAttribute id value).2 = true := by
  obtain ⟨record, hget⟩ := AttributeStore.contains_eq_true_iff.1 h
  rw [setAttribute, AttributeStore.setBase_of_some hget]
  rfl

theorem setAttribute_eq_false_iff (value : Float) :
    (being.setAttribute id value).2 = false ↔ being.attributes.contains id = false := by
  cases hcarried : being.attributes.contains id with
  | true => simp [setAttribute_of_contains hcarried]
  | false => simp [setAttribute_of_not_contains hcarried]

/-! ### Runs -/

/-- What differs from what it was is among the changes, if no note was taken of these in between. -/
theorem Tracked.mem_changed_of_ne (h : before.Tracked registry) (hcoherent : registry.Coherent)
    (huntaken : .takeChanged ∉ operations)
    (hne : (before.performAll operations).attributes.get? id ≠ before.attributes.get? id) :
    id ∈ (before.performAll operations).changed := by
  by_contra hmem
  have hstore : before.attributes.registry.Coherent := h.registry_eq.symm ▸ hcoherent
  exact hne (Edits.get?_eq (edits_performAll huntaken) hstore h.fresh hmem)

/-- A recalculation that meets an amount that is no number reports it. -/
theorem Tracked.mem_changed_of_isNaN (h : being.Tracked registry) {record : AttributeRecord}
    (hget : being.attributes.get? id = some record) (hnumber : record.modified.isNaN = true) :
    id ∈ (being.recalculate id).changed := by
  obtain ⟨info, hinfo, -⟩ := h.fresh id record hget
  have hchanged := AttributeStore.recalculate_of_isNaN hget hinfo hnumber
  refine mem_changed_rewritten_iff.2 (.inl ?_)
  rw [if_pos hchanged]
  exact List.mem_singleton_self id

/-- After any run, the changes hold every attribute whose record differs from what it was at a moment
since which no note was taken of them, such as the last one when it was, and only attributes that are
carried. An operation rewrites and reports nothing that it does not reach. Setting a base is refused
exactly for an attribute that is not carried, without any change; otherwise just what it touches is
rewritten and reported. A recalculation that meets no number is reported each time, since bits may
tell apart what is one amount here. -/
theorem changes_cover_rewrites (h : registry.Accepted) (name : String) (scopes : ScopeSet)
    (operations : List Operation) :
    let start := ofStore name (.forScope registry scopes)
    let being := start.performAll operations
    (∀ earlier since, earlier ++ since = operations → .takeChanged ∉ since → ∀ id,
        being.attributes.get? id ≠ (start.performAll earlier).attributes.get? id →
          id ∈ being.changed) ∧
      (∀ id ∈ being.changed, being.attributes.contains id = true) ∧
      (∀ operation id, ¬ operation.Reaches registry id →
        (being.perform operation).attributes.get? id = being.attributes.get? id ∧
          (id ∈ (being.perform operation).changed → id ∈ being.changed)) ∧
      (∀ id record, being.attributes.get? id = some record → record.modified.isNaN = true →
        id ∈ (being.recalculate id).changed) ∧
      ∀ id value,
        ((being.setAttribute id value).2 = false ↔ being.attributes.contains id = false) ∧
        (being.attributes.contains id = false → (being.setAttribute id value).1 = being) ∧
        (being.attributes.contains id = true →
          let touched := (being.attributes.setBase id value).2
          registry.Touches being.attributes id touched ∧
            ∀ other, (other ∉ touched → (being.setAttribute id value).1.attributes.get? other =
                being.attributes.get? other) ∧
              (other ∈ (being.setAttribute id value).1.changed ↔
                other ∈ touched ∨ other ∈ being.changed)) := by
  intro start being
  have hcoherent := h.coherent
  have hstart : start.Tracked registry := tracked_ofStore hcoherent name scopes
  have hbeing : being.Tracked registry := hstart.performAll hcoherent operations
  refine ⟨?_, hbeing.carried, fun operation id hout => hbeing.frame hcoherent hout,
    fun id record hget hnumber => hbeing.mem_changed_of_isNaN hget hnumber,
    fun id value => ⟨?_, ?_, ?_⟩⟩
  · rintro earlier since rfl huntaken id hne
    have hlast : being = (start.performAll earlier).performAll since := List.foldl_append
    rw [hlast] at hne ⊢
    exact (hstart.performAll hcoherent earlier).mem_changed_of_ne hcoherent huntaken hne
  · exact setAttribute_eq_false_iff value
  · intro hforeign
    rw [setAttribute_of_not_contains hforeign]
  · intro hcarried touched
    have hstore : being.attributes.registry.Coherent := hbeing.registry_eq.symm ▸ hcoherent
    have htouches := hstore.touches_setBase hcarried value
    rw [hbeing.registry_eq] at htouches
    exact ⟨htouches, fun other => ⟨AttributeStore.get?_setBase_of_not_mem,
      mem_changed_rewritten_iff⟩⟩

/-- Strength is raised, note is taken, and strength is raised again: full vitality, which derives from
it, is among the changes, and vitality is not. An attribute that the catalog does not know is not
set. -/
theorem changes_cover_rewrites_of_sample :
    let start := ofStore "" (.forScope .sample .character)
    let being := start.performAll [.setAttribute ⟨1⟩ 6.0, .takeChanged, .setAttribute ⟨1⟩ 7.0]
    being.modified? .maxHp = some 104.0 ∧ .maxHp ∈ being.changed ∧
      being.changed.contains .hp = false ∧ (being.setAttribute ⟨99⟩ 1.0).2 = false := by
  intro start being
  obtain ⟨hcovered, -, -, -, hset⟩ := changes_cover_rewrites AttributeRegistry.sample_accepted ""
    .character [.setAttribute ⟨1⟩ 6.0, .takeChanged, .setAttribute ⟨1⟩ 7.0]
  refine ⟨by decide +kernel, ?_, by decide +kernel, (hset ⟨99⟩ 1.0).1.2 (by decide +kernel)⟩
  refine hcovered [.setAttribute ⟨1⟩ 6.0, .takeChanged] [.setAttribute ⟨1⟩ 7.0] rfl (by simp)
    .maxHp fun hsame => ?_
  have hraised : being.modified? .maxHp ≠
      (start.performAll [.setAttribute ⟨1⟩ 6.0, .takeChanged]).modified? .maxHp := by
    decide +kernel
  exact hraised (congrArg (Option.map AttributeRecord.modified) hsame)

end Being

end CharacterSim
