import CharacterSim.Proofs.Attribute.Scope

/-! Whether a store ever shows a modified value that its bases no longer call for. Every operation
recalculates what it affects, with one exception: an attribute that joins a store is recalculated
itself, but the attributes already there that derive from it are not. -/

namespace CharacterSim.AttributeStore

variable {store grown : AttributeStore} {id other : AttributeId}

/-- The record of the attribute, if there is one, holds the modified value that the current bases and
its modifiers call for. -/
def FreshAt (store : AttributeStore) (id : AttributeId) : Prop :=
  ∀ record, store.get? id = some record → ∃ info, store.registry.get? id = some info ∧
    record.modified = store.freshValue info record

/-- Every record is of an attribute of the catalog and holds the modified value that the current bases
and its modifiers call for. -/
def Fresh (store : AttributeStore) : Prop :=
  ∀ id record, store.get? id = some record → ∃ info, store.registry.get? id = some info ∧
    record.modified =
      info.bounds.clamp (record.modifiers.apply (store.derived info.derivation record.base))

/-- `Fresh`, but for the listed attributes. -/
def FreshExcept (store : AttributeStore) (ids : List AttributeId) : Prop :=
  ∀ id record, store.get? id = some record → ∃ info, store.registry.get? id = some info ∧
    (id ∉ ids → record.modified = store.freshValue info record)

theorem Fresh.eq_freshValue (h : store.Fresh) {record : AttributeRecord} {info : AttributeInfo}
    (hget : store.get? id = some record) (hinfo : store.registry.get? id = some info) :
    record.modified = store.freshValue info record := by
  obtain ⟨known, hknown, hmodified⟩ := h id record hget
  obtain rfl := Option.some.inj (hknown.symm.trans hinfo)
  exact hmodified

/-- What is fresh, or known and about to be recalculated, is fresh after a recalculation. -/
theorem freshAt_recalculateEach {ids : List AttributeId}
    (h : ∀ record, store.get? id = some record → ∃ info, store.registry.get? id = some info ∧
      (id ∉ ids → record.modified = store.freshValue info record)) :
    (store.recalculateEach ids).FreshAt id := by
  intro record hget
  have hvalue : ∀ info, (store.recalculateEach ids).freshValue info record =
      store.freshValue info record :=
    fun info => freshValue_congr fun source _ => base?_recalculateEach ids
  rw [registry_recalculateEach]
  rw [get?_recalculateEach] at hget
  split at hget
  · obtain ⟨before, hbefore, rfl⟩ := Option.map_eq_some_iff.1 hget
    obtain ⟨info, hinfo, -⟩ := h before hbefore
    refine ⟨info, hinfo, ?_⟩
    rw [hvalue, refreshed, hinfo]
    rfl
  · next hmem =>
    obtain ⟨info, hinfo, hmodified⟩ := h record hget
    exact ⟨info, hinfo, (hmodified hmem).trans (hvalue info).symm⟩

/-- Recalculating the attributes that may be stale makes all of them fresh. -/
theorem FreshExcept.fresh_recalculateEach {ids : List AttributeId} (h : store.FreshExcept ids) :
    (store.recalculateEach ids).Fresh :=
  fun id => freshAt_recalculateEach (h id)

/-- A record put into a fresh store leaves stale at most itself and those whose value it affects. -/
theorem Fresh.put (h : store.Fresh) {ids : List AttributeId} {record : AttributeRecord}
    (hid : id ∈ ids) (hknown : ∃ info, store.registry.get? id = some info)
    (hothers : ∀ other carried info, store.get? other = some carried →
      store.registry.get? other = some info → other ∉ ids →
      (store.put id record).freshValue info carried = store.freshValue info carried) :
    (store.put id record).FreshExcept ids := by
  intro other found hget
  rw [registry_put]
  rw [get?_put] at hget
  split at hget
  · next heq =>
    obtain ⟨info, hinfo⟩ := hknown
    exact ⟨info, heq ▸ hinfo, fun hmem => absurd (heq ▸ hid) hmem⟩
  · obtain ⟨info, hinfo, hmodified⟩ := h other found hget
    refine ⟨info, hinfo, fun hmem => ?_⟩
    rw [hothers other found info hget hinfo hmem]
    exact hmodified

/-- Recalculation finds nothing to do in a fresh store. -/
theorem Fresh.recalculate_eq_self (h : store.Fresh) (id : AttributeId) :
    (store.recalculate id).1 = store := by
  refine ext_get? registry_recalculate fun other => ?_
  rw [get?_recalculate]
  split
  · next heq =>
    subst heq
    cases hget : store.get? other with
    | none => rfl
    | some record =>
      obtain ⟨info, hinfo, -⟩ := h other record hget
      simp only [Option.map_some, refreshed, hinfo, ← h.eq_freshValue hget hinfo]
  · rfl

/-! ### Operations on attributes that are carried already -/

/-- A new base makes the attribute and its dependents fresh. -/
theorem freshAt_setBase (hcarried : store.contains id)
    (hknown : ∃ info, store.registry.get? other = some info)
    (h : other = id ∨ other ∈ store.registry.dependents id) (value : Float) :
    (store.setBase id value).1.FreshAt other := by
  obtain ⟨record, hget⟩ := contains_eq_true_iff.1 hcarried
  obtain ⟨info, hinfo⟩ := hknown
  rw [setBase_of_some hget]
  apply freshAt_recalculateEach
  intro found hfound
  refine ⟨info, hinfo, fun hout => absurd ?_ hout⟩
  by_cases heq : other = id
  · exact heq ▸ List.mem_cons_self
  · rw [get?_put_of_ne heq] at hfound
    exact List.mem_cons_of_mem _ (List.mem_filter.2
      ⟨h.resolve_left heq, contains_eq_true_iff.2 ⟨found, hfound⟩⟩)

/-- A new base leaves nothing stale that was fresh. -/
theorem FreshAt.setBase (h : store.FreshAt other) (hcoherent : store.registry.Coherent)
    (value : Float) : (store.setBase id value).1.FreshAt other := by
  cases hget : store.get? id with
  | none => rwa [setBase_of_none hget]
  | some record =>
    rw [setBase_of_some hget]
    apply freshAt_recalculateEach
    intro carried hcarried
    rw [registry_put]
    rw [get?_put] at hcarried
    split at hcarried
    · next heq =>
      obtain ⟨info, hinfo, -⟩ := h record (heq ▸ hget)
      exact ⟨info, hinfo, fun hout => absurd (heq ▸ List.mem_cons_self) hout⟩
    · obtain ⟨info, hinfo, hmodified⟩ := h carried hcarried
      refine ⟨info, hinfo, fun hout => ?_⟩
      -- what reads the new base is among the dependents, and those are in the list
      have hunread : ¬ info.DerivesFrom id := fun hsource => hout (List.mem_cons_of_mem _
        (List.mem_filter.2 ⟨hcoherent.mem_dependents hinfo hsource,
          contains_eq_true_iff.2 ⟨carried, hcarried⟩⟩))
      rw [hmodified]
      refine freshValue_congr fun source hsource => (base?_put_of_ne ?_ _).symm
      rintro rfl
      exact hunread hsource

theorem Fresh.setBase (h : store.Fresh) (hcoherent : store.registry.Coherent) (value : Float) :
    (store.setBase id value).1.Fresh :=
  fun other => FreshAt.setBase (h other) hcoherent value

theorem Fresh.setModifiers (h : store.Fresh) {record : AttributeRecord}
    (hget : store.get? id = some record) (modifiers : ModifierStack) :
    (store.setModifiers id record modifiers).Fresh := by
  rw [setModifiers_eq]
  apply FreshExcept.fresh_recalculateEach
  apply h.put (List.mem_singleton_self id)
  · obtain ⟨info, hinfo, -⟩ := h id record hget
    exact ⟨info, hinfo⟩
  · intro other carried info hother hinfo hmem
    refine freshValue_congr fun source _ => ?_
    rw [base?, base?, get?_put]
    split
    · next heq => rw [heq, hget]; rfl
    · rfl

theorem Fresh.addModifier (h : store.Fresh) (source : ModifierSource) (modifier : Modifier) :
    (store.addModifier id source modifier).1.Fresh := by
  unfold AttributeStore.addModifier
  split
  · exact h
  · next record hget => exact h.setModifiers hget _

theorem Fresh.removeModifier (h : store.Fresh) (source : ModifierSource) :
    (store.removeModifier id source).1.Fresh := by
  unfold AttributeStore.removeModifier
  split
  · exact h
  · next record hget =>
    split
    · exact h.setModifiers hget _
    · exact h

theorem Fresh.recalculateEach_eq_self (h : store.Fresh) (ids : List AttributeId) :
    store.recalculateEach ids = store := by
  induction ids with
  | nil => rfl
  | cons id ids ih => rw [recalculateEach_cons, h.recalculate_eq_self, ih]

/-! ### New attributes -/

/-- The attribute can join the store, and the value of a carried attribute that derives from it is
then another one. -/
def Disturbs (store : AttributeStore) (id : AttributeId) (base : Float) : Prop :=
  ∃ grown, store.create? id base = some grown ∧
    ∃ other record info, store.get? other = some record ∧
      store.registry.get? other = some info ∧ info.DerivesFrom id ∧
      grown.freshValue info record ≠ store.freshValue info record

theorem create?_eq_some {base : Float} (h : store.create? id base = some grown) :
    (∃ info, store.registry.get? id = some info) ∧ store.get? id = none ∧
      grown = (store.put id { base }).recalculateEach [id] := by
  unfold create? at h
  split at h
  · cases h
  · next hfree =>
    simp only [Bool.or_eq_true, Bool.not_eq_true', not_or, Bool.not_eq_false] at hfree
    refine ⟨AttributeRegistry.contains_eq_true_iff.1 hfree.1, ?_, (Option.some.inj h).symm⟩
    cases hget : store.get? id with
    | none => rfl
    | some record => exact absurd (contains_eq_true_iff.2 ⟨record, hget⟩) hfree.2

/-- A fresh store stays fresh exactly when the new attribute disturbs none of those there. -/
theorem Fresh.create_iff (h : store.Fresh) {base : Float}
    (hcreate : store.create? id base = some grown) :
    grown.Fresh ↔ ¬ store.Disturbs id base := by
  obtain ⟨hknown, hvacant, hgrown⟩ := create?_eq_some hcreate
  have hbase : ∀ source, grown.base? source = (store.put id { base }).base? source := by
    intro source
    rw [hgrown, base?_recalculateEach]
  constructor
  · rintro hfresh ⟨grown', hgrown', other, record, info, hget, hinfo, -, hvalue⟩
    rw [Option.some.inj (hgrown'.symm.trans hcreate)] at hvalue
    have hne : other ≠ id := by
      rintro rfl
      rw [hvacant] at hget
      cases hget
    have hsame : grown.get? other = some record := by
      rw [hgrown, get?_recalculateEach, if_neg (by simpa using hne), get?_put_of_ne hne, hget]
    have hsameInfo : grown.registry.get? other = some info := by
      rw [hgrown, registry_recalculateEach, registry_put, hinfo]
    exact hvalue ((hfresh.eq_freshValue hsame hsameInfo).symm.trans (h.eq_freshValue hget hinfo))
  · intro hquiet
    rw [hgrown]
    apply FreshExcept.fresh_recalculateEach
    apply h.put (List.mem_singleton_self id) hknown
    intro other carried info hother hinfo hmem
    rw [← freshValue_congr fun source _ => hbase source]
    by_cases hsource : info.DerivesFrom id
    · exact Decidable.byContradiction fun hvalue =>
        hquiet ⟨grown, hcreate, other, carried, info, hother, hinfo, hsource, hvalue⟩
    · refine freshValue_congr fun source hread => ?_
      rw [hbase, base?_put_of_ne]
      rintro rfl
      exact hsource hread

/-! ### Fresh stores to begin with -/

theorem fresh_empty (registry : AttributeRegistry) : (empty registry).Fresh :=
  fun _ _ h => by cases h

/-- A store with every attribute of some kinds of entity. -/
theorem fresh_forScope {registry : AttributeRegistry} (h : registry.Coherent) (scopes : ScopeSet) :
    (forScope registry scopes).Fresh := by
  rw [forScope_eq]
  apply FreshExcept.fresh_recalculateEach
  intro id record hget
  obtain ⟨info, hinfo, -⟩ := (get?_defaults_eq_some_iff h).1 hget
  have hknown := (AttributeRegistry.scoped?_eq_some_iff.1 hinfo).1
  exact ⟨info, hknown, fun hmem => absurd (mem_ids_iff.2 ⟨record, hget⟩) hmem⟩

/-! ### Runs of a store -/

/-- What can be asked of a store. -/
inductive Operation where
  | create (id : AttributeId) (base : Float)
  | setBase (id : AttributeId) (value : Float)
  | recalculate (id : AttributeId)
  | recalculateAll
  | addModifier (id : AttributeId) (source : ModifierSource) (modifier : Modifier)
  | removeModifier (id : AttributeId) (source : ModifierSource)

/-- The store after an operation; one that is refused changes nothing. -/
def perform (store : AttributeStore) : Operation → AttributeStore
  | .create id base => (store.create? id base).getD store
  | .setBase id value => (store.setBase id value).1
  | .recalculate id => (store.recalculate id).1
  | .recalculateAll => store.recalculateAll
  | .addModifier id source modifier => (store.addModifier id source modifier).1
  | .removeModifier id source => (store.removeModifier id source).1

def performAll (store : AttributeStore) (operations : List Operation) : AttributeStore :=
  operations.foldl perform store

/-- The stores from which runs begin. -/
def Initial (registry : AttributeRegistry) (store : AttributeStore) : Prop :=
  store = empty registry ∨ ∃ scopes, store = forScope registry scopes

theorem Initial.registry_eq {registry : AttributeRegistry} (h : Initial registry store) :
    store.registry = registry := by
  rcases h with rfl | ⟨scopes, rfl⟩
  · rfl
  · exact registry_recalculateEach _

theorem Initial.fresh {registry : AttributeRegistry} (h : Initial registry store)
    (hcoherent : registry.Coherent) : store.Fresh := by
  rcases h with rfl | ⟨scopes, rfl⟩
  · exact fresh_empty registry
  · exact fresh_forScope hcoherent scopes

theorem registry_perform (operation : Operation) :
    (store.perform operation).registry = store.registry := by
  cases operation with
  | create id base =>
    rw [perform]
    cases hcreate : store.create? id base with
    | none => rfl
    | some grown =>
      obtain ⟨-, -, hgrown⟩ := create?_eq_some hcreate
      rw [Option.getD_some, hgrown, registry_recalculateEach, registry_put]
  | setBase id value => exact registry_setBase value
  | recalculate id => exact registry_recalculate
  | recalculateAll => exact registry_recalculateEach _
  | addModifier id source modifier => exact registry_addModifier
  | removeModifier id source => exact registry_removeModifier

@[simp] theorem registry_performAll (operations : List Operation) :
    (store.performAll operations).registry = store.registry := by
  induction operations generalizing store with
  | nil => rfl
  | cons operation rest ih => exact ih.trans (registry_perform operation)

/-- The one operation that can leave a stale value behind is the creation of an attribute that others
derive from. -/
theorem Fresh.perform_iff (h : store.Fresh) (hcoherent : store.registry.Coherent)
    (operation : Operation) : (store.perform operation).Fresh ↔
      ∀ id base, operation = .create id base → ¬ store.Disturbs id base := by
  cases operation with
  | create id base =>
    have hcreate : (store.perform (.create id base)).Fresh ↔ ¬ store.Disturbs id base := by
      rw [perform]
      cases hcreate : store.create? id base with
      | none =>
        refine iff_of_true h ?_
        rintro ⟨grown, hgrown, -⟩
        rw [hcreate] at hgrown
        cases hgrown
      | some grown => exact h.create_iff hcreate
    refine hcreate.trans ⟨?_, fun hquiet => hquiet id base rfl⟩
    rintro hquiet id base ⟨⟩
    exact hquiet
  | setBase id value => exact iff_of_true (h.setBase hcoherent value) (by simp)
  | recalculate id => exact iff_of_true (by rwa [perform, h.recalculate_eq_self]) (by simp)
  | recalculateAll =>
    exact iff_of_true (by rwa [perform, recalculateAll, h.recalculateEach_eq_self]) (by simp)
  | addModifier id source modifier => exact iff_of_true (h.addModifier source modifier) (by simp)
  | removeModifier id source => exact iff_of_true (h.removeModifier source) (by simp)

theorem Fresh.performAll_iff (h : store.Fresh) (hcoherent : store.registry.Coherent)
    (operations : List Operation) : (∀ done, done <+: operations → (store.performAll done).Fresh) ↔
      ∀ earlier id base, earlier ++ [.create id base] <+: operations →
        ¬ (store.performAll earlier).Disturbs id base := by
  induction operations generalizing store with
  | nil =>
    refine iff_of_true (fun done hdone => ?_) fun earlier id base hearlier => ?_
    · rwa [List.prefix_nil.1 hdone]
    · exact absurd (List.prefix_nil.1 hearlier) (by simp)
  | cons operation rest ih =>
    have hstep := h.perform_iff hcoherent operation
    have hnext : (store.perform operation).registry.Coherent :=
      (registry_perform operation).symm ▸ hcoherent
    constructor
    · intro hfresh earlier id base hearlier
      have hperformed : (store.perform operation).Fresh := hfresh [operation] (by simp)
      cases earlier with
      | nil =>
        obtain ⟨hoperation, -⟩ := List.cons_prefix_cons.1 hearlier
        exact hstep.1 hperformed id base hoperation.symm
      | cons first earlier =>
        obtain ⟨rfl, hafter⟩ := List.cons_prefix_cons.1 hearlier
        exact (ih hperformed hnext).1
          (fun done hdone => hfresh (first :: done) (List.cons_prefix_cons.2 ⟨rfl, hdone⟩))
          earlier id base hafter
    · intro hquiet done hdone
      cases done with
      | nil => exact h
      | cons first done =>
        obtain ⟨rfl, hafter⟩ := List.cons_prefix_cons.1 hdone
        have hperformed : (store.perform first).Fresh := by
          refine hstep.2 fun id base hoperation => hquiet [] id base ?_
          simp [hoperation]
        refine (ih hperformed hnext).2 (fun earlier id base hearlier => ?_) done hafter
        exact hquiet (first :: earlier) id base (List.cons_prefix_cons.2 ⟨rfl, hearlier⟩)

/-- No modified value is ever stale in a run, and no recalculation finds anything to do, exactly when
no attribute that joins the store disturbs one that is there. -/
theorem fresh_throughout_iff {registry : AttributeRegistry} (h : registry.Accepted)
    (hinitial : Initial registry store) (operations : List Operation) :
    (∀ done, done <+: operations → (store.performAll done).Fresh ∧
      ∀ id, ((store.performAll done).recalculate id).1 = store.performAll done) ↔
    ∀ earlier id base, earlier ++ [.create id base] <+: operations →
      ¬ (store.performAll earlier).Disturbs id base := by
  have hcoherent : store.registry.Coherent := hinitial.registry_eq ▸ h.coherent
  rw [← (hinitial.fresh h.coherent).performAll_iff hcoherent]
  constructor
  · exact fun hall done hdone => (hall done hdone).1
  · exact fun hfresh done hdone => ⟨hfresh done hdone, (hfresh done hdone).recalculate_eq_self⟩

/-- Strength joins before full vitality, which derives from it and follows. -/
theorem fresh_of_early_source :
    ((empty .sample).performAll
      [.create ⟨1⟩ 5.0, .create .maxHp 0.0, .setBase ⟨1⟩ 6.0]).Fresh ∧
    ((empty .sample).performAll
      [.create ⟨1⟩ 5.0, .create .maxHp 0.0, .setBase ⟨1⟩ 6.0]).modified? .maxHp = some 12.0 := by
  refine ⟨((fresh_throughout_iff AttributeRegistry.sample_accepted (.inl rfl) _).2 ?_
    _ (List.prefix_refl _)).1, by decide +kernel⟩
  rintro earlier id base hearlier ⟨grown, -, other, record, info, hget, hinfo, hsource, -⟩
  match earlier, hearlier with
  | [], _ => cases hget
  | [first], hearlier =>
    obtain ⟨rfl, hsecond⟩ := List.cons_prefix_cons.1 hearlier
    obtain ⟨⟨rfl, rfl⟩, -⟩ := by simpa using hsecond
    have hids : ((empty .sample).performAll [.create ⟨1⟩ 5.0]).ids = [⟨1⟩] := by decide +kernel
    obtain rfl := List.mem_singleton.1 (hids ▸ mem_ids_iff.2 ⟨record, hget⟩)
    have hsources : (AttributeRegistry.sample.get? ⟨1⟩).map (·.sources) = some [] := by
      decide +kernel
    rw [registry_performAll, empty] at hinfo
    rw [hinfo, Option.map_some, Option.some.injEq] at hsources
    rw [← AttributeInfo.mem_sources_iff, hsources] at hsource
    cases hsource
  | first :: second :: rest, hearlier =>
    cases rest with
    | nil => simp at hearlier
    | cons third rest => simp at hearlier

/-- Full vitality joins before strength, and does not follow until it is recalculated. -/
theorem not_fresh_of_late_source :
    ¬ ((empty .sample).performAll [.create .maxHp 0.0, .create ⟨1⟩ 5.0]).Fresh ∧
    ((empty .sample).performAll [.create .maxHp 0.0, .create ⟨1⟩ 5.0]).modified? .maxHp =
      some 0.0 ∧
    ((empty .sample).performAll [.create .maxHp 0.0, .create ⟨1⟩ 5.0, .recalculate .maxHp]).modified?
      .maxHp = some 10.0 := by
  have hstale : (((empty .sample).performAll [.create .maxHp 0.0, .create ⟨1⟩ 5.0]).recalculate
      .maxHp).1.modified? .maxHp ≠ ((empty .sample).performAll
        [.create .maxHp 0.0, .create ⟨1⟩ 5.0]).modified? .maxHp := by
    decide +kernel
  refine ⟨fun hfresh => hstale ?_, by decide +kernel, by decide +kernel⟩
  rw [hfresh.recalculate_eq_self]

end CharacterSim.AttributeStore
