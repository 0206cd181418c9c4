import CharacterSim.Attribute.Registry

/-! What an accepted catalog offers the stores built on it: every definition stands under its own
id, and the dependents of an attribute are all that derives from it, in derivation order. -/

namespace CharacterSim

namespace AttributeRegistry

/-- Some list of definitions makes this catalog. -/
def Accepted (registry : AttributeRegistry) : Prop := ∃ infos, ofList infos = .ok registry

/-- The derivations of a catalog. -/
def graph (registry : AttributeRegistry) : DerivationGraph := .ofInfos registry.table.values

/-- Definitions stand under their own ids and refer to each other, all are in derivation order, and the
dependents of each are listed by that order. -/
structure Coherent (registry : AttributeRegistry) : Prop where
  indexed : registry.table.Indexed
  known : registry.table.unknownDependency? = none
  ordered : ∃ order, registry.graph.Saturated order ∧ (∀ id ∈ registry.graph.ids, id ∈ order) ∧
    ∀ id, registry.graph.ListsDependents order id (registry.dependents id)

/-- What is made of gathered definitions holds just these and is coherent. -/
theorem coherent_of_ofTable? {table : AttributeTable} {registry : AttributeRegistry}
    (hindexed : table.Indexed) (h : ofTable? table = some (.ok registry)) :
    registry.table = table ∧ registry.Coherent := by
  cases hknown : table.unknownDependency? with
  | some unknown => simp [ofTable?, hknown] at h
  | none =>
    obtain ⟨order, hsaturated, ⟨hfull, dependentsOf, hok, hlists⟩ | ⟨stuck, -, herror⟩⟩ :=
      exists_ofTable hindexed hknown
    · obtain rfl := Except.ok.inj (Option.some.inj (hok.symm.trans h))
      exact ⟨rfl, hindexed, hknown, order, hsaturated, hfull, hlists⟩
    · rw [herror] at h
      cases h

/-- Nothing goes wrong while a list of definitions is judged. -/
theorem some_ofList (infos : List AttributeInfo) : some (ofList infos) = build? infos :=
  Option.some_get (isSome_build? infos)

theorem ofList_eq_ok_iff {infos : List AttributeInfo} {registry : AttributeRegistry} :
    ofList infos = .ok registry ↔ ∃ table,
      infos.foldlM AttributeTable.define .empty = .ok table ∧
        ofTable? table = some (.ok registry) := by
  rw [← Option.some_inj, some_ofList, build?]
  cases infos.foldlM AttributeTable.define .empty <;> simp

theorem Accepted.coherent {registry : AttributeRegistry} (h : registry.Accepted) :
    registry.Coherent := by
  obtain ⟨infos, h⟩ := h
  obtain ⟨table, hfold, hbuilt⟩ := ofList_eq_ok_iff.1 h
  exact (coherent_of_ofTable? (AttributeTable.indexed_empty.foldlM_define hfold) hbuilt).2

variable {registry : AttributeRegistry} {id : AttributeId}

theorem contains_eq_true_iff : registry.contains id = true ↔ ∃ info, registry.get? id = some info :=
  SortedMap.contains_iff

theorem Coherent.mem_readers_iff (h : registry.Coherent) {source : AttributeId} :
    id ∈ registry.graph.readers source ↔
      ∃ info, registry.get? id = some info ∧ info.DerivesFrom source := by
  rw [graph, (h.indexed.describes_graph h.known).mem_readers]
  constructor
  · rintro ⟨info, hmem, rfl, hsource⟩
    exact ⟨info, h.indexed.mem_values_iff.1 hmem, hsource⟩
  · rintro ⟨info, hget, hsource⟩
    exact ⟨info, SortedMap.mem_values_iff.2 ⟨id, hget⟩, h.indexed id info hget, hsource⟩

/-- Whatever reads the base of `id` is among its dependents. -/
theorem Coherent.mem_dependents (h : registry.Coherent) {other : AttributeId}
    {info : AttributeInfo} (hget : registry.get? other = some info) (hsource : info.DerivesFrom id) :
    other ∈ registry.dependents id := by
  obtain ⟨order, -, -, hlists⟩ := h.ordered
  exact ((hlists id).mem_iff other).2 (.single (h.mem_readers_iff.2 ⟨info, hget, hsource⟩))

/-- One attribute derives from the base of another. -/
def Reads (registry : AttributeRegistry) (id source : AttributeId) : Prop :=
  ∃ info, registry.get? id = some info ∧ info.DerivesFrom source

theorem exists_info_of_derives {source : AttributeId}
    (h : Relation.TransGen registry.Reads id source) : ∃ info, registry.get? id = some info := by
  induction h with
  | single hreads =>
    obtain ⟨info, hinfo, -⟩ := hreads
    exact ⟨info, hinfo⟩
  | tail _ _ ih => exact ih

/-- The rules of a catalog are the edges of its graph. -/
theorem Coherent.derives_iff (h : registry.Coherent) {source : AttributeId} :
    registry.graph.Derives id source ↔ Relation.TransGen registry.Reads id source := by
  have hreads : (fun reader source => reader ∈ registry.graph.readers source) = registry.Reads := by
    funext reader source
    exact propext h.mem_readers_iff
  rw [DerivationGraph.Derives, hreads]

/-- The dependents of an attribute are what derives from it through one rule or more. -/
theorem Coherent.mem_dependents_iff (h : registry.Coherent) {other : AttributeId} :
    other ∈ registry.dependents id ↔ Relation.TransGen registry.Reads other id := by
  obtain ⟨order, -, -, hlists⟩ := h.ordered
  rw [(hlists id).mem_iff, h.derives_iff]

/-! ### A catalog -/

/-- Strength, from which full vitality derives, and vitality. -/
def sampleInfos : List AttributeInfo :=
  [{ id := ⟨1⟩, name := "strength", scopes := .character, modifiable := true, defaultBase := 5.0 },
    { id := .maxHp, name := "max_hp", scopes := .character, defaultBase := 90.0
      derivation := .linear [⟨⟨1⟩, 2.0⟩] },
    { id := .hp, name := "hp", scopes := .being, defaultBase := 100.0 }]

def sample : AttributeRegistry :=
  match ofList sampleInfos with
  | .ok registry => registry
  | .error _ => .empty

theorem ofList_sampleInfos : ofList sampleInfos = .ok sample := by
  have hok : (ofList sampleInfos).isOk = true := by decide +kernel
  rw [sample]
  cases hlist : ofList sampleInfos with
  | ok registry => rfl
  | error refusal =>
    rw [hlist] at hok
    cases hok

theorem sample_accepted : sample.Accepted := ⟨sampleInfos, ofList_sampleInfos⟩

end AttributeRegistry

end CharacterSim
