import CharacterSim.Proofs.Attribute.Catalog
import Mathlib.Data.Fintype.EquivFin
import Mathlib.Order.WellFounded

/-! Which definitions make a catalog. Whatever the list, it is judged without a failing count or
look-up; it is accepted exactly when it is well formed, and the order in which its definitions stand
makes no difference. -/

namespace CharacterSim

/-! ### Derivation without cycles -/

namespace DerivationGraph

variable {graph : DerivationGraph} {order : List AttributeId}

instance : Finite AttributeId :=
  .of_injective (fun id => id.val.toFin) fun first second heq => by
    cases first
    cases second
    exact congrArg AttributeId.mk (UInt16.toFin_inj.1 heq)

theorem Derives.wellFounded {within : AttributeId → Prop}
    (hacyclic : ∀ id, within id → ¬ graph.Derives id id) :
    WellFounded fun source id => graph.Derives id source ∧ within id :=
  have : IsTrans AttributeId fun source id => graph.Derives id source ∧ within id :=
    ⟨fun _ _ _ hfirst hsecond => ⟨hsecond.1.trans hfirst.1, hsecond.2⟩⟩
  have : Std.Irrefl fun source id => graph.Derives id source ∧ within id :=
    ⟨fun id hself => hacyclic id hself.2 hself.1⟩
  Finite.wellFounded_of_trans_of_irrefl _

/-- Attributes that derive from each other only, and without cycles, get into the order. -/
theorem Saturated.mem_of_within (h : graph.Saturated order) (hcounted : graph.Counted)
    (within : AttributeId → Prop)
    (hclosed : ∀ id source, within id → id ∈ graph.readers source → within source)
    (hacyclic : ∀ id, within id → ¬ graph.Derives id id) :
    ∀ id ∈ graph.ids, within id → id ∈ order := by
  intro id
  -- the sources come before what derives from them
  induction id using (Derives.wellFounded hacyclic).induction with
  | h id ih =>
    intro hid hwithin
    apply h.closed id hid
    intro source hreads
    exact ih source ⟨.single hreads, hwithin⟩ (hcounted.source_mem hreads)
      (hclosed id source hwithin hreads)

/-- Without cycles every attribute gets into the order. -/
theorem Saturated.mem_of_acyclic (h : graph.Saturated order) (hcounted : graph.Counted)
    (hacyclic : ∀ id, ¬ graph.Derives id id) : ∀ id ∈ graph.ids, id ∈ order := by
  intro id hid
  exact h.mem_of_within hcounted (fun _ => True) (fun _ _ _ _ => trivial)
    (fun other _ => hacyclic other) id hid trivial

/-- With every attribute in the order there are no cycles. -/
theorem Saturated.acyclic (h : graph.Saturated order) (hcounted : graph.Counted)
    (hfull : ∀ id ∈ graph.ids, id ∈ order) : ∀ id, ¬ graph.Derives id id := by
  intro id hderives
  exact Nat.lt_irrefl _ (hderives.idxOf_lt h.nodup h.sourcesFirst hfull hcounted)

end DerivationGraph

/-! ### Gathering definitions -/

namespace AttributeTable

variable {infos : List AttributeInfo} {table next : AttributeTable}

/-- Definitions are gathered under their ids unless a range is unusable or an id is taken. -/
theorem foldlM_define_eq_ok_iff : infos.foldlM define table = .ok next ↔
    (∀ info ∈ infos, info.bounds.min ≤ info.bounds.max) ∧ (infos.map (·.id)).Nodup ∧
      (∀ info ∈ infos, table.get? info.id = none) ∧
        next = infos.foldl (fun table info => table.insert info.id info) table := by
  induction infos generalizing table with
  | nil => simp [pure, Except.pure, eq_comm]
  | cons info rest ih =>
    have hfirst : (info :: rest).foldlM define table = .ok next ↔
        ∃ middle, table.define info = .ok middle ∧ rest.foldlM define middle = .ok next := by
      rw [List.foldlM_cons]
      cases table.define info <;> simp [bind, Except.bind]
    have hnew : (∀ other ∈ rest, (table.insert info.id info).get? other.id = none) ↔
        info.id ∉ rest.map (·.id) ∧ ∀ other ∈ rest, table.get? other.id = none := by
      simp only [SortedMap.get?_insert, List.mem_map]
      grind
    simp only [hfirst, define_eq_ok_iff, ih, List.forall_mem_cons, List.map_cons, List.nodup_cons,
      List.foldl_cons]
    constructor
    · rintro ⟨middle, ⟨hbounds, hfree, rfl⟩, hrest, hdistinct, hfrees, rfl⟩
      obtain ⟨hother, hfrees⟩ := hnew.1 hfrees
      exact ⟨⟨hbounds, hrest⟩, ⟨hother, hdistinct⟩, ⟨hfree, hfrees⟩, rfl⟩
    · rintro ⟨⟨hbounds, hrest⟩, ⟨hother, hdistinct⟩, ⟨hfree, hfrees⟩, rfl⟩
      exact ⟨_, ⟨hbounds, hfree, rfl⟩, hrest, hdistinct, hnew.2 ⟨hother, hfrees⟩, rfl⟩

/-- Definitions by their ids. -/
def ofInfos (infos : List AttributeInfo) : AttributeTable :=
  .ofList (infos.map fun info => (info.id, info))

theorem foldlM_define_empty_eq_ok_iff : infos.foldlM define .empty = .ok table ↔
    (∀ info ∈ infos, info.bounds.min ≤ info.bounds.max) ∧ (infos.map (·.id)).Nodup ∧
      table = ofInfos infos := by
  rw [foldlM_define_eq_ok_iff, ofInfos, SortedMap.ofList, List.foldl_map]
  simp

theorem get?_ofInfos_eq_some_iff (hdistinct : (infos.map (·.id)).Nodup) {id : AttributeId}
    {info : AttributeInfo} : (ofInfos infos).get? id = some info ↔ info ∈ infos ∧ info.id = id :=
  SortedMap.get?_ofList_keyed_eq_some_iff hdistinct

theorem mem_values_ofInfos (hdistinct : (infos.map (·.id)).Nodup) {info : AttributeInfo} :
    info ∈ (ofInfos infos).values ↔ info ∈ infos := by
  simp [SortedMap.mem_values_iff, get?_ofInfos_eq_some_iff hdistinct]

theorem indexed_ofInfos (hdistinct : (infos.map (·.id)).Nodup) : (ofInfos infos).Indexed :=
  fun _ _ hget => ((get?_ofInfos_eq_some_iff hdistinct).1 hget).2

/-- The order of a list leaves no trace in its table. -/
theorem ofInfos_eq_of_perm {others : List AttributeInfo} (hdistinct : (infos.map (·.id)).Nodup)
    (h : infos.Perm others) : ofInfos infos = ofInfos others := by
  have hother : (others.map (·.id)).Nodup := (h.map _).nodup_iff.1 hdistinct
  apply SortedMap.ext_get?
  intro id
  apply Option.ext
  intro info
  rw [get?_ofInfos_eq_some_iff hdistinct, get?_ofInfos_eq_some_iff hother, h.mem_iff]

/-- What is gathered refers to nothing unknown when the listed definitions do not. -/
theorem unknownDependency?_ofInfos_eq_none_iff (hdistinct : (infos.map (·.id)).Nodup) :
    (ofInfos infos).unknownDependency? = none ↔
      ∀ info ∈ infos, ∀ source, info.DerivesFrom source → ∃ other ∈ infos, other.id = source := by
  rw [unknownDependency?_eq_none_iff]
  simp only [AttributeInfo.mem_sources_iff, mem_values_ofInfos hdistinct, SortedMap.mem_keys_iff,
    get?_ofInfos_eq_some_iff hdistinct]

/-- The graph of gathered definitions describes the list they come from. -/
theorem describes_ofInfos (hdistinct : (infos.map (·.id)).Nodup)
    (hknown : (ofInfos infos).unknownDependency? = none) :
    (DerivationGraph.ofInfos (ofInfos infos).values).Describes infos := by
  obtain ⟨hcounted, hids, hreaders⟩ := (indexed_ofInfos hdistinct).describes_graph hknown
  simp only [DerivesDirectly, mem_values_ofInfos hdistinct] at hids hreaders
  exact ⟨hcounted, hids, hreaders⟩

end AttributeTable

/-! ### Well-formed definitions -/

namespace AttributeRegistry

open AttributeTable

/-- What has to hold of definitions that make a catalog. -/
structure WellFormed (infos : List AttributeInfo) : Prop where
  bounds : ∀ info ∈ infos, info.bounds.min ≤ info.bounds.max
  distinct : (infos.map (·.id)).Nodup
  sources : ∀ info ∈ infos, ∀ source, info.DerivesFrom source → ∃ other ∈ infos, other.id = source
  acyclic : ∀ id, ¬ Relation.TransGen (DerivesDirectly infos) id id

variable {infos others : List AttributeInfo} {registry : AttributeRegistry}

/-- A catalog comes from the table of the listed definitions alone. -/
theorem ofList_eq_ok_iff_ofInfos : ofList infos = .ok registry ↔
    (∀ info ∈ infos, info.bounds.min ≤ info.bounds.max) ∧ (infos.map (·.id)).Nodup ∧
      ofTable? (ofInfos infos) = some (.ok registry) := by
  simp only [ofList_eq_ok_iff, foldlM_define_empty_eq_ok_iff]
  constructor
  · rintro ⟨table, ⟨hbounds, hdistinct, rfl⟩, hbuilt⟩
    exact ⟨hbounds, hdistinct, hbuilt⟩
  · rintro ⟨hbounds, hdistinct, hbuilt⟩
    exact ⟨_, ⟨hbounds, hdistinct, rfl⟩, hbuilt⟩

/-- A catalog holds what is listed and nothing else. -/
theorem table_of_ofList (h : ofList infos = .ok registry) : registry.table = ofInfos infos := by
  obtain ⟨-, hdistinct, hbuilt⟩ := ofList_eq_ok_iff_ofInfos.1 h
  exact (coherent_of_ofTable? (indexed_ofInfos hdistinct) hbuilt).1

/-- What is listed is in the catalog, which refers to nothing else. -/
theorem describes_graph (h : ofList infos = .ok registry) : registry.graph.Describes infos := by
  obtain ⟨-, hdistinct, hbuilt⟩ := ofList_eq_ok_iff_ofInfos.1 h
  obtain ⟨htable, hcoherent⟩ := coherent_of_ofTable? (indexed_ofInfos hdistinct) hbuilt
  have hknown : (ofInfos infos).unknownDependency? = none := htable ▸ hcoherent.known
  rw [graph, htable]
  exact describes_ofInfos hdistinct hknown

theorem wellFormed_of_ofList (h : ofList infos = .ok registry) : WellFormed infos := by
  obtain ⟨hbounds, hdistinct, hbuilt⟩ := ofList_eq_ok_iff_ofInfos.1 h
  obtain ⟨htable, hcoherent⟩ := coherent_of_ofTable? (indexed_ofInfos hdistinct) hbuilt
  obtain ⟨order, hsaturated, hfull, -⟩ := hcoherent.ordered
  have hdescribes := describes_graph h
  refine ⟨hbounds, hdistinct, ?_, fun id hderives => ?_⟩
  · exact (unknownDependency?_ofInfos_eq_none_iff hdistinct).1 (htable ▸ hcoherent.known)
  · exact hsaturated.acyclic hdescribes.counted hfull id (hdescribes.derives_iff.2 hderives)

theorem exists_ofList_of_wellFormed (h : WellFormed infos) :
    ∃ registry, ofList infos = .ok registry := by
  have hknown := (unknownDependency?_ofInfos_eq_none_iff h.distinct).2 h.sources
  have hdescribes := describes_ofInfos h.distinct hknown
  obtain ⟨order, hsaturated, ⟨-, dependentsOf, hok, -⟩ | ⟨id, ⟨hid, hfree, -⟩, -⟩⟩ :=
    exists_ofTable (indexed_ofInfos h.distinct) hknown
  · exact ⟨_, ofList_eq_ok_iff_ofInfos.2 ⟨h.bounds, h.distinct, hok⟩⟩
  · have hmem := hsaturated.mem_of_acyclic hdescribes.counted
      (fun other hderives => h.acyclic other (hdescribes.derives_iff.1 hderives)) id hid
    exact absurd hmem hfree

theorem ofList_of_perm (hperm : infos.Perm others) (h : ofList infos = .ok registry) :
    ofList others = .ok registry := by
  obtain ⟨hbounds, hdistinct, hbuilt⟩ := ofList_eq_ok_iff_ofInfos.1 h
  refine ofList_eq_ok_iff_ofInfos.2 ⟨fun info hmem => hbounds info (hperm.mem_iff.2 hmem), ?_, ?_⟩
  · exact (hperm.map _).nodup_iff.1 hdistinct
  · rw [← ofInfos_eq_of_perm hdistinct hperm]
    exact hbuilt

/-- Judging definitions never takes a count below zero or misses a rank. It accepts exactly the
well-formed lists, and makes the same catalog of all that differ in order only. -/
theorem ofList_accepts_wellFormed (infos : List AttributeInfo) :
    build? infos = some (ofList infos) ∧
      ((∃ registry, ofList infos = .ok registry) ↔ WellFormed infos) ∧
        ∀ others, infos.Perm others → ∀ registry,
          ofList infos = .ok registry ↔ ofList others = .ok registry := by
  refine ⟨(some_ofList infos).symm, ⟨?_, exists_ofList_of_wellFormed⟩,
    fun others hperm registry => ?_⟩
  · rintro ⟨registry, h⟩
    exact wellFormed_of_ofList h
  · exact ⟨ofList_of_perm hperm, ofList_of_perm hperm.symm⟩

/-- The sample catalog is the one of its definitions in reverse. -/
theorem ofList_reverse_sampleInfos : ofList sampleInfos.reverse = .ok sample := by
  obtain ⟨-, -, hperm⟩ := ofList_accepts_wellFormed sampleInfos
  rw [← hperm sampleInfos.reverse sampleInfos.reverse_perm.symm sample]
  exact ofList_sampleInfos

end AttributeRegistry

end CharacterSim
