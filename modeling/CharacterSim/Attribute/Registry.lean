import CharacterSim.Attribute.Derivation.Dependents
import CharacterSim.Attribute.Table

/-! The catalog of attributes. A list of definitions is accepted when its ids are distinct, its
ranges usable, and its derivations refer to listed attributes and never lead back to where they
began; what derives from each attribute is then listed in the order of recalculation. -/

namespace CharacterSim

/-- An accepted catalog: its definitions by id, and what derives from each through any number of rules,
every attribute after all that it derives from. -/
structure AttributeRegistry where
  table : AttributeTable
  dependentsOf : SortedMap AttributeId (List AttributeId)

namespace AttributeRegistry

/-- Accepts gathered definitions or says what is wrong with them. -/
def ofTable? (table : AttributeTable) : Option (Except RegistryError AttributeRegistry) := do
  if let some (dependent, source) := table.unknownDependency? then
    return .error (.unknownDependency dependent source)
  let graph := DerivationGraph.ofInfos table.values
  match ← graph.order? with
  | .error stuck => return .error (.cyclicDerivation stuck)
  | .ok order => return .ok { table, dependentsOf := ← graph.allDependents? order }

/-- Accepts a list of definitions or says what is wrong with it. -/
def build? (infos : List AttributeInfo) : Option (Except RegistryError AttributeRegistry) :=
  match infos.foldlM AttributeTable.define .empty with
  | .error refusal => some (.error refusal)
  | .ok table => ofTable? table

/-- The definitions are put into an order, with what derives from each listed by it, or some are left
out of the order for good, of which the first is named. -/
theorem exists_ofTable {table : AttributeTable} (hindexed : table.Indexed)
    (hknown : table.unknownDependency? = none) :
    let graph := DerivationGraph.ofInfos table.values
    ∃ order, graph.Saturated order ∧
      ((∀ id ∈ graph.ids, id ∈ order) ∧ (∃ dependentsOf, ofTable? table =
          some (.ok { table, dependentsOf }) ∧
            ∀ id, graph.ListsDependents order id ((dependentsOf.get? id).getD [])) ∨
        ∃ stuck, graph.FirstMissing order stuck ∧
          ofTable? table = some (.error (.cyclicDerivation stuck))) := by
  have hcounted := (hindexed.describes_graph hknown).counted
  obtain ⟨order, hsaturated, ⟨hfull, horder⟩ | ⟨stuck, hfirst, horder⟩⟩ := hcounted.exists_order
  · obtain ⟨dependentsOf, hall, hlists⟩ := hcounted.exists_allDependents hsaturated.nodup hfull
    refine ⟨order, hsaturated, .inl ⟨hfull, dependentsOf, ?_, hlists⟩⟩
    simp [ofTable?, hknown, horder, hall]
  · refine ⟨order, hsaturated, .inr ⟨stuck, hfirst, ?_⟩⟩
    simp [ofTable?, hknown, horder]

theorem isSome_ofTable? {table : AttributeTable} (hindexed : table.Indexed) :
    (ofTable? table).isSome := by
  cases hknown : table.unknownDependency? with
  | some unknown => simp [ofTable?, hknown]
  | none =>
    obtain ⟨order, -, ⟨-, dependentsOf, hok, -⟩ | ⟨stuck, -, herror⟩⟩ :=
      exists_ofTable hindexed hknown
    · rw [hok, Option.isSome_some]
    · rw [herror, Option.isSome_some]

theorem isSome_build? (infos : List AttributeInfo) : (build? infos).isSome := by
  unfold build?
  split
  · rfl
  · next table hfold => exact isSome_ofTable? (AttributeTable.indexed_empty.foldlM_define hfold)

/-- Accepts a list of definitions or says what is wrong with it; no count and no look-up fails. -/
def ofList (infos : List AttributeInfo) : Except RegistryError AttributeRegistry :=
  (build? infos).get (isSome_build? infos)

/-- The catalog without attributes. -/
def empty : AttributeRegistry := { table := .empty, dependentsOf := .empty }

instance : Inhabited AttributeRegistry := ⟨empty⟩

def get? (registry : AttributeRegistry) (id : AttributeId) : Option AttributeInfo :=
  registry.table.get? id

def contains (registry : AttributeRegistry) (id : AttributeId) : Bool := registry.table.contains id

def ids (registry : AttributeRegistry) : List AttributeId := registry.table.keys

/-- The definitions in ascending order of id. -/
def infos (registry : AttributeRegistry) : List AttributeInfo := registry.table.values

def size (registry : AttributeRegistry) : Nat := registry.table.size

def isEmpty (registry : AttributeRegistry) : Bool := registry.table.isEmpty

/-- Players may spend points on the attribute; never on one that is not in the catalog. -/
def isDirectlyModifiable (registry : AttributeRegistry) (id : AttributeId) : Bool :=
  match registry.get? id with
  | some info => info.modifiable
  | none => false

/-- The definitions that apply to any of the given kinds of entity. -/
def scope (registry : AttributeRegistry) (scopes : ScopeSet) : List AttributeInfo :=
  registry.infos.filter fun info => info.scopes.intersects scopes

/-- Every attribute that derives from `id` through any number of rules, each after everything it
derives from. -/
def dependents (registry : AttributeRegistry) (id : AttributeId) : List AttributeId :=
  (registry.dependentsOf.get? id).getD []

end AttributeRegistry

end CharacterSim
