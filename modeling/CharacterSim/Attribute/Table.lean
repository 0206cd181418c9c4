import CharacterSim.Attribute.Derivation.Counts
import CharacterSim.Error

/-! Lists of definitions on their way to a catalog. Definitions are gathered by id, and each derivation
has to refer to attributes that are defined. -/

namespace CharacterSim

/-- Why a list of definitions is no catalog. -/
inductive RegistryError where
  | duplicateAttribute (id : AttributeId)
  | unknownDependency (dependent source : AttributeId)
  | cyclicDerivation (id : AttributeId)
  | invalidBounds (id : AttributeId)
  deriving DecidableEq

instance : DomainError RegistryError where
  severity _ := .fatal
  code
    | .duplicateAttribute _ => "REGISTRY_DUPLICATE_ATTRIBUTE"
    | .unknownDependency .. => "REGISTRY_UNKNOWN_DEPENDENCY"
    | .cyclicDerivation _ => "REGISTRY_CYCLIC_DERIVATION"
    | .invalidBounds _ => "REGISTRY_INVALID_BOUNDS"
  message
    | .duplicateAttribute id => s!"attribute {id.text} is defined more than once"
    | .unknownDependency dependent source =>
      s!"attribute {dependent.text} derives from unknown attribute {source.text}"
    | .cyclicDerivation id => s!"attribute {id.text} takes part in a derivation cycle"
    | .invalidBounds id =>
      s!"attribute {id.text} has a minimum above its maximum or a NaN bound"

/-- Definitions by id. -/
abbrev AttributeTable := SortedMap AttributeId AttributeInfo

namespace AttributeTable

/-- Adds a definition to those before it. -/
def define (table : AttributeTable) (info : AttributeInfo) : Except RegistryError AttributeTable :=
  if ¬ info.bounds.isValid then .error (.invalidBounds info.id)
  else if table.contains info.id then .error (.duplicateAttribute info.id)
  else .ok (table.insert info.id info)

/-- The first derivation, by ascending id and then in the order of terms, from an attribute that is
not defined. -/
def unknownDependency? (table : AttributeTable) : Option (AttributeId × AttributeId) :=
  table.values.findSome? fun info =>
    (info.sources.find? fun source => !table.contains source).map fun source => (info.id, source)

/-- Every definition stands under its own id. -/
def Indexed (table : AttributeTable) : Prop :=
  ∀ id info, table.get? id = some info → info.id = id

variable {table next : AttributeTable} {info : AttributeInfo} {infos : List AttributeInfo}

theorem indexed_empty : Indexed .empty := fun _ _ h => nomatch h

/-- A definition that is accepted has usable bounds and a new id, under which it then stands. -/
theorem define_eq_ok_iff : table.define info = .ok next ↔
    info.bounds.min ≤ info.bounds.max ∧ table.get? info.id = none ∧
      next = table.insert info.id info := by
  unfold define
  split
  · next hinvalid =>
    have hbounds : ¬ info.bounds.min ≤ info.bounds.max := by simpa [Bounds.isValid] using hinvalid
    simp [hbounds]
  · next hvalid =>
    split
    · next hknown =>
      obtain ⟨other, hother⟩ := SortedMap.contains_iff.1 hknown
      simp [hother]
    · next hnew =>
      have hnone : table.get? info.id = none :=
        Option.eq_none_iff_forall_ne_some.2 fun other hother =>
          hnew (SortedMap.contains_iff.2 ⟨other, hother⟩)
      have hbounds : info.bounds.min ≤ info.bounds.max := by simpa [Bounds.isValid] using hvalid
      simp [hnone, hbounds, eq_comm]

theorem Indexed.insert (h : table.Indexed) (info : AttributeInfo) :
    Indexed (table.insert info.id info) := by
  intro id found hfound
  rw [SortedMap.get?_insert] at hfound
  split at hfound
  · next heq =>
    cases hfound
    exact heq.symm
  · exact h id found hfound

theorem Indexed.foldlM_define (h : table.Indexed)
    (hfold : infos.foldlM AttributeTable.define table = .ok next) : next.Indexed := by
  induction infos generalizing table with
  | nil =>
    cases hfold
    exact h
  | cons info rest ih =>
    rw [List.foldlM_cons] at hfold
    cases hdefine : table.define info with
    | error refusal =>
      rw [hdefine] at hfold
      cases hfold
    | ok defined =>
      rw [hdefine] at hfold
      obtain ⟨-, -, rfl⟩ := define_eq_ok_iff.1 hdefine
      exact ih (h.insert info) hfold

theorem Indexed.mem_values_iff (h : table.Indexed) :
    info ∈ table.values ↔ table.get? info.id = some info := by
  constructor
  · intro hmem
    obtain ⟨id, hget⟩ := SortedMap.mem_values_iff.1 hmem
    rwa [h id info hget]
  · exact fun hget => SortedMap.mem_values_iff.2 ⟨info.id, hget⟩

theorem Indexed.map_id_values (h : table.Indexed) : table.values.map (·.id) = table.keys := by
  rw [SortedMap.values, SortedMap.keys, List.map_map]
  exact List.map_congr_left fun entry hmem => h _ _ (SortedMap.get?_eq_some_iff.2 hmem)

theorem unknownDependency?_eq_none_iff : table.unknownDependency? = none ↔
    ∀ info ∈ table.values, ∀ source ∈ info.sources, source ∈ table.keys := by
  simp [unknownDependency?, List.findSome?_eq_none_iff, ← SortedMap.contains_iff_mem_keys]

/-- The graph of definitions that refer to nothing unknown. -/
theorem Indexed.describes_graph (h : table.Indexed) (hknown : table.unknownDependency? = none) :
    (DerivationGraph.ofInfos table.values).Describes table.values := by
  apply DerivationGraph.describes_ofInfos
  · rw [h.map_id_values]
    exact table.keys_nodup
  · intro info hmem source hsource
    have hkey := unknownDependency?_eq_none_iff.1 hknown info hmem source hsource
    rwa [← h.map_id_values, List.mem_map] at hkey

end AttributeTable

end CharacterSim
