import CharacterSim.Proofs.Attribute.Freshness
import CharacterSim.Proofs.Collections.Latest
import Mathlib.Data.List.Induction

/-! Bases that are set one after the other. Each time only what derives from the base is recalculated,
with the other bases as they are by then; what is left in the end follows from the last value of each
attribute alone. -/

namespace CharacterSim.AttributeStore

variable {store first second final : AttributeStore} {id other : AttributeId}
  {pairs : List (AttributeId × Float)}

/-- The store after bases were set in the listed order. -/
def setBases (store : AttributeStore) (pairs : List (AttributeId × Float)) : AttributeStore :=
  pairs.foldl (fun store pair => (store.setBase pair.1 pair.2).1) store

theorem setBases_concat (store : AttributeStore) (pairs : List (AttributeId × Float))
    (pair : AttributeId × Float) : store.setBases (pairs ++ [pair]) =
      ((store.setBases pairs).setBase pair.1 pair.2).1 := by
  rw [setBases, List.foldl_append]
  rfl

/-- Setting a base rewrites the record of another attribute: the base is that of a carried attribute,
and the other is this one or derives from it. -/
def Stirs (store : AttributeStore) (id other : AttributeId) : Prop :=
  store.contains id = true ∧ (other = id ∨ other ∈ store.registry.dependents id)

theorem get?_setBase_of_stirs {record : AttributeRecord} (h : store.Stirs id other)
    (hget : store.get? other = some record) (value : Float) :
    (store.setBase id value).1.get? other = some ((store.setBase id value).1.refreshed other
      (if other = id then { record with base := value } else record)) := by
  obtain ⟨hcontains, hreads⟩ := h
  obtain ⟨carried, hcarried⟩ := contains_eq_true_iff.1 hcontains
  have hlisted : other ∈ id :: (store.registry.dependents id).filter store.contains := by
    rw [List.mem_cons, List.mem_filter]
    exact hreads.imp_right fun hdepends => ⟨hdepends, contains_eq_true_iff.2 ⟨record, hget⟩⟩
  rw [setBase_of_some hcarried]
  dsimp only
  rw [get?_recalculateEach, if_pos hlisted, get?_put,
    refreshed_congr (registry_recalculateEach _) fun _ => base?_recalculateEach _]
  split
  · next heq =>
    obtain rfl : record = carried := Option.some.inj (hget.symm.trans (heq ▸ hcarried))
    rfl
  · rw [hget]
    rfl

theorem get?_setBase_of_not_stirs (h : ¬ store.Stirs id other) (value : Float) :
    (store.setBase id value).1.get? other = store.get? other := by
  apply get?_setBase_of_not_mem
  intro hmem
  cases hcarried : store.get? id with
  | none =>
    rw [setBase_of_none hcarried] at hmem
    cases hmem
  | some carried =>
    rw [setBase_of_some hcarried] at hmem
    refine h ⟨contains_eq_true_iff.2 ⟨carried, hcarried⟩, (List.mem_cons.1 hmem).imp_right ?_⟩
    exact fun hlisted => (List.mem_filter.1 hlisted).1

/-- The record of an attribute is rewritten when one of some bases is set. -/
def Stirred (store : AttributeStore) (pairs : List (AttributeId × Float)) (id : AttributeId) : Prop :=
  ∃ source, (latest pairs source).isSome = true ∧ store.Stirs source id

theorem not_stirred_nil : ¬ store.Stirred [] id := by
  rintro ⟨source, hmentioned, -⟩
  cases hmentioned

theorem stirred_concat {pair : AttributeId × Float} :
    store.Stirred (pairs ++ [pair]) id ↔ store.Stirred pairs id ∨ store.Stirs pair.1 id := by
  simp only [Stirred, latest_concat]
  constructor
  · rintro ⟨source, hmentioned, hstirs⟩
    split at hmentioned
    · next heq => exact .inr (heq ▸ hstirs)
    · exact .inl ⟨source, hmentioned, hstirs⟩
  · rintro (⟨source, hmentioned, hstirs⟩ | hstirs)
    · refine ⟨source, ?_, hstirs⟩
      split
      · rfl
      · exact hmentioned
    · exact ⟨pair.1, by rw [if_pos rfl]; rfl, hstirs⟩

/-! ### What is recalculated twice -/

/-- Of what was computed before, a recalculation sees nothing. -/
theorem refreshed_rebase (hregistry : first.registry = second.registry) (record : AttributeRecord)
    (value : Float) : second.refreshed id { first.refreshed id record with base := value } =
      second.refreshed id { record with base := value } := by
  unfold refreshed
  rw [hregistry]
  split <;> rfl

/-- Where no source has another base, a recalculation yields what it did. -/
theorem refreshed_eq_of_sources (hregistry : first.registry = second.registry)
    (h : ∀ info, second.registry.get? id = some info →
      ∀ source, info.DerivesFrom source → first.base? source = second.base? source)
    (record : AttributeRecord) : first.refreshed id record = second.refreshed id record := by
  unfold refreshed
  rw [hregistry]
  split
  · next info hinfo => rw [freshValue_congr (h info hinfo)]
  · rfl

/-! ### What is left in the end -/

/-- How a store ends up whose bases were set: each base at its last value, what was stirred
recalculated with these, and the rest as it was. -/
structure Rebased (store : AttributeStore) (pairs : List (AttributeId × Float))
    (final : AttributeStore) : Prop where
  registry : final.registry = store.registry
  base? : ∀ id, final.base? id = (store.base? id).map (latest pairs id).getD
  stirred : ∀ id record, store.get? id = some record → store.Stirred pairs id →
    final.get? id =
      some (final.refreshed id { record with base := (latest pairs id).getD record.base })
  others : ∀ id, ¬ store.Stirred pairs id → final.get? id = store.get? id

theorem rebased_nil (store : AttributeStore) : store.Rebased [] store where
  registry := rfl
  base? id := by cases h : store.base? id <;> rfl
  stirred _ _ _ hstirred := absurd hstirred not_stirred_nil
  others _ _ := rfl

theorem Rebased.get?_eq_none_iff (h : store.Rebased pairs final) :
    final.get? id = none ↔ store.get? id = none := by
  have hnone : ∀ store : AttributeStore, store.base? id = none ↔ store.get? id = none :=
    fun _ => Option.map_eq_none_iff
  rw [← hnone, ← hnone, h.base?, Option.map_eq_none_iff]

theorem Rebased.stirs_iff (h : store.Rebased pairs final) :
    final.Stirs id other ↔ store.Stirs id other := by
  have hcontains : final.contains id = store.contains id :=
    Option.isSome_eq_isSome.2 h.get?_eq_none_iff
  rw [Stirs, Stirs, hcontains, h.registry]

/-- A record that was stirred or not differs from what it was in nothing that matters to the next
recalculation but its base. -/
theorem Rebased.exists_record (h : store.Rebased pairs final) {record : AttributeRecord}
    (hget : store.get? id = some record) : ∃ found, final.get? id = some found ∧
      found.base = (latest pairs id).getD record.base ∧
      ∀ next : AttributeStore, next.registry = store.registry → ∀ value,
        next.refreshed id { found with base := value } =
          next.refreshed id { record with base := value } := by
  by_cases hstirred : store.Stirred pairs id
  · refine ⟨_, h.stirred id record hget hstirred, by rw [base_refreshed], ?_⟩
    intro next hnext value
    exact refreshed_rebase (h.registry.trans hnext.symm) _ value
  · have hsame : final.get? id = some record := (h.others id hstirred).trans hget
    refine ⟨record, hsame, ?_, fun _ _ _ => rfl⟩
    have hbase := h.base? id
    rw [AttributeStore.base?, AttributeStore.base?, hsame, hget] at hbase
    exact Option.some.inj hbase

/-- Another base is set: what it stirs is recalculated with it, and what was stirred before and is not
now reads none but bases that stay. -/
theorem Rebased.setBase (h : store.Rebased pairs final) (hcoherent : store.registry.Coherent)
    (pair : AttributeId × Float) :
    store.Rebased (pairs ++ [pair]) (final.setBase pair.1 pair.2).1 where
  registry := (registry_setBase pair.2).trans h.registry
  base? other := by
    rw [base?_setBase, h.base?, latest_concat]
    split
    · rw [Option.map_map]
      rfl
    · rfl
  stirred other record hget hstirred := by
    obtain ⟨found, hfound, hbase, hrefreshed⟩ := h.exists_record hget
    have hregistry : (final.setBase pair.1 pair.2).1.registry = store.registry :=
      (registry_setBase pair.2).trans h.registry
    by_cases hstirs : final.Stirs pair.1 other
    · rw [get?_setBase_of_stirs hstirs hfound, ← hrefreshed _ hregistry, latest_concat]
      split
      · rfl
      · rw [← hbase]
    · have hbefore : store.Stirred pairs other :=
        (stirred_concat.1 hstirred).resolve_right (mt h.stirs_iff.2 hstirs)
      have hne : other ≠ pair.1 := fun heq =>
        hstirs ⟨heq ▸ contains_eq_true_iff.2 ⟨found, hfound⟩, .inl heq⟩
      rw [get?_setBase_of_not_stirs hstirs, h.stirred other record hget hbefore, latest_concat,
        if_neg hne]
      refine congrArg some (refreshed_eq_of_sources (registry_setBase _).symm ?_ _)
      intro info hinfo source hsource
      rw [base?_setBase]
      split
      · next heq =>
        subst heq
        cases hcarried : final.get? pair.1 with
        | none => rw [AttributeStore.base?, hcarried]; rfl
        | some carried =>
          rw [hregistry] at hinfo
          have hreads := hcoherent.mem_dependents hinfo hsource
          exact absurd ⟨contains_eq_true_iff.2 ⟨carried, hcarried⟩,
            .inr (h.registry.symm ▸ hreads)⟩ hstirs
      · rfl
  others other hout := by
    rw [stirred_concat, not_or] at hout
    rw [get?_setBase_of_not_stirs (mt h.stirs_iff.1 hout.2), h.others other hout.1]

theorem rebased_setBases (hcoherent : store.registry.Coherent)
    (pairs : List (AttributeId × Float)) : store.Rebased pairs (store.setBases pairs) := by
  induction pairs using List.reverseRecOn with
  | nil => exact rebased_nil store
  | append_singleton pairs pair ih =>
    rw [setBases_concat]
    exact ih.setBase hcoherent pair

/-- The last values of the attributes determine how a store ends up. -/
theorem Rebased.unique {others : List (AttributeId × Float)} (hfirst : store.Rebased pairs first)
    (hsecond : store.Rebased others second) (h : ∀ id, latest pairs id = latest others id) :
    first = second := by
  have hregistry : first.registry = second.registry :=
    hfirst.registry.trans hsecond.registry.symm
  have hbase : ∀ id, first.base? id = second.base? id := by
    intro id
    rw [hfirst.base?, hsecond.base?, h]
  have hstirred : ∀ id, store.Stirred pairs id ↔ store.Stirred others id := by
    simp only [Stirred, h, implies_true]
  refine ext_get? hregistry fun id => ?_
  by_cases hrewritten : store.Stirred pairs id
  · cases hget : store.get? id with
    | none =>
      rw [hfirst.get?_eq_none_iff.2 hget, hsecond.get?_eq_none_iff.2 hget]
    | some record =>
      rw [hfirst.stirred id record hget hrewritten,
        hsecond.stirred id record hget ((hstirred id).1 hrewritten), h,
        refreshed_congr hregistry hbase]
  · rw [hfirst.others id hrewritten, hsecond.others id (mt (hstirred id).2 hrewritten)]

end CharacterSim.AttributeStore
