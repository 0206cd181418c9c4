import CharacterSim.Proofs.Attribute.Acceptance

/-! Which attribute is named when a list of definitions is refused for a cycle. It is the first of all
that wait for a cycle: those on one, and those that derive from one without being on any. -/

namespace CharacterSim

/-- The attribute derives from itself through one rule or more. -/
def OnCycle (infos : List AttributeInfo) (id : AttributeId) : Prop :=
  Relation.TransGen (DerivesDirectly infos) id id

/-- The attribute is on a cycle, or derives from one that is. -/
def BehindCycle (infos : List AttributeInfo) (id : AttributeId) : Prop :=
  ∃ looped, OnCycle infos looped ∧ Relation.ReflTransGen (DerivesDirectly infos) id looped

/-- The attribute comes before all others that wait for a cycle. -/
structure FirstBehindCycle (infos : List AttributeInfo) (id : AttributeId) : Prop where
  behind : BehindCycle infos id
  first : ∀ other, BehindCycle infos other → rank id ≤ rank other

variable {infos : List AttributeInfo} {id source : AttributeId}

theorem OnCycle.behind (h : OnCycle infos id) : BehindCycle infos id := ⟨id, h, .refl⟩

theorem BehindCycle.head (h : BehindCycle infos source) (hreads : DerivesDirectly infos id source) :
    BehindCycle infos id := by
  obtain ⟨looped, honcycle, hderives⟩ := h
  exact ⟨looped, honcycle, hderives.head hreads⟩

/-- What waits for a cycle is defined. -/
theorem BehindCycle.exists_info (h : BehindCycle infos id) : ∃ info ∈ infos, info.id = id := by
  have hreads : ∃ source, DerivesDirectly infos id source := by
    obtain ⟨looped, honcycle, hderives⟩ := h
    have hall : Relation.TransGen (DerivesDirectly infos) id looped :=
      Relation.TransGen.trans_right hderives honcycle
    obtain ⟨source, hfirst, -⟩ := Relation.TransGen.head'_iff.1 hall
    exact ⟨source, hfirst⟩
  obtain ⟨source, info, hmem, hid, -⟩ := hreads
  exact ⟨info, hmem, hid⟩

namespace DerivationGraph

variable {graph : DerivationGraph} {order : List AttributeId}

/-- What gets into the order of the definitions is what does not wait for a cycle. -/
theorem Saturated.mem_iff_not_behind (h : graph.Saturated order) (hdescribes : graph.Describes infos)
    (hid : id ∈ graph.ids) : id ∈ order ↔ ¬ BehindCycle infos id := by
  constructor
  · rintro hmem ⟨looped, honcycle, hderives⟩
    have hloops : graph.Derives looped looped := hdescribes.derives_iff.2 honcycle
    have hlooped : looped ∈ order := by
      rcases Relation.reflTransGen_iff_eq_or_transGen.1 hderives with rfl | hderives
      · exact hmem
      · exact ((hdescribes.derives_iff.2 hderives).source_before h.nodup h.sourcesFirst hmem).1
    -- an attribute on a cycle would stand before itself
    exact Nat.lt_irrefl _ (hloops.source_before h.nodup h.sourcesFirst hlooped).2
  · intro hfree
    refine h.mem_of_within hdescribes.counted (fun id => ¬ BehindCycle infos id)
      (fun id source hfree hreads hbehind => ?_) (fun id hfree hloops => ?_) id hid hfree
    · exact hfree (hbehind.head ((hdescribes.mem_readers id source).1 hreads))
    · exact hfree (OnCycle.behind (hdescribes.derives_iff.1 hloops))

/-- The first attribute that the order does not hold is the first that waits for a cycle. -/
theorem Saturated.firstMissing_iff (h : graph.Saturated order)
    (hdescribes : graph.Describes infos) :
    graph.FirstMissing order id ↔ FirstBehindCycle infos id := by
  have hmissing : ∀ other ∈ graph.ids, other ∉ order ↔ BehindCycle infos other := by
    intro other hother
    rw [h.mem_iff_not_behind hdescribes hother, not_not]
  have hknown : ∀ other, BehindCycle infos other → other ∈ graph.ids := fun other hbehind =>
    (hdescribes.mem_ids other).2 hbehind.exists_info
  constructor
  · intro hfirst
    refine ⟨(hmissing id hfirst.known).1 hfirst.missing, fun other hbehind => ?_⟩
    have hother := hknown other hbehind
    exact hfirst.first other hother ((hmissing other hother).2 hbehind)
  · intro hfirst
    have hid := hknown id hfirst.behind
    refine ⟨hid, (hmissing id hid).2 hfirst.behind, fun other hother hfree => ?_⟩
    exact hfirst.first other ((hmissing other hother).1 hfree)

end DerivationGraph

theorem AttributeTable.foldlM_define_ne_cyclic {table : AttributeTable} :
    infos.foldlM AttributeTable.define table ≠ .error (.cyclicDerivation id) := by
  induction infos generalizing table with
  | nil => exact fun h => by cases h
  | cons info rest ih =>
    rw [List.foldlM_cons]
    unfold AttributeTable.define
    split
    · exact fun h => by cases h
    · split
      · exact fun h => by cases h
      · exact ih

namespace AttributeRegistry

open AttributeTable

/-- Nothing is wrong with the definitions but that they may lead back to where they began. -/
structure Resolved (infos : List AttributeInfo) : Prop where
  bounds : ∀ info ∈ infos, info.bounds.min ≤ info.bounds.max
  distinct : (infos.map (·.id)).Nodup
  sources : ∀ info ∈ infos, ∀ source, info.DerivesFrom source → ∃ other ∈ infos, other.id = source

/-- What is wrong with a list that is no catalog. -/
def refusal? (infos : List AttributeInfo) : Option RegistryError :=
  match ofList infos with
  | .ok _ => none
  | .error refusal => some refusal

theorem ofList_eq_error_iff {refusal : RegistryError} :
    ofList infos = .error refusal ↔ refusal? infos = some refusal := by
  unfold refusal?
  cases ofList infos <;> simp

theorem ofList_eq_cyclic_iff_ofInfos : ofList infos = .error (.cyclicDerivation id) ↔
    (∀ info ∈ infos, info.bounds.min ≤ info.bounds.max) ∧ (infos.map (·.id)).Nodup ∧
      ofTable? (ofInfos infos) = some (.error (.cyclicDerivation id)) := by
  rw [← Option.some_inj, some_ofList, build?]
  cases hfold : infos.foldlM AttributeTable.define .empty with
  | error refusal =>
    refine iff_of_false (fun h => ?_) fun h => ?_
    · cases h
      exact foldlM_define_ne_cyclic hfold
    · have hok := foldlM_define_empty_eq_ok_iff.2 ⟨h.1, h.2.1, rfl⟩
      cases hfold.symm.trans hok
  | ok table =>
    obtain ⟨hbounds, hdistinct, rfl⟩ := foldlM_define_empty_eq_ok_iff.1 hfold
    exact ⟨fun h => ⟨hbounds, hdistinct, h⟩, fun h => h.2.2⟩

/-- A list is refused for a cycle when nothing else is wrong with it and there is one; what is named is
the first attribute that waits for a cycle. -/
theorem ofList_eq_cyclic_iff : ofList infos = .error (.cyclicDerivation id) ↔
    Resolved infos ∧ FirstBehindCycle infos id := by
  rw [ofList_eq_cyclic_iff_ofInfos]
  constructor
  · rintro ⟨hbounds, hdistinct, htable⟩
    cases hknown : (ofInfos infos).unknownDependency? with
    | some unknown => simp [ofTable?, hknown] at htable
    | none =>
      have hsources := (unknownDependency?_ofInfos_eq_none_iff hdistinct).1 hknown
      refine ⟨⟨hbounds, hdistinct, hsources⟩, ?_⟩
      obtain ⟨order, hsaturated, ⟨-, dependentsOf, hok, -⟩ | ⟨stuck, hfirst, herror⟩⟩ :=
        exists_ofTable (indexed_ofInfos hdistinct) hknown
      · cases hok.symm.trans htable
      · cases herror.symm.trans htable
        exact (hsaturated.firstMissing_iff (describes_ofInfos hdistinct hknown)).1 hfirst
  · rintro ⟨⟨hbounds, hdistinct, hsources⟩, hfirst⟩
    refine ⟨hbounds, hdistinct, ?_⟩
    have hknown := (unknownDependency?_ofInfos_eq_none_iff hdistinct).2 hsources
    have hdescribes := describes_ofInfos hdistinct hknown
    obtain ⟨order, hsaturated, ⟨hfull, -⟩ | ⟨stuck, hstuck, herror⟩⟩ :=
      exists_ofTable (indexed_ofInfos hdistinct) hknown
    · have hmissing := (hsaturated.firstMissing_iff hdescribes).2 hfirst
      exact absurd (hfull id hmissing.known) hmissing.missing
    · have hnamed := (hsaturated.firstMissing_iff hdescribes).1 hstuck
      have hsame : stuck = id := Ranked.rank_injective
        (Nat.le_antisymm (hnamed.first id hfirst.behind) (hfirst.first stuck hnamed.behind))
      rw [herror, hsame]

/-- A list is refused for a cycle, naming the first attribute that waits for one, when nothing else is
wrong with it. What is named is itself on a cycle exactly when some attribute on a cycle comes before
all those that wait for a cycle without being on one. -/
theorem named_on_cycle_iff (infos : List AttributeInfo) (id : AttributeId) :
    (ofList infos = .error (.cyclicDerivation id) ↔ Resolved infos ∧ FirstBehindCycle infos id) ∧
      (ofList infos = .error (.cyclicDerivation id) →
        (OnCycle infos id ↔ ∃ looped, OnCycle infos looped ∧
          ∀ other, BehindCycle infos other → ¬ OnCycle infos other → rank looped < rank other)) := by
  refine ⟨ofList_eq_cyclic_iff, fun h => ⟨fun honcycle => ?_, ?_⟩⟩
  · obtain ⟨-, hfirst⟩ := ofList_eq_cyclic_iff.1 h
    refine ⟨id, honcycle, fun other hbehind hoff => ?_⟩
    have hne : rank id ≠ rank other := fun heq => hoff (Ranked.rank_injective heq ▸ honcycle)
    exact Nat.lt_of_le_of_ne (hfirst.first other hbehind) hne
  · rintro ⟨looped, honcycle, hbefore⟩
    obtain ⟨-, hfirst⟩ := ofList_eq_cyclic_iff.1 h
    by_contra hoff
    have hlt := hbefore id hfirst.behind hoff
    exact Nat.not_lt.2 (hfirst.first looped honcycle.behind) hlt

/-- Definitions that derive from one attribute each. -/
def chained (rules : List (UInt16 × UInt16)) : List AttributeInfo :=
  rules.map fun rule =>
    { id := ⟨rule.1⟩, name := "", scopes := .being, derivation := .linear [⟨⟨rule.2⟩, 1.0⟩] }

theorem derivesDirectly_chained {rules : List (UInt16 × UInt16)} {id source : UInt16}
    (h : (id, source) ∈ rules) : DerivesDirectly (chained rules) ⟨id⟩ ⟨source⟩ :=
  ⟨_, List.mem_map_of_mem h, rfl, _, rfl, _, List.mem_singleton_self _, rfl⟩

/-- Attributes 1 and 2 derive from each other and 3 derives from 1: what is named is on the cycle. -/
theorem named_on_cycle_of_pair :
    ofList (chained [(1, 2), (2, 1), (3, 1)]) = .error (.cyclicDerivation ⟨1⟩) ∧
      OnCycle (chained [(1, 2), (2, 1), (3, 1)]) ⟨1⟩ := by
  have hrefused : refusal? (chained [(1, 2), (2, 1), (3, 1)]) = some (.cyclicDerivation ⟨1⟩) := by
    decide +kernel
  have hnamed := ofList_eq_error_iff.2 hrefused
  have hfirst : DerivesDirectly (chained [(1, 2), (2, 1), (3, 1)]) ⟨1⟩ ⟨2⟩ :=
    derivesDirectly_chained (by decide)
  have hsecond : DerivesDirectly (chained [(1, 2), (2, 1), (3, 1)]) ⟨2⟩ ⟨1⟩ :=
    derivesDirectly_chained (by decide)
  refine ⟨hnamed, ((named_on_cycle_iff _ _).2 hnamed).2
    ⟨⟨2⟩, .tail (.single hsecond) hfirst, fun other hbehind hoff => ?_⟩⟩
  obtain ⟨info, hmem, rfl⟩ := hbehind.exists_info
  simp only [chained, List.map_cons, List.map_nil, List.mem_cons, List.not_mem_nil, or_false] at hmem
  rcases hmem with rfl | rfl | rfl
  · exact absurd (.tail (.single hfirst) hsecond) hoff
  · exact absurd (.tail (.single hsecond) hfirst) hoff
  · decide

/-- Attributes 2 and 3 derive from each other and 1 derives from 2: it is named, but nothing derives
from it. -/
theorem named_off_cycle_of_fed :
    ofList (chained [(1, 2), (2, 3), (3, 2)]) = .error (.cyclicDerivation ⟨1⟩) ∧
      ¬ OnCycle (chained [(1, 2), (2, 3), (3, 2)]) ⟨1⟩ := by
  have hrefused : refusal? (chained [(1, 2), (2, 3), (3, 2)]) = some (.cyclicDerivation ⟨1⟩) := by
    decide +kernel
  refine ⟨ofList_eq_error_iff.2 hrefused, fun honcycle => ?_⟩
  obtain ⟨reader, -, info, hmem, -, hsource⟩ := Relation.TransGen.tail'_iff.1 honcycle
  have hunread : ∀ info ∈ chained [(1, 2), (2, 3), (3, 2)], ¬ info.DerivesFrom ⟨1⟩ := by
    decide
  exact hunread info hmem hsource

end AttributeRegistry

end CharacterSim
