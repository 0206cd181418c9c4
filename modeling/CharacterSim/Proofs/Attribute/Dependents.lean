import CharacterSim.Proofs.Attribute.Acceptance

/-! The dependents of an attribute. They are what derives from it through one rule or more, each
once, and each after all of them that it derives from itself. -/

namespace CharacterSim.AttributeRegistry

variable {infos : List AttributeInfo} {registry : AttributeRegistry}

/-- In a list ordered by a measure, what measures less comes first. -/
theorem pair_sublist_of_pairwise {α : Type} {measure : α → Nat} {list : List α}
    (h : list.Pairwise fun first second => measure first < measure second) {first second : α}
    (hfirst : first ∈ list) (hsecond : second ∈ list) (hlt : measure first < measure second) :
    [first, second].Sublist list := by
  obtain ⟨earlier, later, rfl⟩ := List.append_of_mem hfirst
  have hlater : second ∈ later := by
    rcases List.mem_append.1 hsecond with hearlier | hmem
    · have hgt := (List.pairwise_append.1 h).2.2 second hearlier first List.mem_cons_self
      omega
    · rcases List.mem_cons.1 hmem with rfl | hmem
      · omega
      · exact hmem
  have hpair : [first, second].Sublist (first :: later) :=
    List.Sublist.cons_cons first (List.singleton_sublist.2 hlater)
  exact hpair.trans (List.sublist_append_right earlier _)

/-- No attribute of a catalog derives from itself. -/
theorem Coherent.acyclic (h : registry.Coherent) (id : AttributeId) :
    ¬ Relation.TransGen registry.Reads id id := by
  obtain ⟨order, hsaturated, hfull, -⟩ := h.ordered
  have hcounted := (h.indexed.describes_graph h.known).counted
  rw [← h.derives_iff]
  exact hsaturated.acyclic hcounted hfull id

theorem Coherent.nodup_dependents (h : registry.Coherent) (id : AttributeId) :
    (registry.dependents id).Nodup := by
  obtain ⟨order, -, -, hlists⟩ := h.ordered
  exact (hlists id).ascending.imp fun hlt heq => Nat.ne_of_lt hlt (congrArg order.idxOf heq)

/-- Among the dependents of an attribute each follows what it derives from. -/
theorem Coherent.pair_sublist_dependents (h : registry.Coherent) {id first second : AttributeId}
    (hfirst : first ∈ registry.dependents id) (hsecond : second ∈ registry.dependents id)
    (hderives : Relation.TransGen registry.Reads second first) :
    [first, second].Sublist (registry.dependents id) := by
  obtain ⟨order, hsaturated, hfull, hlists⟩ := h.ordered
  have hcounted := (h.indexed.describes_graph h.known).counted
  apply pair_sublist_of_pairwise (hlists id).ascending hfirst hsecond
  exact (h.derives_iff.2 hderives).idxOf_lt hsaturated.nodup hsaturated.sourcesFirst hfull hcounted

/-- The dependents of an attribute are all that derives from it through the listed rules, without
repetition, and none comes before what it derives from. -/
theorem dependents_are_derived (h : ofList infos = .ok registry) (id : AttributeId) :
    (∀ other, other ∈ registry.dependents id ↔
        Relation.TransGen (DerivesDirectly infos) other id) ∧
      (registry.dependents id).Nodup ∧ id ∉ registry.dependents id ∧
      (∀ first ∈ registry.dependents id, ∀ second ∈ registry.dependents id,
        Relation.TransGen (DerivesDirectly infos) second first →
          [first, second].Sublist (registry.dependents id)) ∧
      (registry.get? id = none → registry.dependents id = []) := by
  have hdescribes := describes_graph h
  have hcoherent := Accepted.coherent ⟨infos, h⟩
  obtain ⟨order, hsaturated, hfull, hlists⟩ := hcoherent.ordered
  obtain ⟨hmem, hascending⟩ := hlists id
  have hacyclic := hsaturated.acyclic hdescribes.counted hfull
  refine ⟨fun other => (hmem other).trans hdescribes.derives_iff, ?_, ?_, ?_, ?_⟩
  · exact hascending.imp fun hlt heq => Nat.ne_of_lt hlt (congrArg order.idxOf heq)
  · exact fun hself => hacyclic id ((hmem id).1 hself)
  · intro first hfirst second hsecond hderives
    apply pair_sublist_of_pairwise hascending hfirst hsecond
    exact (hdescribes.derives_iff.2 hderives).idxOf_lt hsaturated.nodup hsaturated.sourcesFirst
      hfull hdescribes.counted
  · intro hunknown
    apply List.eq_nil_iff_forall_not_mem.2
    intro other hother
    -- a rule reads attributes of the catalog only
    have hid := ((hmem other).1 hother).source_mem_ids hdescribes.counted
    have hgraph := hcoherent.indexed.describes_graph hcoherent.known
    obtain ⟨info, hinfo, hsame⟩ := (hgraph.mem_ids id).1 hid
    have hget : registry.get? id = some info := hsame ▸ hcoherent.indexed.mem_values_iff.1 hinfo
    rw [hunknown] at hget
    cases hget

/-- What derives from strength in the sample catalog is full vitality. -/
theorem mem_dependents_sample : AttributeId.maxHp ∈ sample.dependents ⟨1⟩ := by
  have hdirect : DerivesDirectly sampleInfos .maxHp ⟨1⟩ := by
    refine ⟨_, List.mem_cons_of_mem _ List.mem_cons_self, rfl, ?_⟩
    decide
  exact ((dependents_are_derived ofList_sampleInfos ⟨1⟩).1 .maxHp).2 (.single hdirect)

end CharacterSim.AttributeRegistry
