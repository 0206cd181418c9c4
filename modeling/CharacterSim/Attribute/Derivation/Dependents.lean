import CharacterSim.Attribute.Derivation.Order

/-! The dependents of an attribute. The walk from an attribute reaches what derives from it and
nothing else; sorting by rank finds a rank for each of them and puts every one after what it derives
from. -/

namespace CharacterSim.DerivationGraph

variable {graph : DerivationGraph} {id source other : AttributeId}

/-- One attribute derives from another through one or more rules. -/
def Derives (graph : DerivationGraph) (id source : AttributeId) : Prop :=
  Relation.TransGen (fun reader source => reader ∈ graph.readers source) id source

theorem Derives.mem_ids (h : graph.Derives id source) (hcounted : graph.Counted) :
    id ∈ graph.ids := by
  induction h with
  | single hreads => exact hcounted.reader_mem hreads
  | tail _ _ ih => exact ih

theorem Describes.derives_iff {infos : List AttributeInfo} (h : graph.Describes infos) :
    graph.Derives id source ↔ Relation.TransGen (DerivesDirectly infos) id source := by
  have heq : (fun reader source => reader ∈ graph.readers source) = DerivesDirectly infos := by
    funext id source
    exact propext (h.mem_readers id source)
  rw [Derives, heq]

theorem Derives.source_mem_ids (h : graph.Derives id source) (hcounted : graph.Counted) :
    source ∈ graph.ids := by
  cases h with
  | single hreads => exact hcounted.source_mem hreads
  | tail _ hreads => exact hcounted.source_mem hreads

/-- What is reached or on the stack derives from an attribute, and what derives directly from it or
from what is reached is reached or on the stack. -/
structure Exploring (graph : DerivationGraph) (id : AttributeId) (stack : List AttributeId)
    (reached : SortedSet AttributeId) : Prop where
  derives : ∀ other, other ∈ reached ∨ other ∈ stack → graph.Derives other id
  closed : ∀ source, source = id ∨ source ∈ reached → ∀ other ∈ graph.readers source,
    other ∈ reached ∨ other ∈ stack

variable {stack : List AttributeId} {reached : SortedSet AttributeId}

theorem exploring_start : graph.Exploring id (graph.readers id).toList.reverse .empty where
  derives other hmem := by
    refine .single ?_
    simpa [SortedSet.mem_toList_iff] using hmem
  closed source hsource other hreads := by
    rcases hsource with rfl | hmem
    · right
      simpa [SortedSet.mem_toList_iff] using hreads
    · exact absurd hmem (SortedSet.not_mem_empty source)

/-- Nothing is lost with what was reached before. -/
theorem Exploring.dropWhile (h : graph.Exploring id stack reached) :
    graph.Exploring id (stack.dropWhile reached.contains) reached where
  derives other hmem :=
    h.derives other (hmem.imp_right fun hstack => (List.dropWhile_sublist _).subset hstack)
  closed source hsource other hreads := by
    rcases h.closed source hsource other hreads with hmem | hmem
    · exact .inl hmem
    · rw [← List.takeWhile_append_dropWhile (p := reached.contains) (l := stack)] at hmem
      rcases List.mem_append.1 hmem with hmem | hmem
      · exact .inl (List.all_eq_true.1 List.all_takeWhile other hmem)
      · exact .inr hmem

theorem Exploring.reach {next : AttributeId} (h : graph.Exploring id (next :: stack) reached) :
    graph.Exploring id ((graph.readers next).toList.reverse ++ stack) (reached.insert next) where
  derives other hmem := by
    simp only [SortedSet.mem_insert_iff, List.mem_append, List.mem_reverse,
      SortedSet.mem_toList_iff] at hmem
    have hnext : graph.Derives next id := h.derives next (.inr List.mem_cons_self)
    rcases hmem with (rfl | hmem) | hreads | hmem
    · exact hnext
    · exact h.derives other (.inl hmem)
    · exact .trans (.single hreads) hnext
    · exact h.derives other (.inr (List.mem_cons_of_mem _ hmem))
  closed source hsource other hreads := by
    simp only [SortedSet.mem_insert_iff, List.mem_append, List.mem_reverse,
      SortedSet.mem_toList_iff] at hsource ⊢
    by_cases heq : source = next
    · exact .inr (.inl (heq ▸ hreads))
    · have hwalked := hsource.imp_right fun hmem => hmem.resolve_left heq
      have hbefore := h.closed source hwalked other hreads
      rw [List.mem_cons] at hbefore
      grind

/-- The number of attributes that are not reached. -/
def unreached (graph : DerivationGraph) (reached : SortedSet AttributeId) : Nat :=
  graph.ids.countP fun id => !reached.contains id

theorem unreached_insert (hid : id ∈ graph.ids) (hnew : id ∉ reached) :
    graph.unreached reached = graph.unreached (reached.insert id) + 1 := by
  refine countP_eq_add_one nodup_ids hid ?_ ?_ fun other hne => ?_
  · simpa [SortedSet.mem_iff] using hnew
  · simpa [SortedSet.mem_iff] using SortedSet.mem_insert_iff.2 (.inl rfl)
  · have hsame : other ∈ reached.insert id ↔ other ∈ reached := by simp [hne]
    exact congrArg (! ·) (Bool.eq_iff_iff.2 hsame)

theorem Exploring.mem_reached (h : graph.Exploring id [] reached)
    (hderives : graph.Derives other source) (hsource : source = id ∨ source ∈ reached) :
    other ∈ reached := by
  have hclosed : ∀ source, source = id ∨ source ∈ reached → ∀ other ∈ graph.readers source,
      other ∈ reached := fun source hsource other hreads =>
    (h.closed source hsource other hreads).resolve_right List.not_mem_nil
  induction hderives with
  | single hreads => exact hclosed _ hsource other hreads
  | tail _ hreads ih => exact ih (.inr (hclosed _ hsource _ hreads))

/-- With nothing new on the stack the walk is over. -/
theorem Exploring.explore_of_nil (h : graph.Exploring id stack reached)
    (hstack : stack.dropWhile reached.contains = []) (limit : Nat) :
    graph.explore limit stack reached = some reached ∧
      ∀ other, other ∈ reached ↔ graph.Derives other id := by
  have hdrop := h.dropWhile
  rw [hstack] at hdrop
  constructor
  · unfold explore
    simp [hstack]
  · exact fun other => ⟨fun hmem => hdrop.derives other (.inl hmem),
      fun hderives => hdrop.mem_reached hderives (.inl rfl)⟩

/-- The first on the stack that is not reached yet. -/
theorem Exploring.next_new (h : graph.Exploring id stack reached) (hcounted : graph.Counted)
    {next : AttributeId} {rest : List AttributeId}
    (hstack : stack.dropWhile reached.contains = next :: rest) :
    next ∈ graph.ids ∧ next ∉ reached := by
  have hnext : next ∈ stack.dropWhile reached.contains := hstack ▸ List.mem_cons_self
  refine ⟨(h.dropWhile.derives next (.inr hnext)).mem_ids hcounted, ?_⟩
  have hhead := List.head?_dropWhile_not reached.contains stack
  rw [hstack] at hhead
  simpa [SortedSet.mem_iff] using hhead

/-- The walk ends, and reaches exactly what derives from where it began. -/
theorem Exploring.exists_explore (h : graph.Exploring id stack reached) (hcounted : graph.Counted)
    {limit : Nat} (hlimit : graph.unreached reached ≤ limit) :
    ∃ all, graph.explore limit stack reached = some all ∧
      ∀ other, other ∈ all ↔ graph.Derives other id := by
  -- every step reaches a new attribute, so that the steps are as many as the attributes not reached
  induction limit generalizing stack reached with
  | zero =>
    cases hstack : stack.dropWhile reached.contains with
    | nil => exact ⟨reached, h.explore_of_nil hstack 0⟩
    | cons next rest =>
      obtain ⟨hnext, hnew⟩ := h.next_new hcounted hstack
      rw [unreached_insert hnext hnew] at hlimit
      omega
  | succ limit ih =>
    cases hstack : stack.dropWhile reached.contains with
    | nil => exact ⟨reached, h.explore_of_nil hstack _⟩
    | cons next rest =>
      obtain ⟨hnext, hnew⟩ := h.next_new hcounted hstack
      rw [unreached_insert hnext hnew] at hlimit
      have hreach := (hstack ▸ h.dropWhile : graph.Exploring id (next :: rest) reached).reach
      obtain ⟨all, hall, hmem⟩ := ih hreach (Nat.le_of_succ_le_succ hlimit)
      refine ⟨all, ?_, hmem⟩
      unfold explore
      simp [hstack, hall]

/-! ### Ranks -/

variable {order listed : List AttributeId}

theorem get?_ranks (hnodup : order.Nodup) (hmem : id ∈ order) :
    (ranks order).get? id = some (order.idxOf id) := by
  have hkeys : (order.zipIdx.map Prod.fst).Nodup := (List.zipIdx_map_fst 0 order).symm ▸ hnodup
  rw [ranks, SortedMap.get?_ofList_eq_some_iff hkeys, List.mem_zipIdx_iff_getElem?,
    List.getElem?_eq_some_iff]
  exact ⟨List.idxOf_lt_length_of_mem hmem, List.getElem_idxOf _⟩

theorem eq_of_idxOf_eq (hmem : id ∈ order) (hother : other ∈ order)
    (heq : order.idxOf id = order.idxOf other) : id = other := by
  rw [← List.getElem_idxOf (List.idxOf_lt_length_of_mem hmem),
    ← List.getElem_idxOf (List.idxOf_lt_length_of_mem hother)]
  simp only [heq]

/-- Whatever is in an order stands after all that it derives from. -/
theorem Derives.source_before (h : graph.Derives id source) (hnodup : order.Nodup)
    (hfirst : graph.SourcesFirst order) (hmem : id ∈ order) :
    source ∈ order ∧ order.idxOf source < order.idxOf id := by
  have hdirect : ∀ {id source}, id ∈ order → id ∈ graph.readers source →
      source ∈ order ∧ order.idxOf source < order.idxOf id := by
    intro id source hmem hreads
    obtain ⟨earlier, later, rfl⟩ := List.append_of_mem hmem
    have hsource := hfirst earlier id later rfl source hreads
    have hid : id ∉ earlier := fun hearlier =>
      (List.nodup_append.1 hnodup).2.2 id hearlier id List.mem_cons_self rfl
    have hlt := List.idxOf_lt_length_of_mem hsource
    refine ⟨List.mem_append_left _ hsource, ?_⟩
    rw [List.idxOf_append, if_pos hsource, List.idxOf_append, if_neg hid]
    omega
  induction h with
  | single hreads => exact hdirect hmem hreads
  | tail _ hreads ih =>
    obtain ⟨hmiddle, hlt⟩ := ih
    obtain ⟨hsource, hbefore⟩ := hdirect hmiddle hreads
    exact ⟨hsource, Nat.lt_trans hbefore hlt⟩

/-- Whatever derives from an attribute has the higher rank. -/
theorem Derives.idxOf_lt (h : graph.Derives id source) (hnodup : order.Nodup)
    (hfirst : graph.SourcesFirst order) (hmem : ∀ id ∈ graph.ids, id ∈ order)
    (hcounted : graph.Counted) : order.idxOf source < order.idxOf id :=
  (h.source_before hnodup hfirst (hmem id (h.mem_ids hcounted))).2

theorem mapM_eq_some_map {α β : Type} {list : List α} {lookup : α → Option β} {value : α → β}
    (h : ∀ item ∈ list, lookup item = some (value item)) :
    list.mapM lookup = some (list.map value) := by
  induction list with
  | nil => rfl
  | cons item rest ih =>
    obtain ⟨hitem, hrest⟩ := List.forall_mem_cons.1 h
    rw [List.mapM_cons, hitem, ih hrest]
    rfl

/-- Sorting finds the rank of everything listed in the order, and keeps each once. -/
theorem exists_sortByRank (hnodup : order.Nodup) (hlisted : listed.Nodup)
    (hmem : ∀ id ∈ listed, id ∈ order) : ∃ sorted, sortByRank? (ranks order) listed = some sorted ∧
      (∀ id, id ∈ sorted ↔ id ∈ listed) ∧
      sorted.Pairwise fun first second => order.idxOf first < order.idxOf second := by
  have hranked : listed.mapM (fun id => do return (← (ranks order).get? id, id)) =
      some (listed.map fun id => (order.idxOf id, id)) :=
    mapM_eq_some_map fun id hid => by rw [get?_ranks hnodup (hmem id hid)]; rfl
  have hkeys : ((listed.map fun id => (order.idxOf id, id)).map Prod.fst).Nodup := by
    rw [List.map_map, List.Nodup, List.pairwise_map]
    exact hlisted.imp_of_mem fun hfirst hsecond hne heq =>
      hne (eq_of_idxOf_eq (hmem _ hfirst) (hmem _ hsecond) heq)
  have hentries : ∀ rank id, (rank, id) ∈
      (SortedMap.ofList (listed.map fun id => (order.idxOf id, id))).entries ↔
        id ∈ listed ∧ rank = order.idxOf id := fun rank id => by
    rw [← SortedMap.get?_eq_some_iff, SortedMap.get?_ofList_eq_some_iff hkeys, List.mem_map]
    grind
  refine ⟨_, by rw [sortByRank?, hranked]; rfl, fun id => ?_, ?_⟩
  · simp only [SortedMap.values, List.mem_map, Prod.exists, exists_eq_right, hentries]
  · rw [SortedMap.values, List.pairwise_map]
    refine (SortedMap.ascending _).imp_of_mem fun {first second} hfirst hsecond hlt => ?_
    rw [← ((hentries _ _).1 hfirst).2, ← ((hentries _ _).1 hsecond).2]
    exact hlt

/-- All that derives from an attribute is listed, by rank. -/
structure ListsDependents (graph : DerivationGraph) (order : List AttributeId) (id : AttributeId)
    (dependents : List AttributeId) : Prop where
  mem_iff : ∀ other, other ∈ dependents ↔ graph.Derives other id
  ascending : dependents.Pairwise fun first second => order.idxOf first < order.idxOf second

theorem Counted.exists_dependents (h : graph.Counted) (hnodup : order.Nodup)
    (hmem : ∀ id ∈ graph.ids, id ∈ order) (id : AttributeId) :
    ∃ dependents, graph.dependents? (ranks order) id = some dependents ∧
      graph.ListsDependents order id dependents := by
  have hlimit : graph.unreached .empty ≤ graph.ids.length := List.countP_le_length
  obtain ⟨reached, hreached, hderives⟩ :=
    (exploring_start : graph.Exploring id _ _).exists_explore h hlimit
  obtain ⟨sorted, hsorted, hsame, hpairwise⟩ := exists_sortByRank hnodup reached.toMap.keys_nodup
    fun other hother => hmem other <| Derives.mem_ids
      ((hderives other).1 (SortedSet.mem_toList_iff.1 hother)) h
  refine ⟨sorted, ?_, fun other => ?_, hpairwise⟩
  · rw [dependents?, hreached]
    exact hsorted
  · rw [hsame, ← hderives]
    exact SortedSet.mem_toList_iff

/-- The dependents of every attribute are listed; nothing derives from what is not known. -/
theorem Counted.exists_allDependents (h : graph.Counted) (hnodup : order.Nodup)
    (hmem : ∀ id ∈ graph.ids, id ∈ order) : ∃ all, graph.allDependents? order = some all ∧
      ∀ id, graph.ListsDependents order id ((all.get? id).getD []) := by
  let dependentsOf := fun id => (graph.dependents? (ranks order) id).getD []
  have hone : ∀ id, graph.dependents? (ranks order) id = some (dependentsOf id) ∧
      graph.ListsDependents order id (dependentsOf id) := fun id => by
    obtain ⟨dependents, hdependents, hlists⟩ := h.exists_dependents hnodup hmem id
    have heq : dependentsOf id = dependents := by
      simp only [dependentsOf, hdependents, Option.getD_some]
    exact ⟨heq ▸ hdependents, heq ▸ hlists⟩
  have hall : graph.ids.mapM (fun id => do return (id, ← graph.dependents? (ranks order) id)) =
      some (graph.ids.map fun id => (id, dependentsOf id)) :=
    mapM_eq_some_map fun id _ => by rw [(hone id).1]; rfl
  have hkeys : ((graph.ids.map fun id => (id, dependentsOf id)).map Prod.fst).Nodup := by
    rw [List.map_map]
    exact (List.map_id' graph.ids).symm ▸ nodup_ids
  have hget : ∀ id dependents,
      (SortedMap.ofList (graph.ids.map fun id => (id, dependentsOf id))).get? id = some dependents ↔
        id ∈ graph.ids ∧ dependents = dependentsOf id := fun id dependents => by
    rw [SortedMap.get?_ofList_eq_some_iff hkeys, List.mem_map]
    grind
  refine ⟨_, by rw [allDependents?, hall]; rfl, fun id => ?_⟩
  by_cases hid : id ∈ graph.ids
  · rw [(hget id _).2 ⟨hid, rfl⟩]
    exact (hone id).2
  · rw [Option.eq_none_iff_forall_ne_some.2 fun dependents hsome => hid ((hget id _).1 hsome).1]
    refine ⟨fun other => iff_of_false List.not_mem_nil fun hderives => hid ?_, .nil⟩
    exact hderives.source_mem_ids h

end CharacterSim.DerivationGraph
