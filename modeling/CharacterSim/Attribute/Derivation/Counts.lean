import CharacterSim.Attribute.Derivation

/-! The graph of definitions counts for each attribute the sources it derives from. -/

namespace CharacterSim

/-- An element that no longer satisfies a predicate is one less that does. -/
theorem countP_eq_add_one {α : Type} {list : List α} (hnodup : list.Nodup)
    {before after : α → Bool} {item : α} (hmem : item ∈ list) (hbefore : before item = true)
    (hafter : after item = false) (hothers : ∀ other, other ≠ item → after other = before other) :
    list.countP before = list.countP after + 1 := by
  induction list with
  | nil => cases hmem
  | cons head rest ih =>
    obtain ⟨hhead, hrest⟩ := List.nodup_cons.1 hnodup
    rw [List.countP_cons, List.countP_cons]
    rcases List.mem_cons.1 hmem with rfl | hmem
    · have hsame : rest.countP before = rest.countP after :=
        List.countP_congr fun other hother => by
          rw [hothers other fun heq => hhead (heq ▸ hother)]
      simp [hbefore, hafter, hsame]
    · rw [ih hrest hmem, hothers head fun heq => hhead (heq ▸ hmem)]
      omega

/-- One attribute derives from another by a single rule of the listed definitions. -/
def DerivesDirectly (infos : List AttributeInfo) (id source : AttributeId) : Prop :=
  ∃ info ∈ infos, info.id = id ∧ info.DerivesFrom source

namespace DerivationGraph

variable {graph : DerivationGraph} {id source dependent other : AttributeId}

/-- The number of sources of an attribute that are not placed. -/
def unmet (graph : DerivationGraph) (placed : List AttributeId) (id : AttributeId) : Nat :=
  graph.ids.countP fun source => (graph.readers source).contains id && !placed.contains source

/-- Edges join known attributes, and each attribute counts its sources. -/
structure Counted (graph : DerivationGraph) : Prop where
  source_mem : ∀ {source id}, id ∈ graph.readers source → source ∈ graph.ids
  reader_mem : ∀ {source id}, id ∈ graph.readers source → id ∈ graph.ids
  degrees : ∀ id ∈ graph.ids, graph.degrees.get? id = some (graph.unmet [] id)

theorem nodup_ids : graph.ids.Nodup := graph.degrees.keys_nodup

theorem mem_ids_iff : id ∈ graph.ids ↔ ∃ degree, graph.degrees.get? id = some degree :=
  SortedMap.mem_keys_iff

theorem mem_readers_link : other ∈ (link dependent graph source).readers id ↔
    other ∈ graph.readers id ∨ id = source ∧ other = dependent := by
  unfold link
  split
  · next hknown =>
    constructor
    · exact .inl
    · rintro (hmem | ⟨rfl, rfl⟩)
      · exact hmem
      · exact hknown
  · rw [readers, SortedMap.get?_insert]
    split
    · next heq =>
      subst heq
      simp [or_comm]
    · next hne => simp [readers, hne]

theorem ids_link (h : dependent ∈ graph.ids) : (link dependent graph source).ids = graph.ids := by
  unfold link
  split
  · rfl
  · exact SortedMap.keys_insert_of_mem h _

theorem Counted.linked (h : graph.Counted) (hsource : source ∈ graph.ids)
    (hdependent : dependent ∈ graph.ids) : (link dependent graph source).Counted := by
  have hids : (link dependent graph source).ids = graph.ids := ids_link hdependent
  refine ⟨fun hmem => ?_, fun hmem => ?_, fun id hid => ?_⟩
  · rw [hids]
    rcases mem_readers_link.1 hmem with hmem | ⟨rfl, rfl⟩
    · exact h.source_mem hmem
    · exact hsource
  · rw [hids]
    rcases mem_readers_link.1 hmem with hmem | ⟨rfl, rfl⟩
    · exact h.reader_mem hmem
    · exact hdependent
  · rw [hids] at hid
    have hreaders : ∀ other, ((link dependent graph source).readers other).contains id =
        ((graph.readers other).contains id || (other == source && id == dependent)) := fun other =>
      Bool.eq_iff_iff.2 (by simpa [SortedSet.mem_iff] using mem_readers_link)
    by_cases hknown : (graph.readers source).contains dependent = true
    · have hlink : link dependent graph source = graph := if_pos hknown
      rw [hlink]
      exact h.degrees id hid
    · have hdegrees : (link dependent graph source).degrees =
          graph.degrees.insert dependent ((graph.degrees.get? dependent).getD 0 + 1) := by
        rw [link, if_neg hknown]
      rw [hdegrees, SortedMap.get?_insert, unmet, hids]
      split
      · next heq =>
        subst heq
        rw [h.degrees id hid, Option.getD_some, unmet]
        congr 1
        refine (countP_eq_add_one nodup_ids hsource ?_ ?_ fun other hne => ?_).symm
        · simp [hreaders]
        · simpa using hknown
        · simp [hreaders, hne]
      · next hne =>
        rw [h.degrees id hid, unmet]
        congr 1
        exact List.countP_congr fun other _ => by simp [hreaders, hne]

/-- The graph of definitions knows what is defined, and its edges are the rules. -/
structure Describes (graph : DerivationGraph) (infos : List AttributeInfo) : Prop where
  counted : graph.Counted
  mem_ids : ∀ id, id ∈ graph.ids ↔ ∃ info ∈ infos, info.id = id
  mem_readers : ∀ id source, id ∈ graph.readers source ↔ DerivesDirectly infos id source

theorem Counted.foldl_link (h : graph.Counted) (hdependent : dependent ∈ graph.ids)
    {sources : List AttributeId} (hsources : ∀ source ∈ sources, source ∈ graph.ids) :
    (sources.foldl (link dependent) graph).Counted ∧
      (sources.foldl (link dependent) graph).ids = graph.ids ∧
      ∀ id source, id ∈ (sources.foldl (link dependent) graph).readers source ↔
        id ∈ graph.readers source ∨ id = dependent ∧ source ∈ sources := by
  induction sources generalizing graph with
  | nil => simp [h]
  | cons source rest ih =>
    obtain ⟨hsource, hrest⟩ := List.forall_mem_cons.1 hsources
    have hids : (link dependent graph source).ids = graph.ids := ids_link hdependent
    obtain ⟨hcounted, hsame, hreaders⟩ := ih (h.linked hsource hdependent) (hids ▸ hdependent)
      fun other hmem => hids ▸ hrest other hmem
    refine ⟨hcounted, hsame.trans hids, fun id other => ?_⟩
    rw [List.foldl_cons, hreaders, mem_readers_link, List.mem_cons]
    grind

theorem Counted.foldl_infos (h : graph.Counted) {infos : List AttributeInfo}
    (hids : ∀ info ∈ infos, info.id ∈ graph.ids)
    (hsources : ∀ info ∈ infos, ∀ source ∈ info.sources, source ∈ graph.ids) :
    let after := infos.foldl (fun graph info => info.sources.foldl (link info.id) graph) graph
    after.Counted ∧ after.ids = graph.ids ∧ ∀ id source, id ∈ after.readers source ↔
      id ∈ graph.readers source ∨ DerivesDirectly infos id source := by
  simp only [DerivesDirectly, ← AttributeInfo.mem_sources_iff]
  induction infos generalizing graph with
  | nil => simp [h]
  | cons info rest ih =>
    obtain ⟨hid, hids⟩ := List.forall_mem_cons.1 hids
    obtain ⟨hsource, hsources⟩ := List.forall_mem_cons.1 hsources
    obtain ⟨hlinked, hsame, hreaders⟩ := h.foldl_link hid hsource
    obtain ⟨hcounted, hlast, hlater⟩ := ih hlinked (fun other hmem => hsame ▸ hids other hmem)
      fun other hmem source hsource => hsame ▸ hsources other hmem source hsource
    refine ⟨hcounted, hlast.trans hsame, fun id source => ?_⟩
    rw [List.foldl_cons, hlater, hreaders]
    simp only [List.mem_cons, exists_eq_or_imp]
    grind

theorem describes_ofInfos {infos : List AttributeInfo} (hdistinct : (infos.map (·.id)).Nodup)
    (hknown : ∀ info ∈ infos, ∀ source ∈ info.sources, ∃ other ∈ infos, other.id = source) :
    (ofInfos infos).Describes infos := by
  have hdegrees : ∀ id degree, (SortedMap.ofList (infos.map fun info => (info.id, 0))).get? id =
      some degree ↔ degree = 0 ∧ ∃ info ∈ infos, info.id = id := fun id degree => by
    rw [SortedMap.get?_ofList_eq_some_iff (by rw [List.map_map]; exact hdistinct), List.mem_map]
    grind
  let bare : DerivationGraph :=
    { direct := .empty, degrees := .ofList (infos.map fun info => (info.id, 0)) }
  have hids : ∀ id, id ∈ bare.ids ↔ ∃ info ∈ infos, info.id = id := fun id => by
    rw [mem_ids_iff]
    simp [bare, hdegrees]
  have hbare : ∀ source, bare.readers source = .empty := fun source => rfl
  have hcounted : bare.Counted := by
    refine ⟨fun hmem => absurd hmem (SortedSet.not_mem_empty _),
      fun hmem => absurd hmem (SortedSet.not_mem_empty _), fun id hid => ?_⟩
    have hzero : bare.unmet [] id = 0 :=
      List.countP_eq_zero.2 fun source _ => by
        rw [hbare]; simp [SortedSet.contains, SortedSet.empty, SortedMap.contains]
    exact hzero ▸ (hdegrees id 0).2 ⟨rfl, (hids id).1 hid⟩
  obtain ⟨hafter, hsame, hreaders⟩ := hcounted.foldl_infos
    (fun info hmem => (hids info.id).2 ⟨info, hmem, rfl⟩)
    fun info hmem source hsource => (hids source).2 (hknown info hmem source hsource)
  refine ⟨hafter, fun id => hsame ▸ hids id, fun id source => ?_⟩
  refine (hreaders id source).trans (or_iff_right fun hmem => ?_)
  exact SortedSet.not_mem_empty id hmem

end DerivationGraph

end CharacterSim
