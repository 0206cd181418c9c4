import CharacterSim.Attribute.Derivation.Counts

/-! Putting attributes into derivation order. As each count is that of the sources not placed yet,
no count is taken below zero, every attribute is placed at most once, and what is placed follows its
sources. -/

namespace CharacterSim.DerivationGraph

variable {graph : DerivationGraph} {id source other : AttributeId}

/-- Every attribute comes after all that it derives from directly. -/
def SourcesFirst (graph : DerivationGraph) (order : List AttributeId) : Prop :=
  ∀ earlier id later, order = earlier ++ id :: later →
    ∀ source, id ∈ graph.readers source → source ∈ earlier

theorem SourcesFirst.concat {order : List AttributeId} (h : graph.SourcesFirst order)
    (hsources : ∀ source, id ∈ graph.readers source → source ∈ order) :
    graph.SourcesFirst (order ++ [id]) := by
  intro earlier last later heq source hreads
  rcases List.eq_nil_or_concat later with rfl | ⟨later, final, rfl⟩
  · obtain ⟨rfl, hlast⟩ := List.append_inj' heq rfl
    obtain rfl : id = last := by simpa using hlast
    exact hsources source hreads
  · rw [List.concat_eq_append, ← List.cons_append, ← List.append_assoc] at heq
    exact h earlier last later (List.append_inj' heq rfl).1 source hreads

/-- The counts tell how many sources each attribute waits for, where one source of each of those
that are due is placed but not yet taken off. Those that wait for none are placed or ready. -/
structure Placing (graph : DerivationGraph) (schedule : Schedule) (due : List AttributeId) :
    Prop where
  degrees : ∀ id ∈ graph.ids, schedule.degrees.get? id =
    some (graph.unmet schedule.order id + if id ∈ due then 1 else 0)
  ids : schedule.degrees.keys = graph.ids
  nodup : (schedule.order ++ schedule.ready).Nodup
  listed : ∀ id, id ∈ schedule.order ++ schedule.ready ↔ schedule.degrees.get? id = some 0
  sourcesFirst : graph.SourcesFirst schedule.order

variable {schedule : Schedule} {due ready : List AttributeId}

theorem Placing.mem_ids (h : graph.Placing schedule due)
    (hmem : id ∈ schedule.order ++ schedule.ready) : id ∈ graph.ids := by
  rw [← h.ids]
  exact SortedMap.mem_keys_iff.2 ⟨0, (h.listed id).1 hmem⟩

theorem Counted.placing_start (h : graph.Counted) : graph.Placing graph.start [] where
  degrees id hid := by simpa [start] using h.degrees id hid
  ids := rfl
  nodup := nodup_ids.sublist List.filter_sublist
  listed id := by
    simp only [start, List.nil_append, List.mem_filter, beq_iff_eq, and_iff_right_iff_imp]
    exact fun hzero => mem_ids_iff.2 ⟨0, hzero⟩
  sourcesFirst earlier id later hnil := by simp [start] at hnil

/-- A source of each that is due is taken off, and there is always one to take off. -/
theorem Placing.release (h : graph.Placing schedule (id :: due)) (hid : id ∈ graph.ids)
    (hnodup : id ∉ due) : ∃ after, schedule.release id = some after ∧ graph.Placing after due ∧
      after.order = schedule.order := by
  have hdegree := h.degrees id hid
  rw [if_pos List.mem_cons_self] at hdegree
  have hunlisted : id ∉ schedule.order ++ schedule.ready := fun hmem => by
    rw [h.listed, hdegree] at hmem
    simp at hmem
  unfold Schedule.release
  rw [hdegree, Option.getD_some]
  refine ⟨_, rfl, ⟨fun other hother => ?_, ?_, ?_, fun other => ?_, h.sourcesFirst⟩, rfl⟩
  · dsimp only
    rw [SortedMap.get?_insert]
    split
    · next heq => simp [heq, hnodup]
    · next hne => simp [h.degrees other hother, hne]
  · exact (SortedMap.keys_insert_of_mem (h.ids.symm ▸ hid) _).trans h.ids
  · dsimp only
    split
    · rw [← List.append_assoc]
      refine List.nodup_append.2 ⟨h.nodup, by simp, ?_⟩
      rintro first hfirst second hsecond rfl
      exact hunlisted (List.mem_singleton.1 hsecond ▸ hfirst)
    · exact h.nodup
  · dsimp only
    have hlisted := h.listed other
    rw [SortedMap.get?_insert]
    by_cases heq : other = id
    · subst heq
      by_cases hzero : graph.unmet schedule.order other = 0
      · simp [hzero]
      · simpa [hzero] using hunlisted
    · by_cases hzero : graph.unmet schedule.order id = 0
      · simpa [hzero, heq] using hlisted
      · simpa [hzero, heq] using hlisted

theorem Placing.foldlM_release (h : graph.Placing schedule due) (hnodup : due.Nodup)
    (hdue : ∀ id ∈ due, id ∈ graph.ids) : ∃ after,
      due.foldlM Schedule.release schedule = some after ∧ graph.Placing after [] ∧
        after.order = schedule.order := by
  induction due generalizing schedule with
  | nil => exact ⟨schedule, rfl, h, rfl⟩
  | cons id rest ih =>
    obtain ⟨hid, hrest⟩ := List.nodup_cons.1 hnodup
    obtain ⟨hknown, hdue⟩ := List.forall_mem_cons.1 hdue
    obtain ⟨middle, hmiddle, hplacing, horder⟩ := h.release hknown hid
    obtain ⟨after, hafter, hdone, hsame⟩ := ih hplacing hrest hdue
    rw [List.foldlM_cons, hmiddle]
    exact ⟨after, hafter, hdone, hsame.trans horder⟩

/-- What is ready next is known, and not placed yet. -/
theorem Placing.next_ready (h : graph.Placing schedule due)
    (hready : schedule.ready = id :: ready) : id ∈ graph.ids ∧ id ∉ schedule.order := by
  have hnodup := h.nodup
  rw [hready, List.nodup_append] at hnodup
  exact ⟨h.mem_ids (by simp [hready]),
    fun hplaced => hnodup.2.2 id hplaced id List.mem_cons_self rfl⟩

/-- A ready attribute has all its sources placed; placing it makes those due that derive from it. -/
theorem Placing.place (h : graph.Placing schedule []) (hcounted : graph.Counted)
    (hready : schedule.ready = id :: ready) :
    graph.Placing { schedule with ready, order := schedule.order ++ [id] }
      (graph.readers id).toList := by
  have hsame : (schedule.order ++ [id]) ++ ready = schedule.order ++ schedule.ready := by
    rw [hready, List.append_assoc, List.singleton_append]
  obtain ⟨hid, hfree⟩ := h.next_ready hready
  have hmet : graph.unmet schedule.order id = 0 := by
    have hdegree := h.degrees id hid
    rw [(h.listed id).1 (by simp [hready])] at hdegree
    simpa using hdegree.symm
  refine ⟨fun other hother => ?_, h.ids, hsame ▸ h.nodup, fun other => hsame ▸ h.listed other,
    h.sourcesFirst.concat fun source hreads => ?_⟩
  · rw [h.degrees other hother, unmet, unmet]
    simp only [List.not_mem_nil, if_false, Nat.add_zero, Option.some.injEq]
    split
    · next hreads =>
      rw [SortedSet.mem_toList_iff, SortedSet.mem_iff] at hreads
      refine countP_eq_add_one nodup_ids hid ?_ ?_ fun source hne => ?_
      · simpa [hfree] using hreads
      · simp
      · simp [hne]
    · next hreads =>
      rw [SortedSet.mem_toList_iff, SortedSet.mem_iff] at hreads
      refine List.countP_congr fun source _ => ?_
      by_cases heq : source = id
      · subst heq
        simp [hreads]
      · simp [heq]
  · have hnone := List.countP_eq_zero.1 hmet source (hcounted.source_mem hreads)
    rw [SortedSet.mem_iff] at hreads
    simpa [hreads] using hnone

/-- The number of attributes that are not placed. -/
def unplaced (graph : DerivationGraph) (order : List AttributeId) : Nat :=
  graph.ids.countP fun id => !order.contains id

theorem unplaced_concat {order : List AttributeId} (hid : id ∈ graph.ids) (hfree : id ∉ order) :
    graph.unplaced order = graph.unplaced (order ++ [id]) + 1 := by
  refine countP_eq_add_one nodup_ids hid (by simpa using hfree) (by simp) fun other hne => ?_
  simp [hne]

theorem run_of_ready_nil (limit : Nat) (h : schedule.ready = []) :
    graph.run limit schedule = some schedule := by
  unfold run
  simp [h]

/-- Attributes get placed, each with its sources before it, until none is ready. -/
theorem Placing.exists_run (h : graph.Placing schedule []) (hcounted : graph.Counted) {limit : Nat}
    (hlimit : graph.unplaced schedule.order ≤ limit) :
    ∃ after, graph.run limit schedule = some after ∧ graph.Placing after [] ∧ after.ready = [] := by
  induction limit generalizing schedule with
  | zero =>
    cases hready : schedule.ready with
    | nil => exact ⟨schedule, run_of_ready_nil 0 hready, h, hready⟩
    | cons id ready =>
      obtain ⟨hid, hfree⟩ := h.next_ready hready
      rw [unplaced_concat hid hfree] at hlimit
      omega
  | succ limit ih =>
    cases hready : schedule.ready with
    | nil => exact ⟨schedule, run_of_ready_nil _ hready, h, hready⟩
    | cons id ready =>
      obtain ⟨hid, hfree⟩ := h.next_ready hready
      rw [unplaced_concat hid hfree] at hlimit
      obtain ⟨middle, hmiddle, hplacing, horder⟩ := (h.place hcounted hready).foldlM_release
        (graph.readers id).toMap.keys_nodup
        fun other hmem => hcounted.reader_mem (SortedSet.mem_toList_iff.1 hmem)
      obtain ⟨after, hafter, hdone, hnone⟩ := ih hplacing (horder ▸ Nat.le_of_succ_le_succ hlimit)
      refine ⟨after, ?_, hdone, hnone⟩
      unfold run
      simp [hready, hmiddle, hafter]

/-- Known attributes, each once and after its sources, and every one whose sources are all among
them. -/
structure Saturated (graph : DerivationGraph) (order : List AttributeId) : Prop where
  nodup : order.Nodup
  known : ∀ id ∈ order, id ∈ graph.ids
  sourcesFirst : graph.SourcesFirst order
  closed : ∀ id ∈ graph.ids, (∀ source, id ∈ graph.readers source → source ∈ order) → id ∈ order

theorem Placing.saturated (h : graph.Placing schedule []) (hnone : schedule.ready = []) :
    graph.Saturated schedule.order where
  nodup := by simpa [hnone] using h.nodup
  known id hmem := h.mem_ids (List.mem_append_left _ hmem)
  sourcesFirst := h.sourcesFirst
  closed id hid hsources := by
    have hmet : graph.unmet schedule.order id = 0 := List.countP_eq_zero.2 fun source _ => by
      have hplaced := hsources source
      rw [SortedSet.mem_iff] at hplaced
      simpa using hplaced
    have hlisted := h.listed id
    rw [hnone, List.append_nil, h.degrees id hid, hmet] at hlisted
    exact hlisted.2 rfl

theorem length_add_unplaced {order : List AttributeId} (hnodup : order.Nodup)
    (hknown : ∀ id ∈ order, id ∈ graph.ids) :
    order.length + graph.unplaced order = graph.ids.length := by
  induction order with
  | nil => simp [unplaced]
  | cons id rest ih =>
    obtain ⟨hfree, hrest⟩ := List.nodup_cons.1 hnodup
    obtain ⟨hid, hknown⟩ := List.forall_mem_cons.1 hknown
    have hone : graph.unplaced rest = graph.unplaced (id :: rest) + 1 :=
      countP_eq_add_one nodup_ids hid (by simpa using hfree) (by simp) fun other hne => by
        simp [hne]
    rw [← ih hrest hknown, hone, List.length_cons]
    omega

/-- The first of the known attributes that an order does not hold. -/
structure FirstMissing (graph : DerivationGraph) (order : List AttributeId) (id : AttributeId) :
    Prop where
  known : id ∈ graph.ids
  missing : id ∉ order
  first : ∀ other ∈ graph.ids, other ∉ order → rank id ≤ rank other

/-- When none is ready, those that still wait are those that are not placed, and the first of either
is found. -/
theorem Placing.find?_waiting (h : graph.Placing schedule []) (hnone : schedule.ready = [])
    (hmissing : ∃ id ∈ graph.ids, id ∉ schedule.order) :
    ∃ entry, schedule.degrees.entries.find? (fun entry => 0 < entry.2) = some entry ∧
      graph.FirstMissing schedule.order entry.1 := by
  have hwaits : ∀ id degree, (id, degree) ∈ schedule.degrees.entries →
      (0 < degree ↔ id ∉ schedule.order) := by
    intro id degree hmem
    have hlisted := h.listed id
    rw [hnone, List.append_nil, SortedMap.get?_eq_some_iff.2 hmem, Option.some.injEq] at hlisted
    rw [hlisted]
    exact Nat.pos_iff_ne_zero
  have hentry : ∀ id ∈ graph.ids, ∃ degree, (id, degree) ∈ schedule.degrees.entries := by
    intro id hid
    rw [← h.ids] at hid
    obtain ⟨degree, hdegree⟩ := SortedMap.mem_keys_iff.1 hid
    exact ⟨degree, SortedMap.get?_eq_some_iff.1 hdegree⟩
  have hfound : (schedule.degrees.entries.find? (fun entry => 0 < entry.2)).isSome := by
    obtain ⟨id, hid, hfree⟩ := hmissing
    obtain ⟨degree, hmem⟩ := hentry id hid
    exact List.find?_isSome.2 ⟨_, hmem, decide_eq_true ((hwaits id degree hmem).2 hfree)⟩
  obtain ⟨⟨id, degree⟩, hfind⟩ := Option.isSome_iff_exists.1 hfound
  obtain ⟨hpositive, before, after, hsplit, hbefore⟩ := List.find?_eq_some_iff_append.1 hfind
  have hmem : (id, degree) ∈ schedule.degrees.entries := hsplit ▸ by simp
  refine ⟨(id, degree), hfind, ?_, (hwaits id degree hmem).1 (of_decide_eq_true hpositive), ?_⟩
  · rw [← h.ids]
    exact List.mem_map_of_mem hmem
  · intro other hother hfree
    obtain ⟨waits, hwaiting⟩ := hentry other hother
    have hpositive := (hwaits other waits hwaiting).2 hfree
    have hascending := schedule.degrees.ascending
    rw [hsplit] at hwaiting hascending
    rcases List.mem_append.1 hwaiting with hearlier | hlater
    · have hzero := hbefore _ hearlier
      simp only [Bool.not_eq_true', decide_eq_false_iff_not] at hzero
      exact absurd hpositive hzero
    · rcases List.mem_cons.1 hlater with heq | hlater
      · cases heq
        exact Nat.le_refl _
      · have hrest := (List.pairwise_append.1 hascending).2.1
        exact Nat.le_of_lt ((List.pairwise_cons.1 hrest).1 _ hlater)

/-- Scheduling ends with a saturated order, which it returns if it holds every attribute; otherwise it
names the first that the order does not hold. -/
theorem Counted.exists_order (h : graph.Counted) : ∃ order, graph.Saturated order ∧
    ((∀ id ∈ graph.ids, id ∈ order) ∧ graph.order? = some (.ok order) ∨
      ∃ stuck, graph.FirstMissing order stuck ∧ graph.order? = some (.error stuck)) := by
  have hlimit : graph.unplaced graph.start.order ≤ graph.ids.length := List.countP_le_length
  obtain ⟨schedule, hrun, hplacing, hnone⟩ := h.placing_start.exists_run h hlimit
  have hsaturated := hplacing.saturated hnone
  have hcount := length_add_unplaced hsaturated.nodup hsaturated.known
  have hsize : schedule.degrees.size = graph.ids.length := by
    rw [← hplacing.ids, SortedMap.keys, List.length_map]
    rfl
  refine ⟨schedule.order, hsaturated, ?_⟩
  by_cases hfull : schedule.order.length = graph.ids.length
  · left
    have hnone : graph.unplaced schedule.order = 0 := by omega
    refine ⟨fun id hid => by simpa using List.countP_eq_zero.1 hnone id hid, ?_⟩
    simp [order?, hrun, hsize, hfull]
  · right
    have hsome : 0 < graph.unplaced schedule.order := by omega
    obtain ⟨id, hid, hfree⟩ := List.countP_pos_iff.1 hsome
    obtain ⟨entry, hfind, hfirst⟩ :=
      hplacing.find?_waiting hnone ⟨id, hid, by simpa using hfree⟩
    exact ⟨entry.1, hfirst, by simp [order?, hrun, hsize, hfull, hfind]⟩

end CharacterSim.DerivationGraph
