import CharacterSim.Proofs.Character.Construction
import CharacterSim.Proofs.Collections.Latest

/-! What the account server is told of a character. Changed attributes are reported whenever the
character takes note of its changes, with one exception: marking every attribute forgets the changes
that were not reported yet. -/

namespace CharacterSim

namespace Effect

/-- The reports among effects, each under its attribute. -/
def reports (effects : List Effect) : List (AttributeId × AttributeUpdate) :=
  (effects.filterMap update?).map fun update => (update.id, update)

/-- The last report of an attribute. -/
def lastReport (effects : List Effect) : AttributeId → Option AttributeUpdate :=
  latest (reports effects)

variable {effects : List Effect}

theorem reports_append (more : List Effect) :
    reports (effects ++ more) = reports effects ++ reports more := by
  rw [reports, List.filterMap_append, List.map_append]
  rfl

theorem lastReport_append (more : List Effect) (id : AttributeId) :
    lastReport (effects ++ more) id = (lastReport more id).or (lastReport effects id) := by
  rw [lastReport, reports_append, latest_append]
  rfl

theorem reports_of_quiet (h : ∀ effect ∈ effects, effect.Quiet) : reports effects = [] := by
  have hnone : effects.filterMap update? = [] := by
    refine List.filterMap_eq_nil_iff.2 fun effect hmem => ?_
    have hquiet := h effect hmem
    cases effect with
    | reported update => cases hquiet
    | _ => rfl
  rw [reports, hnone]
  rfl

theorem lastReport_of_quiet (h : ∀ effect ∈ effects, effect.Quiet) (id : AttributeId) :
    lastReport effects id = none := by
  rw [lastReport, reports_of_quiet h]
  rfl

theorem lastReport_map_delivery (client : Option ClientId) (messages : List Message)
    (id : AttributeId) : lastReport (messages.map (Character.delivery client)) id = none := by
  have hnone : (messages.map (Character.delivery client)).filterMap update? = [] := by
    refine List.filterMap_eq_nil_iff.2 fun effect hmem => ?_
    obtain ⟨message, -, rfl⟩ := List.mem_map.1 hmem
    cases client <;> rfl
  rw [lastReport, reports, hnone]
  rfl

end Effect

namespace Character

variable {start character before after : Character} {being : Being} {abilities : Abilities}
  {channels : SyncChannels} {id : AttributeId} {operation : Operation} {operations : List Operation}

/-- Base and modified value of an attribute that the character carries. -/
def values? (character : Character) (id : AttributeId) : Option (Float × Float) :=
  (character.entity.being?.bind (·.attributes.get? id)).map fun record =>
    (record.base, record.modified)

theorem values?_eq (h : character.entity.being? = some being) : character.values? id =
    (being.attributes.get? id).map fun record => (record.base, record.modified) := by
  rw [values?, h, Option.bind_some]

/-- The report of an attribute with the given values. -/
def report (character : Character) (id : AttributeId) (values : Float × Float) : AttributeUpdate :=
  { databaseId := character.databaseId, id, base := values.1, modified := values.2 }

/-- The attribute is among the changes that no note was taken of. -/
def Pending (character : Character) (id : AttributeId) : Prop :=
  ∃ being, character.entity.being? = some being ∧ id ∈ being.changed

theorem pending_iff (h : character.entity.being? = some being) :
    character.Pending id ↔ id ∈ being.changed := by
  constructor
  · rintro ⟨other, hother, hmem⟩
    rwa [Option.some.inj (h.symm.trans hother)]
  · exact fun hmem => ⟨being, h, hmem⟩

/-- Taking note of changes reports each of them with its present values. -/
theorem lastReport_drainEffects (h : character.entity.being? = some being) (id : AttributeId) :
    Effect.lastReport (character.drainEffects being abilities channels) id =
      if id ∈ being.changed.toList then (character.values? id).map (character.report id)
      else none := by
  have hreports : Effect.reports (updates character.databaseId being being.changed.toList) =
      being.changed.toList.filterMap fun id =>
        ((character.values? id).map (character.report id)).map (id, ·) := by
    rw [Effect.reports, updates, List.filterMap_filterMap, List.map_filterMap]
    congr 1
    funext id
    rw [values?_eq h]
    cases being.attributes.get? id <;> rfl
  rw [drainEffects, Effect.lastReport_append, Effect.lastReport_map_delivery, Option.none_or,
    Effect.lastReport, hreports, latest_filterMap]

/-! ### What an operation does to values and reports -/

/-- The attributes are those of an accepted catalog, and none of them is stale. -/
def Fresh (character : Character) : Prop :=
  ∀ being, character.entity.being? = some being →
    being.attributes.registry.Coherent ∧ being.attributes.Fresh

/-- An attribute of which no change is pending after edits has the values from before. -/
theorem Fresh.values?_of_edits (h : before.Fresh) (hcomplete : before.entity.Complete)
    (hedits : before.entity.Edits after.entity) (hquiet : ¬ after.Pending id) :
    after.values? id = before.values? id ∧ ¬ before.Pending id := by
  obtain ⟨being, hbeing⟩ := hcomplete.being
  obtain ⟨next, hnext, hchanges⟩ := hedits.being hbeing
  rw [pending_iff hnext] at hquiet
  rw [Character.values?_eq hbeing, Character.values?_eq hnext, pending_iff hbeing,
    hchanges.get?_eq (h being hbeing).1 (h being hbeing).2 hquiet]
  exact ⟨rfl, fun hmem => hquiet (hchanges.mem_changed hmem)⟩

theorem Fresh.of_edits (h : before.Fresh) (hcomplete : before.entity.Complete)
    (hedits : before.entity.Edits after.entity) : after.Fresh := by
  intro next hnext
  obtain ⟨being, hbeing⟩ := hcomplete.being
  obtain ⟨other, hother, hchanges⟩ := hedits.being hbeing
  obtain rfl := Option.some.inj (hother.symm.trans hnext)
  obtain ⟨hcoherent, hstore⟩ := h being hbeing
  exact ⟨hchanges.registry_eq.symm ▸ hcoherent, hchanges.fresh hcoherent hstore⟩

theorem values?_drained (h : character.entity.being? = some being) :
    (character.drained being abilities channels).values? id = character.values? id := by
  rw [values?_eq being?_drained, values?_eq h, Being.attributes_clearChanged]

theorem attributes_resynced (hfresh : character.Fresh) (h : character.entity.being? = some being) :
    ∃ next, (character.resynced being).entity.being? = some next ∧
      next.attributes = being.attributes ∧ ∀ id, id ∉ next.changed := by
  refine ⟨_, rfl, ?_, fun id => Being.not_mem_changed_clearChanged⟩
  rw [Being.attributes_clearChanged, attributes_foldl_recalculate,
    (hfresh being h).2.recalculateEach_eq_self]

theorem Fresh.perform (h : before.Fresh) (hintact : before.Intact) (hgentle : operation.Gentle)
    (hafter : (before.perform operation).result = .ok after) :
    after.Fresh ∧ after.databaseId = before.databaseId := by
  obtain ⟨being, hbeing⟩ := hintact.complete.being
  obtain ⟨abilities, habilities⟩ := hintact.complete.abilities
  rcases hgentle.kinds with hplain | hdrains | rfl
  · have hedited := (hintact.perform_ensures hplain hgentle).result after hafter
    exact ⟨h.of_edits hintact.complete hedited.edits, hedited.databaseId⟩
  · rw [perform_of_drains hdrains hbeing habilities] at hafter
    cases hafter
    refine ⟨?_, rfl⟩
    rintro _ ⟨⟩
    exact h being hbeing
  · rw [Character.perform, modifiedAllAttributes_eq hbeing] at hafter
    cases hafter
    obtain ⟨next, hnext, hattributes, -⟩ := attributes_resynced h hbeing
    refine ⟨fun other hother => ?_, rfl⟩
    rw [← Option.some.inj (hnext.symm.trans hother), hattributes]
    exact h being hbeing

/-- When no change of an attribute is pending after an operation, then its values are those from
before. A change that was pending was reported, unless the operation forgot it. -/
theorem Fresh.values?_eq (h : before.Fresh) (hintact : before.Intact) (hgentle : operation.Gentle)
    (hafter : (before.perform operation).result = .ok after) (hquiet : ¬ after.Pending id) :
    after.values? id = before.values? id ∧
      Effect.lastReport (before.perform operation).effects id = none ∧
        (before.Pending id → operation = .modifiedAllAttributes) ∨
    after.values? id = before.values? id ∧ before.Pending id ∧ operation.Drains ∧
      Effect.lastReport (before.perform operation).effects id =
        (before.values? id).map (before.report id) := by
  obtain ⟨being, hbeing⟩ := hintact.complete.being
  obtain ⟨abilities, habilities⟩ := hintact.complete.abilities
  rcases hgentle.kinds with hplain | hdrains | rfl
  · have hensures := hintact.perform_ensures hplain hgentle
    obtain ⟨hvalues, hbefore⟩ := h.values?_of_edits hintact.complete
      (hensures.result after hafter).edits hquiet
    exact .inl ⟨hvalues, Effect.lastReport_of_quiet hensures.effects id,
      fun hpending => absurd hpending hbefore⟩
  · rw [perform_of_drains hdrains hbeing habilities] at hafter ⊢
    cases hafter
    by_cases hpending : before.Pending id
    · refine .inr ⟨values?_drained hbeing, hpending, hdrains, ?_⟩
      exact (lastReport_drainEffects hbeing id).trans
        (if_pos (SortedSet.mem_toList_iff.2 ((pending_iff hbeing).1 hpending)))
    · refine .inl ⟨values?_drained hbeing, ?_, fun hmem => absurd hmem hpending⟩
      exact (lastReport_drainEffects hbeing id).trans (if_neg fun hmem =>
        hpending ((pending_iff hbeing).2 (SortedSet.mem_toList_iff.1 hmem)))
  · rw [Character.perform, modifiedAllAttributes_eq hbeing] at hafter ⊢
    cases hafter
    obtain ⟨next, hnext, hattributes, -⟩ := attributes_resynced h hbeing
    refine .inl ⟨?_, Effect.lastReport_of_quiet (by simp [Effect.Quiet]) id, fun _ => rfl⟩
    rw [Character.values?_eq hnext, Character.values?_eq hbeing, hattributes]

/-! ### Changes that are reported, and changes that are forgotten -/

/-- If an attribute has other values than at the start, its last report is of the present ones. -/
def Kept (start : Character) (effects : List Effect) (now : Character) (id : AttributeId) : Prop :=
  ∀ base modified, now.values? id = some (base, modified) →
    start.values? id ≠ some (base, modified) →
    Effect.lastReport effects id = some { databaseId := start.databaseId, id, base, modified }

/-- All attributes were marked while a change of this one was pending that its last report does not
tell of, and it has not been changed again since. -/
def Overlooked (start : Character) (operations : List Operation) (id : AttributeId) : Prop :=
  ∃ earlier later before, operations = earlier ++ .modifiedAllAttributes :: later ∧
    (start.performAll earlier).result = .ok before ∧ before.Pending id ∧
    ¬ Kept start (start.performAll earlier).effects before id ∧
    ∀ between middle, between <+: later →
      (start.performAll (earlier ++ .modifiedAllAttributes :: between)).result = .ok middle →
      ¬ middle.Pending id

theorem Overlooked.not_pending (h : start.Overlooked operations id)
    (hnow : (start.performAll operations).result = .ok character) : ¬ character.Pending id := by
  obtain ⟨earlier, later, before, rfl, -, -, -, hquiet⟩ := h
  exact hquiet later character (List.prefix_refl later) hnow

theorem overlooked_concat_iff (hafter : (start.performAll (operations ++ [operation])).result =
      .ok after) (hquiet : ¬ after.Pending id) :
    start.Overlooked (operations ++ [operation]) id ↔
      start.Overlooked operations id ∨
        operation = .modifiedAllAttributes ∧ ∃ before, (start.performAll operations).result =
          .ok before ∧ before.Pending id ∧
          ¬ Kept start (start.performAll operations).effects before id := by
  constructor
  · rintro ⟨earlier, later, before, hsplit, hbefore, hpending, hlost, hsince⟩
    rcases List.eq_nil_or_concat later with rfl | ⟨later, last, rfl⟩
    · right
      obtain ⟨rfl, hlast⟩ := List.append_inj' hsplit rfl
      exact ⟨(List.cons.inj hlast).1, before, hbefore, hpending, hlost⟩
    · left
      rw [List.concat_eq_append, ← List.cons_append, ← List.append_assoc] at hsplit
      obtain ⟨rfl, -⟩ := List.append_inj' hsplit rfl
      refine ⟨earlier, later, before, rfl, hbefore, hpending, hlost, ?_⟩
      intro between middle hprefix
      exact hsince between middle (by simpa using hprefix.trans (List.prefix_append later [last]))
  · rintro (⟨earlier, later, before, rfl, hbefore, hpending, hlost, hsince⟩ |
      ⟨rfl, before, hbefore, hpending, hlost⟩)
    · refine ⟨earlier, later ++ [operation], before, by simp, hbefore, hpending, hlost, ?_⟩
      intro between middle hprefix hmiddle
      rcases List.prefix_concat_iff.1 hprefix with rfl | hprefix
      · rw [← List.cons_append, ← List.append_assoc, hafter] at hmiddle
        cases hmiddle
        exact hquiet
      · exact hsince between middle hprefix hmiddle
    · refine ⟨operations, [], before, rfl, hbefore, hpending, hlost, ?_⟩
      intro between middle hprefix hmiddle
      rw [List.prefix_nil.1 hprefix, hafter] at hmiddle
      cases hmiddle
      exact hquiet

/-- The state of affairs in the course of a run: a change of an attribute is pending, or it has been
kept unless it was overlooked. -/
def Accounted (start : Character) (operations : List Operation) (now : Character) : Prop :=
  ∀ id, now.Pending id ∨
    (Kept start (start.performAll operations).effects now id ↔ ¬ start.Overlooked operations id)

theorem Accounted.concat (h : start.Accounted operations before)
    (hbefore : (start.performAll operations).result = .ok before) (hintact : before.Intact)
    (hfresh : before.Fresh) (hid : before.databaseId = start.databaseId)
    (hgentle : operation.Gentle) (hafter : (before.perform operation).result = .ok after) :
    start.Accounted (operations ++ [operation]) after := by
  intro id
  by_cases hpending : after.Pending id
  · exact .inl hpending
  · right
    have hrun : start.performAll (operations ++ [operation]) = _ := performAll_concat_of_ok hbefore
    have hresult : (start.performAll (operations ++ [operation])).result = .ok after := by
      rw [hrun]
      exact hafter
    rw [overlooked_concat_iff hresult hpending, hrun, Kept, Effect.lastReport_append]
    rcases hfresh.values?_eq hintact hgentle hafter hpending with
      ⟨hvalues, hreport, hforgot⟩ | ⟨hvalues, hwas, hdrains, hreport⟩
    · rw [hvalues, hreport, Option.none_or, ← Kept]
      by_cases hwas : before.Pending id
      · -- the operation forgot the change, which is lost unless there was nothing to report
        have hearlier : ¬ start.Overlooked operations id := fun h => h.not_pending hbefore hwas
        constructor
        · rintro hkept (hlost | ⟨-, other, hother, -, hlost⟩)
          · exact hearlier hlost
          · cases hbefore.symm.trans hother
            exact hlost hkept
        · intro hnone
          exact Classical.byContradiction fun hlost =>
            hnone (.inr ⟨hforgot hwas, before, hbefore, hwas, hlost⟩)
      · refine ((h id).resolve_left hwas).trans (not_congr ⟨.inl, ?_⟩)
        rintro (hlost | ⟨-, other, hother, hpending, -⟩)
        · exact hlost
        · cases hbefore.symm.trans hother
          exact absurd hpending hwas
    · refine iff_of_true (fun base modified hvalue _ => ?_) ?_
      · rw [hvalues] at hvalue
        rw [hreport, hvalue, Option.map_some, Option.some_or, report, hid]
      · rintro (hlost | ⟨rfl, -⟩)
        · exact hlost.not_pending hbefore hwas
        · cases hdrains

theorem accounted_start : start.Accounted [] start := by
  refine fun id => .inr (iff_of_true (fun base modified hvalue hchanged => ?_) ?_)
  · exact absurd hvalue hchanged
  · rintro ⟨earlier, later, before, hsplit, -⟩
    simp at hsplit

/-- In a run every change is pending, or reported, or was overlooked. -/
theorem Fresh.accounted_performAll {final : Character} (h : start.Fresh) (hintact : start.Intact)
    (hgentle : ∀ operation ∈ operations, operation.Gentle)
    (hfinal : (start.performAll operations).result = .ok final) :
    start.Accounted operations final := by
  have hconcat : ∀ earlier operation before after,
      (start.performAll earlier).result = .ok before → before.Intact → operation.Gentle →
      (before.perform operation).result = .ok after →
      (before.Fresh ∧ before.databaseId = start.databaseId ∧ start.Accounted earlier before) →
      after.Fresh ∧ after.databaseId = start.databaseId ∧
        start.Accounted (earlier ++ [operation]) after := by
    rintro earlier operation before after hearlier hbefore hoperation hafter ⟨hfresh, hid, hkept⟩
    obtain ⟨hnext, hsame⟩ := hfresh.perform hbefore hoperation hafter
    exact ⟨hnext, hsame.trans hid, hkept.concat hearlier hbefore hfresh hid hoperation hafter⟩
  exact (hintact.performAll_induction ⟨h, rfl, accounted_start⟩ hconcat hgentle hfinal).2.2.2

/-- Whenever a character has taken note of its changes, every attribute that differs from how it was
read has been reported as it is, but for those whose change was overlooked. -/
theorem kept_iff_not_overlooked {entity : EntityId} {context : CharacterContext}
    {format : Load Unit} {client : Option ClientId} {message rest : Cursor}
    (hcatalog : context.registry.Accepted) (hformat : format.Proper)
    (hcallbacks : context.callbacks.Gentle)
    (hborn : (ofMessage entity context format client message).result = .ok (.ok start, rest))
    (hgentle : ∀ operation ∈ operations, operation.Gentle) {last : Operation}
    (hlast : last.Drains) :
    (∃ final, (start.performAll (operations ++ [last])).result = .ok final ∧
      ∀ id, Kept start (start.performAll (operations ++ [last])).effects final id ↔
        ¬ start.Overlooked (operations ++ [last]) id) ∨
    ∃ operation ∈ operations, ∃ fault, operation.MayFail fault ∧
      (start.performAll (operations ++ [last])).result = .error fault := by
  obtain ⟨databaseId, name, cursor, state, -, hrun, hstart⟩ := ofMessage_ensures.result _ hborn _ rfl
  have hintact : start.Intact := hstart ▸ intact_newborn hcallbacks
  have hfresh : start.Fresh := by
    intro being hbeing
    rw [hstart] at hbeing
    obtain ⟨hregistry, hstore⟩ := fresh_newborn hformat hcatalog.coherent hrun hbeing
    exact ⟨hregistry.symm ▸ hcatalog.coherent, hstore⟩
  refine (hintact.performAll_drain hgentle hlast).imp_left ?_
  rintro ⟨before, being, abilities, -, -, hrun⟩
  have hall : ∀ operation ∈ operations ++ [last], operation.Gentle := by
    rw [List.forall_mem_append, List.forall_mem_singleton]
    exact ⟨hgentle, by cases hlast <;> trivial⟩
  have hresult : (start.performAll (operations ++ [last])).result = .ok _ :=
    congrArg Step.result hrun
  refine ⟨_, hresult, fun id => ?_⟩
  refine (hfresh.accounted_performAll hintact hall hresult id).resolve_left fun hpending => ?_
  exact Being.not_mem_changed_clearChanged ((pending_iff being?_drained).1 hpending)

/-- Without a marking of all attributes every change is reported. -/
theorem kept_of_sample : ∃ start rest final, (sampleBirth {}).result = .ok (.ok start, rest) ∧
    (start.performAll ([.setBase ⟨1⟩ 6.0] ++ [.update])).result = .ok final ∧
    ∀ id, Kept start (start.performAll ([.setBase ⟨1⟩ 6.0] ++ [.update])).effects final id := by
  have hsome : (born? (sampleBirth {})).isSome := by decide +kernel
  obtain ⟨start, hstart⟩ := Option.isSome_iff_exists.1 hsome
  obtain ⟨rest, hborn⟩ := exists_of_born hstart
  have hgentle : ∀ operation ∈ [Operation.setBase ⟨1⟩ 6.0], operation.Gentle := by
    simp [Operation.Gentle]
  rcases kept_iff_not_overlooked AttributeRegistry.sample_accepted Load.proper_standard
    ScriptCallbacks.gentle_none hborn hgentle .update with
    ⟨final, hfinal, hkept⟩ | ⟨operation, hmem, fault, hfails, -⟩
  · refine ⟨start, rest, final, hborn, hfinal, fun id => (hkept id).2 ?_⟩
    rintro ⟨earlier, later, before, hsplit, -⟩
    have hmem : Operation.modifiedAllAttributes ∈ [Operation.setBase ⟨1⟩ 6.0] ++ [.update] := by
      rw [hsplit]
      simp
    simp at hmem
  · obtain rfl := List.mem_singleton.1 hmem
    cases hfails

/-- A change of strength that was never reported. -/
theorem not_kept_of_marking : ∃ start rest final,
    (sampleBirth {}).result = .ok (.ok start, rest) ∧
    (start.performAll [.setBase ⟨1⟩ 6.0, .modifiedAllAttributes, .update]).result = .ok final ∧
    start.values? ⟨1⟩ = some (5.0, 5.0) ∧ final.values? ⟨1⟩ = some (6.0, 6.0) ∧
    Effect.lastReport (start.performAll
      [.setBase ⟨1⟩ 6.0, .modifiedAllAttributes, .update]).effects ⟨1⟩ = none := by
  have hrun : (born? (sampleBirth {})).map (fun start =>
      let run := start.performAll [.setBase ⟨1⟩ 6.0, .modifiedAllAttributes, .update]
      (start.values? ⟨1⟩, (run >>= fun final => pure (final.values? ⟨1⟩)).result,
        (Effect.lastReport run.effects ⟨1⟩).isNone)) =
      some (some (5.0, 5.0), .ok (some (6.0, 6.0)), true) := by decide +kernel
  obtain ⟨start, hborn, hrun⟩ := Option.map_eq_some_iff.1 hrun
  simp only [Prod.mk.injEq, Option.isNone_iff_eq_none] at hrun
  obtain ⟨hstart, hresult, hreport⟩ := hrun
  obtain ⟨rest, hbirth⟩ := exists_of_born hborn
  obtain ⟨final, hfinal, hvalues, -⟩ := Step.bind_eq_ok hresult
  exact ⟨start, rest, final, hbirth, hfinal, hstart, Except.ok.inj hvalues, hreport⟩

end Character

end CharacterSim
