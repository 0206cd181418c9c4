import CharacterSim.Proofs.Server.Operation

/-! Whether characters are alive when they leave. A dead character whose client goes away is revived
at once; but it leaves only at the end of a tick, and until then damage can kill it again, as it can
kill one that was alive. There is no other way in which a character leaves dead. -/

namespace CharacterSim.Simulation

/-- Damage killed a character that awaited its removal, and the character has been dead since. -/
def KilledAwaitingRemoval (start : Simulation) (operations : List Operation)
    (entity : EntityId) : Prop :=
  ∃ earlier amount later before, operations = earlier ++ .damage entity amount :: later ∧
    (start.performAll earlier).result = .ok before ∧
    entity ∈ before.world.removals ∧ before.LivesAt entity ∧
    ∀ between middle, between <+: later →
      (start.performAll (earlier ++ .damage entity amount :: between)).result = .ok middle →
      middle.DeadAt entity

variable {start before after : Simulation} {operations : List Operation} {operation : Operation}
  {entity : EntityId}

theorem performAll_concat (operations : List Operation) (operation : Operation) :
    start.performAll (operations ++ [operation]) =
      start.performAll operations >>= fun before => before.perform operation := by
  simp [performAll]

/-! ### One more operation -/

/-- Damage that kills is the beginning of it. -/
theorem killedAwaitingRemoval_concat_damage {amount : Float}
    (hbefore : (start.performAll operations).result = .ok before)
    (hawaits : entity ∈ before.world.removals) (hlives : before.LivesAt entity)
    (hafter : (start.performAll (operations ++ [.damage entity amount])).result = .ok after)
    (hdead : after.DeadAt entity) :
    start.KilledAwaitingRemoval (operations ++ [.damage entity amount]) entity := by
  refine ⟨operations, amount, [], before, rfl, hbefore, hawaits, hlives,
    fun between middle hprefix hmiddle => ?_⟩
  obtain rfl := List.prefix_nil.1 hprefix
  cases hafter.symm.trans hmiddle
  exact hdead

theorem KilledAwaitingRemoval.concat (h : start.KilledAwaitingRemoval operations entity)
    (hafter : (start.performAll (operations ++ [operation])).result = .ok after)
    (hdead : after.DeadAt entity) :
    start.KilledAwaitingRemoval (operations ++ [operation]) entity := by
  obtain ⟨earlier, amount, later, before, rfl, hbefore, hawaits, hlives, hsince⟩ := h
  refine ⟨earlier, amount, later ++ [operation], before, by simp, hbefore, hawaits, hlives,
    fun between middle hprefix hmiddle => ?_⟩
  rcases List.prefix_concat_iff.1 hprefix with rfl | hprefix
  · rw [List.append_assoc, List.cons_append] at hafter
    cases hafter.symm.trans hmiddle
    exact hdead
  · exact hsince between middle hprefix hmiddle

/-- At the end of the run the character is dead. -/
theorem KilledAwaitingRemoval.deadAt (h : start.KilledAwaitingRemoval operations entity)
    (hafter : (start.performAll operations).result = .ok after) : after.DeadAt entity := by
  obtain ⟨earlier, amount, later, before, rfl, -, -, -, hsince⟩ := h
  exact hsince later after (List.prefix_refl later) hafter

/-! ### Runs -/

/-- A run of a simulation without scripts is stopped by nothing, and whoever is dead and awaits its
removal in the end was killed while it did. -/
theorem Scriptless.performAll_ok (h : start.Scriptless) (hnobody : start.world.removals = [])
    (operations : List Operation) :
    ∃ before, (start.performAll operations).result = .ok before ∧ before.Scriptless ∧
      ∀ entity ∈ before.world.removals, before.DeadAt entity →
        start.KilledAwaitingRemoval operations entity := by
  induction operations using List.reverseRecOn with
  | nil =>
    refine ⟨start, rfl, h, fun entity hmem => ?_⟩
    rw [hnobody] at hmem
    cases hmem
  | append_singleton earlier operation ih =>
    obtain ⟨before, hbefore, hscriptless, hkilled⟩ := ih
    obtain ⟨after, hafter, hadvances⟩ := (hscriptless.perform_ensures operation).exists_ok
    have hresult : (start.performAll (earlier ++ [operation])).result = .ok after := by
      rw [performAll_concat, Step.bind_of_ok hbefore]
      exact hafter
    refine ⟨after, hresult, hadvances.scriptless, fun entity hmem hdead => ?_⟩
    obtain ⟨hawaits, hwas | ⟨hlives, amount, rfl⟩⟩ := hadvances.awaits entity hmem hdead
    · exact (hkilled entity hawaits hwas).concat hresult hdead
    · exact killedAwaitingRemoval_concat_damage hbefore hawaits hlives hresult hdead

theorem scriptless_start {context : CharacterContext} {format : Load Unit}
    (hcallbacks : context.callbacks = {}) (hformat : format.Proper) :
    ({ context, format } : Simulation).Scriptless where
  callbacks := hcallbacks
  format := hformat
  characters _ _ hfound := by cases hfound

/-! ### Who leaves alive -/

/-- Every run of a simulation without scripts can be followed by a tick. The characters that leave
in it are those of which it tells, and such a character is alive when it leaves unless damage killed
it while it awaited its removal. -/
theorem leaves_alive_iff {context : CharacterContext} {format : Load Unit}
    (hcallbacks : context.callbacks = {}) (hformat : format.Proper) (operations : List Operation)
    (elapsed : Duration) :
    ∃ before characters after events,
      (({ context, format } : Simulation).performAll operations).result = .ok before ∧
      (before.moved elapsed).result = .ok characters ∧
      (before.tick elapsed).result = .ok (after, events) ∧
      (∀ event ∈ events, ∃ entity character map position,
        characters.get? entity = some character ∧
          event = .removed entity character.databaseId map position) ∧
      ∀ entity character, characters.get? entity = some character →
        (after.character? entity = none ↔
          ∃ map position, .removed entity character.databaseId map position ∈ events) ∧
        (after.character? entity = none → (character.Lives ↔
          ¬ ({ context, format } : Simulation).KilledAwaitingRemoval operations entity)) := by
  obtain ⟨before, hbefore, hscriptless, hkilled⟩ :=
    (scriptless_start hcallbacks hformat).performAll_ok rfl operations
  obtain ⟨⟨after, events⟩, htick, characters, hticked⟩ :=
    (tick_ensures hscriptless.allIntact elapsed).exists_ok
  obtain ⟨hmoved, hpreserves, hleaving, -⟩ := hticked
  refine ⟨before, characters, after, events, hbefore, hmoved, htick, hleaving.known,
    fun entity character hfound => ⟨hleaving.reported entity character hfound, fun hgone => ?_⟩⟩
  obtain ⟨earlier, hearlier, hsteady⟩ := hpreserves.get?_before hfound
  constructor
  · intro hlives hkilled
    obtain ⟨other, hother, hdead⟩ := hkilled.deadAt hbefore
    cases hearlier.symm.trans hother
    exact hlives.not_dead (hsteady.dead.2 hdead)
  · intro hspared
    refine (Character.lives_or_dead hsteady.intact.complete).resolve_right fun hdead => hspared ?_
    exact hkilled entity (hleaving.requested entity character hfound hgone)
      ⟨earlier, hearlier, hsteady.dead.1 hdead⟩

/-- Without damage in between, who leaves is alive. -/
theorem leaves_alive_of_sample : ∃ before characters after character,
    (sample.performAll sampleVisit).result = .ok before ∧
    (before.moved .zero).result = .ok characters ∧
    (before.tick .zero).result = .ok (after, [.removed ⟨1⟩ 7 1 ⟨2, 3⟩]) ∧
    characters.get? ⟨1⟩ = some character ∧ character.Lives := by
  have hrun : (do
      let before ← sample.performAll sampleVisit
      return (← before.tick .zero).2).result = .ok [.removed ⟨1⟩ 7 1 ⟨2, 3⟩] := by decide +kernel
  obtain ⟨before, characters, after, events, hbefore, hmoved, htick, hknown, hleaves⟩ :=
    @leaves_alive_iff { registry := .sample } Load.standard rfl Load.proper_standard
      sampleVisit .zero
  obtain ⟨other, hother, hrun, -⟩ := Step.bind_eq_ok hrun
  cases hother.symm.trans hbefore
  obtain ⟨outcome, houtcome, hrun, -⟩ := Step.bind_eq_ok hrun
  cases houtcome.symm.trans htick
  cases hrun
  obtain ⟨entity, character, map, position, hfound, hevent⟩ :=
    hknown _ (List.mem_singleton_self _)
  obtain ⟨rfl, hid, -⟩ := ServerEvent.removed.inj hevent
  obtain ⟨hreported, halive⟩ := hleaves _ character hfound
  have hgone := hreported.2 ⟨1, ⟨2, 3⟩, by simp [← hid]⟩
  refine ⟨before, characters, after, character, hbefore, hmoved, htick, hfound,
    (halive hgone).2 ?_⟩
  rintro ⟨earlier, amount, later, -, hsplit, -⟩
  have hmem : .damage ⟨1⟩ amount ∈ sampleVisit := by
    rw [hsplit]
    simp
  simp [sampleVisit] at hmem

/-- Someone goes away and is killed before the tick. -/
theorem leaves_dead_of_late_damage : ∃ before characters after character,
    (sample.performAll (sampleVisit ++ [.damage ⟨1⟩ 1000])).result = .ok before ∧
    (before.moved .zero).result = .ok characters ∧
    (before.tick .zero).result = .ok (after, [.removed ⟨1⟩ 7 1 ⟨2, 3⟩]) ∧
    characters.get? ⟨1⟩ = some character ∧ character.Dead := by
  have hrun : (do
      let before ← sample.performAll (sampleVisit ++ [Operation.damage ⟨1⟩ 1000])
      let characters ← before.moved .zero
      let (_, events) ← before.tick .zero
      return (events, do return (← (← characters.get? ⟨1⟩).entity.being?).isDead)).result =
      .ok ([.removed ⟨1⟩ 7 1 ⟨2, 3⟩], some true) := by decide +kernel
  obtain ⟨before, hbefore, hrun, -⟩ := Step.bind_eq_ok hrun
  obtain ⟨characters, hmoved, hrun, -⟩ := Step.bind_eq_ok hrun
  obtain ⟨⟨after, events⟩, htick, hrun, -⟩ := Step.bind_eq_ok hrun
  simp only [Step.result_pure, Except.ok.injEq, Prod.mk.injEq] at hrun
  obtain ⟨rfl, hdead⟩ := hrun
  obtain ⟨character, hfound, hdead⟩ := Option.bind_eq_some_iff.1 hdead
  obtain ⟨being, hbeing, hdead⟩ := Option.bind_eq_some_iff.1 hdead
  exact ⟨before, characters, after, character, hbefore, hmoved, htick, hfound, being, hbeing,
    Option.some.inj hdead⟩

end CharacterSim.Simulation
