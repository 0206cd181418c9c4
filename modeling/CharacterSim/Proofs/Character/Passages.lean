import CharacterSim.Proofs.Character.Course

/-! Death and revival along a run. They alternate, and each calls its script once, as long as the
scripts leave the lifecycle alone. -/

namespace CharacterSim

namespace LifecycleState

/-- The script that is called when one state gives way to another. -/
def passage? : LifecycleState → LifecycleState → Option Hook
  | alive, dead => some .death
  | dead, alive => some .deathAccepted
  | _, _ => none

/-- Deaths and revivals in turn lead from one state to another. -/
inductive Alternates : LifecycleState → List Hook → LifecycleState → Prop where
  | stay (state : LifecycleState) : Alternates state [] state
  | death {passages : List Hook} {last : LifecycleState} (h : Alternates dead passages last) :
    Alternates alive (.death :: passages) last
  | revival {passages : List Hook} {last : LifecycleState} (h : Alternates alive passages last) :
    Alternates dead (.deathAccepted :: passages) last

/-- One state more. -/
theorem Alternates.concat {first middle last : LifecycleState} {passages : List Hook}
    (h : first.Alternates passages middle) :
    first.Alternates (passages ++ (middle.passage? last).toList) last := by
  induction h with
  | stay state =>
    cases state with
    | alive =>
      cases last with
      | alive => exact .stay alive
      | dead => exact .death (.stay dead)
    | dead =>
      cases last with
      | alive => exact .revival (.stay alive)
      | dead => exact .stay dead
  | death _ ih => exact .death ih
  | revival _ ih => exact .revival ih

@[simp] theorem passage?_self (state : LifecycleState) : state.passage? state = none := by
  cases state <;> rfl

/-- There is at most one, so that it reads the same backwards. -/
theorem reverse_filter_passage? (state next : LifecycleState) (motive : Hook → Bool) :
    ((state.passage? next).toList.filter motive).reverse =
      (state.passage? next).toList.filter motive := by
  cases state.passage? next with
  | none => rfl
  | some hook =>
    rw [Option.toList_some, List.filter_cons, List.filter_nil]
    split <;> rfl

end LifecycleState

namespace Character

variable {before after : Character} {being : Being} {effects : List Effect}

/-! ### Moments -/

namespace Moment

variable {moment : Moment}

/-- The script that belongs to what became of the character, if it died or came back. -/
def passage? (moment : Moment) : Option Hook := do
  (← moment.before.lifecycle?).passage? (← moment.after.lifecycle?)

/-- What becomes of life in a moment, and what is refused: the dead do not die, and the living do
not come back. A refusal changes nothing, calls no script and asks for nothing. -/
structure Proceeds (moment : Moment) : Prop where
  course : moment.before.Course moment.effects moment.after
  refusal : ∀ error, moment.answer = .lifecycle (.error error) ↔
    (moment.operation = .die ∧ moment.before.lifecycle? = some .dead ∧ error = .alreadyDead) ∨
      (moment.operation = .respawn ∧ moment.before.lifecycle? = some .alive ∧ error = .notDead)
  refused : ∀ error, moment.answer = .lifecycle (.error error) →
    moment.after = moment.before ∧ Effect.calls moment.effects = [] ∧
      Step.requests moment.effects = []

end Moment

/-- After each course there is a state again, and the script of the passage to it was called and is
the latest that was given something. -/
theorem Course.exists_after {state : LifecycleState} (h : before.Course effects after)
    (hstate : before.lifecycle? = some state) : ∃ next, after.lifecycle? = some next ∧
      (Effect.calls effects).map Prod.fst =
        (state.passage? next).toList.filter before.context.callbacks.registers ∧
      after.scripted.map Prod.fst =
        (state.passage? next).toList.filter before.context.callbacks.registers ++
          before.scripted.map Prod.fst := by
  have hdue := fun hook => before.context.callbacks.map_fst_due hook before.id
  have hrecorded := before.context.callbacks.map_fst_recorded before.scripted
  cases h with
  | stays hsame hcalls _ hscripted =>
    refine ⟨state, hsame.trans hstate, ?_⟩
    rw [hcalls, hscripted, LifecycleState.passage?_self]
    exact ⟨rfl, rfl⟩
  | dies _ hbefore hafter hcalls _ _ _ hscripted =>
    cases hbefore.symm.trans hstate
    exact ⟨.dead, hafter, hcalls ▸ hdue .death, hscripted ▸ hrecorded _ .death⟩
  | handled hbefore hafter hcalls _ _ hscripted =>
    cases hbefore.symm.trans hstate
    exact ⟨.alive, hafter, hcalls ▸ hdue .deathAccepted, hscripted ▸ hrecorded _ .deathAccepted⟩
  | restored _ hbefore hafter hcalls _ _ _ _ hscripted =>
    cases hbefore.symm.trans hstate
    exact ⟨.alive, hafter, hcalls ▸ hdue .deathAccepted, hscripted ▸ hrecorded _ .deathAccepted⟩

/-- The operation comes to its end, and proceeds as it should. -/
def Comes (before : Character) (operation : Operation) : Prop :=
  ∃ after answer, (before.respond operation).result = .ok (after, answer) ∧
    after.context = before.context ∧ Moment.Proceeds ⟨before, operation, answer, after⟩

variable {operation : Operation} {answer : Answer}

/-- Nothing is refused, nor should be. -/
theorem comes_of_accepted (hrespond : before.respond operation = ⟨effects, .ok (after, answer)⟩)
    (hcourse : before.Course effects after) (hcontext : after.context = before.context)
    (hanswer : ∀ error, answer ≠ .lifecycle (.error error))
    (hdie : operation = .die → before.lifecycle? = some .alive)
    (hrespawn : operation = .respawn → before.lifecycle? = some .dead) :
    before.Comes operation := by
  have heffects : Moment.effects ⟨before, operation, answer, after⟩ = effects := by
    rw [Moment.effects, hrespond]
  refine ⟨after, answer, by rw [hrespond], hcontext, heffects ▸ hcourse, fun error => ?_,
    fun error hrefused => absurd hrefused (hanswer error)⟩
  refine iff_of_false (hanswer error) ?_
  rintro (⟨hoperation, hdead, -⟩ | ⟨hoperation, halive, -⟩)
  · cases (hdie hoperation).symm.trans hdead
  · cases (hrespawn hoperation).symm.trans halive

/-- It is refused, and should be. -/
theorem comes_of_refused {error : LifecycleError}
    (hrespond : before.respond operation = ⟨effects, .ok (before, .lifecycle (.error error))⟩)
    (hquiet : ∀ effect ∈ effects, effect.IsQuiet)
    (hrefusal : (operation = .die ∧ before.lifecycle? = some .dead ∧ error = .alreadyDead) ∨
      (operation = .respawn ∧ before.lifecycle? = some .alive ∧ error = .notDead)) :
    before.Comes operation := by
  have heffects :
      Moment.effects ⟨before, operation, .lifecycle (.error error), before⟩ = effects := by
    rw [Moment.effects, hrespond]
  have hcourse : before.Course effects before :=
    .stays rfl (Effect.calls_of_quiet hquiet) (Effect.warps_of_quiet hquiet) rfl
  refine ⟨before, _, by rw [hrespond], rfl, heffects ▸ hcourse, fun other => ?_, fun _ _ => ?_⟩
  · constructor
    · rintro ⟨⟩
      exact hrefusal
    · rintro (⟨rfl, -, rfl⟩ | ⟨rfl, -, rfl⟩)
      · rcases hrefusal with ⟨-, -, rfl⟩ | ⟨hother, -⟩
        · rfl
        · cases hother
      · rcases hrefusal with ⟨hother, -⟩ | ⟨-, -, rfl⟩
        · cases hother
        · rfl
  · rw [heffects]
    exact ⟨rfl, Effect.calls_of_quiet hquiet, Effect.requests_of_quiet hquiet⟩

/-- An operation of life and death, or on attributes, comes to its end. -/
theorem comes_of_vital (hbeing : before.entity.being? = some being)
    (hspares : before.context.callbacks.SparesLifecycle) (hvital : operation.Vital) :
    before.Comes operation := by
  have hstate := lifecycle?_eq hbeing
  cases hvital with
  | attributes h =>
    obtain ⟨effects, after, answer, hrespond, hquiet, hsame, hcontext, hscripted, hanswer⟩ :=
      respond_attributes hbeing h
    refine comes_of_accepted hrespond (.stays hsame (Effect.calls_of_quiet hquiet)
      (Effect.warps_of_quiet hquiet) hscripted) hcontext (fun _ => hanswer _) ?_ ?_
    · rintro rfl
      exact h.elim
    · rintro rfl
      exact h.elim
  | die =>
    cases hlifecycle : being.lifecycle with
    | alive =>
      rw [hlifecycle] at hstate
      obtain ⟨effects, after, hdie, hcourse, hcontext⟩ := die_courses hbeing hlifecycle hspares
      exact comes_of_accepted (Step.bind_eq_of_pure hdie rfl) hcourse hcontext (fun _ => nofun)
        (fun _ => hstate) nofun
    | dead =>
      rw [hlifecycle] at hstate
      exact comes_of_refused (Step.bind_eq_of_pure (die_of_dead hbeing hlifecycle) rfl)
        (fun _ hmem => nomatch hmem) (.inl ⟨rfl, hstate, rfl⟩)
  | applyDamage amount =>
    obtain ⟨effects, after, hdamage, hcourse, hcontext⟩ := applyDamage_courses hbeing hspares amount
    exact comes_of_accepted (Step.bind_eq_of_pure hdamage rfl) hcourse hcontext (fun _ => nofun)
      nofun nofun
  | respawn =>
    cases hlifecycle : being.lifecycle with
    | alive =>
      rw [hlifecycle] at hstate
      obtain ⟨event, hrespawn⟩ := respawn_of_alive hbeing hlifecycle
      refine comes_of_refused (Step.bind_eq_of_pure hrespawn rfl) (fun effect hmem => ?_)
        (.inr ⟨rfl, hstate, rfl⟩)
      rw [List.mem_singleton.1 hmem]
      exact ⟨rfl, rfl⟩
    | dead =>
      rw [hlifecycle] at hstate
      obtain ⟨effects, after, hrespawn, hcourse, hcontext⟩ :=
        respawn_courses hbeing hlifecycle hspares
      exact comes_of_accepted (Step.bind_eq_of_pure hrespawn rfl) hcourse hcontext (fun _ => nofun)
        nofun (fun _ => hstate)
  | disconnected alive =>
    obtain ⟨effects, after, outcome, hdisconnected, hcourse, hcontext⟩ :=
      disconnected_courses hbeing hspares alive
    exact comes_of_accepted (Step.bind_eq_of_pure hdisconnected rfl) hcourse hcontext
      (fun _ => nofun) nofun nofun

/-! ### Runs -/

variable {start : Character} {state : LifecycleState} {operations : List Operation}

theorem Moment.passages_concat (moments : List Moment) {moment : Moment}
    {middle last : LifecycleState} (hmiddle : moment.before.lifecycle? = some middle)
    (hlast : moment.after.lifecycle? = some last) :
    (moments ++ [moment]).filterMap Moment.passage? =
      moments.filterMap Moment.passage? ++ (middle.passage? last).toList := by
  have hpassage : moment.passage? = middle.passage? last := by
    rw [Moment.passage?, hmiddle, hlast]
    rfl
  rw [List.filterMap_append, ← hpassage]
  cases hnone : moment.passage? <;> simp [hnone]

/-- What a run comes to: an end, at which the passages so far have alternated and each has called
its script, and the scripts were given something at each of them. -/
structure Passed (start : Character) (state : LifecycleState) (operations : List Operation)
    (final : Character) (moments : List Moment) (last : LifecycleState) : Prop where
  result : (start.attend operations).result = .ok (final, moments)
  context : final.context = start.context
  lifecycle : final.lifecycle? = some last
  alternates : state.Alternates (moments.filterMap Moment.passage?) last
  calls : (moments.flatMap fun moment => Effect.calls moment.effects).map Prod.fst =
    (moments.filterMap Moment.passage?).filter start.context.callbacks.registers
  scripted : final.scripted.map Prod.fst =
    ((moments.filterMap Moment.passage?).filter start.context.callbacks.registers).reverse ++
      start.scripted.map Prod.fst
  proceeds : ∀ moment ∈ moments,
    moment.before.context = start.context ∧ moment.Proceeds

theorem exists_passed (hstate : start.lifecycle? = some state)
    (hspares : start.context.callbacks.SparesLifecycle)
    (hvital : ∀ operation ∈ operations, operation.Vital) :
    ∃ final moments last, start.Passed state operations final moments last := by
  induction operations using List.reverseRecOn with
  | nil =>
    exact ⟨start, [], state, rfl, rfl, hstate, .stay state, rfl, rfl, fun _ hmem => nomatch hmem⟩
  | append_singleton earlier operation ih =>
    obtain ⟨before, moments, middle, hresult, hcontext, hmiddle, halternates, hcalls, hscripted,
      hproceeds⟩ := ih fun other hmem => hvital other (List.mem_append_left _ hmem)
    -- the state after the earlier moments decides what one more can be
    obtain ⟨being, hbeing, -⟩ := Option.map_eq_some_iff.1 hmiddle
    obtain ⟨after, answer, hafter, hkept, hmoment⟩ :=
      comes_of_vital hbeing (hcontext ▸ hspares) (hvital operation (by simp))
    obtain ⟨last, hlast, hcalled, hgiven⟩ := hmoment.course.exists_after hmiddle
    have hpassages := Moment.passages_concat moments hmiddle hlast
    refine ⟨after, _, last, attend_concat_of_ok hresult hafter, hkept.trans hcontext, hlast,
      hpassages ▸ halternates.concat, ?_, ?_, fun moment hmem => ?_⟩
    · rw [hpassages, List.filter_append, List.flatMap_append, List.map_append, hcalls,
        List.flatMap_singleton, hcalled, hcontext]
    · rw [hpassages, List.filter_append, List.reverse_append, List.append_assoc, ← hscripted,
        ← hcontext, LifecycleState.reverse_filter_passage?]
      exact hgiven
    · rcases List.mem_append.1 hmem with hmem | hmem
      · exact hproceeds moment hmem
      · rw [List.mem_singleton.1 hmem]
        exact ⟨hcontext, hmoment⟩

/-- Death and revival alternate, and each calls its script once. Any run of damage, deaths,
respawns, losses of the client and operations on attributes comes to its end, if the scripts leave
the lifecycle alone. What a character passes through on the way are by turns deaths and revivals, a
death first if it lived, as every newborn does; and the scripts that are called, in order, are those
of the passages, as far as they are registered; it is these that were given something. A script is
given the dead or the revived, and goes by this and by what the scripts were given before. Moment by
moment, a revival that its script does not see to asks for one warp to the respawn point and restores
vitality, one that it sees to does neither, nothing else asks for a warp, and what is refused changes
nothing. -/
theorem death_and_revival_alternate (hstate : start.lifecycle? = some state)
    (hspares : start.context.callbacks.SparesLifecycle)
    (hvital : ∀ operation ∈ operations, operation.Vital) :
    ∃ final moments last, (start.attend operations).result = .ok (final, moments) ∧
      final.lifecycle? = some last ∧
      state.Alternates (moments.filterMap Moment.passage?) last ∧
      (Effect.calls (start.attend operations).effects).map Prod.fst =
        (moments.filterMap Moment.passage?).filter start.context.callbacks.registers ∧
      final.scripted.map Prod.fst =
        ((moments.filterMap Moment.passage?).filter start.context.callbacks.registers).reverse ++
          start.scripted.map Prod.fst ∧
      (start.attend operations).effects = moments.flatMap Moment.effects ∧
      ∀ moment ∈ moments, moment.before.context = start.context ∧ moment.Proceeds := by
  obtain ⟨final, moments, last, h⟩ := exists_passed hstate hspares hvital
  refine ⟨final, moments, last, h.result, h.lifecycle, h.alternates, ?_, h.scripted,
    effects_attend h.result, h.proceeds⟩
  rw [effects_attend h.result, Effect.calls, List.filterMap_flatMap]
  exact h.calls

/-- Scripts that strengthen the dead, leave the first revival to the rules and see to the others. -/
def mourners : ScriptCallbacks where
  death := some fun _ => (·.updateBeing fun being => (being.setAttribute ⟨1⟩ 9.0).1)
  deathAccepted := some fun history entity => (entity, history.any (·.1 == .deathAccepted))

theorem mourners_sparesLifecycle : mourners.SparesLifecycle where
  mourned _ entity being hbeing := by
    refine ⟨(being.setAttribute ⟨1⟩ 9.0).1, ?_, rfl⟩
    show (entity.updateBeing _).being? = _
    rw [Entity.updateBeing_eq, hbeing]
    rfl
  accepted _ _ being hbeing := ⟨being, hbeing, rfl⟩

/-- Two deaths, the first of which is not died twice, and two revivals, one by going away. -/
def sampleOrdeal : List Operation :=
  [.die, .die, .respawn, .setBase ⟨1⟩ 7.0, .respawn, .die, .disconnected fun _ => false]

theorem death_and_revival_alternate_of_sample : ∃ start rest final moments last,
    (sampleBirth mourners).result = .ok (.ok start, rest) ∧
      (start.attend sampleOrdeal).result = .ok (final, moments) ∧
      LifecycleState.alive.Alternates (moments.filterMap Moment.passage?) last ∧
      (moments.filterMap Moment.passage?).filter mourners.registers =
        [.death, .deathAccepted, .death, .deathAccepted] := by
  have hview : (born? (sampleBirth mourners)).map (fun start => (start.lifecycle?,
      (Effect.calls (start.attend sampleOrdeal).effects).map Prod.fst)) =
        some (some .alive, [.death, .deathAccepted, .death, .deathAccepted]) := by
    decide +kernel
  obtain ⟨start, hstart, hview⟩ := Option.map_eq_some_iff.1 hview
  obtain ⟨hstate, hcalled⟩ := Prod.mk.inj hview
  obtain ⟨rest, hborn⟩ := exists_of_born hstart
  have hcontext : start.context.callbacks = mourners := by
    obtain ⟨_, _, _, _, -, -, rfl⟩ := ofMessage_ensures.result _ hborn start rfl
    rfl
  have hspares : start.context.callbacks.SparesLifecycle := hcontext ▸ mourners_sparesLifecycle
  have hvital : ∀ operation ∈ sampleOrdeal, operation.Vital := by
    simp only [sampleOrdeal, List.forall_mem_cons, List.not_mem_nil, false_imp_iff, implies_true]
    exact ⟨.die, .die, .respawn, .attributes trivial, .respawn, .die, .disconnected _, trivial⟩
  obtain ⟨final, moments, last, hrun, -, halternates, hcalls, -, -⟩ :=
    death_and_revival_alternate hstate hspares hvital
  rw [hcalled, hcontext] at hcalls
  exact ⟨start, rest, final, moments, last, hborn, hrun, halternates, hcalls.symm⟩

end Character

end CharacterSim
