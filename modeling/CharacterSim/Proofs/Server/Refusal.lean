import CharacterSim.Proofs.Server.Isolation

/-! Logins that fail leave no trace. The simulation stays as it was, and nobody but the log hears of
them, however much of the data was read and set before the failure. So a run that is rid of its
failed logins goes the same way. -/

namespace CharacterSim

namespace Effect

/-- What is done to the surroundings, entries in the log aside. -/
def audible (effects : List Effect) : List Effect := effects.filter (·.logEvent?.isNone)

theorem audible_append (effects more : List Effect) :
    audible (effects ++ more) = audible effects ++ audible more := List.filter_append ..

theorem audible_of_logged {effects : List Effect}
    (h : ∀ effect ∈ effects, ∃ event, effect = .logged event) : audible effects = [] := by
  refine List.filter_eq_nil_iff.2 fun effect hmem => ?_
  obtain ⟨event, rfl⟩ := h effect hmem
  exact Bool.false_ne_true

end Effect

namespace Simulation

/-- The answer is that a login failed. -/
def Reply.refuses : Reply → Bool
  | .answered (.login (.error _)) => true
  | _ => false

/-- What happens without the logins that fail, up to the mistake that ends the run if one does. -/
def admitted (simulation : Simulation) : List Act → List Act
  | [] => []
  | act :: rest =>
    match (simulation.obey act).result with
    | .ok (after, reply) =>
      if reply.refuses then after.admitted rest else act :: after.admitted rest
    | .error _ => act :: rest

variable {simulation after : Simulation} {act : Act} {acts : List Act} {reply : Reply}
  {payload : List UInt8} {client : Option ClientId} {error : ServerError} {entity : EntityId}
  {character : Character} {demand : Demand} {outcome : Outcome}

/-! ### One login -/

/-- Nothing of what a format did is kept when it fails. -/
theorem login_refused (h : (simulation.login payload client).result = .ok (after, .error error)) :
    after = simulation ∧
      ∀ effect ∈ (simulation.login payload client).effects, ∃ event, effect = .logged event := by
  have hread : (Character.ofMessage ⟨simulation.nextId⟩ simulation.context simulation.format client
    (.ofBytes payload)).Ensures _ _ _ := Character.ofMessage_ensures
  rw [login] at h ⊢
  obtain ⟨⟨outcome, rest⟩, -, hrest, heffects⟩ := Step.bind_eq_ok h
  rw [heffects]
  cases outcome with
  | error refusal =>
    cases hrest
    rw [Step.effects_pure, List.append_nil]
    exact ⟨rfl, hread.effects⟩
  | ok character =>
    obtain ⟨greeted, -, hrest, -⟩ := Step.bind_eq_ok hrest
    obtain ⟨name, -, hrest, -⟩ := Step.bind_eq_ok hrest
    obtain ⟨_, -, hrest, -⟩ := Step.bind_eq_ok hrest
    cases hrest

theorem obey_login_eq : simulation.obey (.login payload client) = do
    let (after, answer) ← simulation.login payload client
    return (after, .answered (.login answer)) := by
  rw [obey, serve, respond]
  simp only [bind_assoc, pure_bind]

/-- No demand is a login. -/
theorem Demand.refuses_meet (h : (demand.meet entity character).result = .ok outcome) :
    outcome.reply.refuses = false := by
  cases demand with
  | disconnect alive =>
    obtain ⟨⟨⟨left, word⟩, requests⟩, -, hrest, -⟩ := Step.bind_eq_ok h
    obtain ⟨_, -, hrest, -⟩ := Step.bind_eq_ok hrest
    cases hrest
    rfl
  | damage amount =>
    obtain ⟨hurt, -, hrest, -⟩ := Step.bind_eq_ok h
    cases hrest
    rfl
  | respawn =>
    obtain ⟨⟨⟨revived, word⟩, requests⟩, -, hrest, -⟩ := Step.bind_eq_ok h
    cases hrest
    rfl
  | mutate operation =>
    obtain ⟨⟨changed, answer⟩, -, hrest, -⟩ := Step.bind_eq_ok h
    cases hrest
    rfl

/-- Only logins are refused so; they change nothing, and nobody but the log hears of them. -/
theorem obey_refused (h : (simulation.obey act).result = .ok (after, reply))
    (hrefuses : reply.refuses = true) :
    (∃ payload client, act = .login payload client) ∧ after = simulation ∧
      ∀ effect ∈ (simulation.obey act).effects, ∃ event, effect = .logged event := by
  cases act with
  | login payload client =>
    rw [obey_login_eq] at h ⊢
    obtain ⟨⟨middle, answer⟩, hlogin, hrest, heffects⟩ := Step.bind_eq_ok h
    cases hrest
    cases answer with
    | ok entity => cases hrefuses
    | error error =>
      obtain ⟨rfl, hlogged⟩ := login_refused hlogin
      rw [heffects, Step.effects_pure, List.append_nil]
      exact ⟨⟨payload, client, rfl⟩, rfl, hlogged⟩
  | tick elapsed =>
    rw [obey_tick] at h
    obtain ⟨ticked, -, hrest, -⟩ := Step.bind_eq_ok h
    cases hrest
    cases hrefuses
  | demand entity demand =>
    cases hfound : simulation.character? entity with
    | none =>
      rw [obey_of_absent hfound] at h
      cases h
      cases demand <;> cases hrefuses
    | some character =>
      rw [obey_of_present hfound] at h
      obtain ⟨outcome, hmeet, hrest, -⟩ := Step.bind_eq_ok h
      cases hrest
      cases (Demand.refuses_meet hmeet).symm.trans hrefuses

/-! ### Runs -/

theorem attend_cons_eq (h : (simulation.obey act).result = .ok (after, reply)) :
    simulation.attend (act :: acts) =
      ⟨(simulation.obey act).effects ++ (after.attend acts).effects,
        (after.attend acts).result.map fun run =>
          (run.1, ⟨simulation, act, reply, after⟩ :: run.2)⟩ := by
  rw [attend, Step.bind_of_ok h]
  dsimp only
  cases hrest : (after.attend acts).result with
  | error fault =>
    rw [Step.bind_of_error hrest]
    rfl
  | ok run =>
    rw [Step.bind_of_ok hrest, Step.effects_pure, List.append_nil]
    rfl

theorem admitted_cons_of_refused (h : (simulation.obey act).result = .ok (after, reply))
    (hrefuses : reply.refuses = true) :
    simulation.admitted (act :: acts) = simulation.admitted acts := by
  obtain ⟨-, rfl, -⟩ := obey_refused h hrefuses
  rw [admitted, h]
  exact if_pos hrefuses

theorem admitted_cons_of_not_refused (h : (simulation.obey act).result = .ok (after, reply))
    (hrefuses : reply.refuses = false) :
    simulation.admitted (act :: acts) = act :: after.admitted acts := by
  rw [admitted, h]
  exact if_neg (by rw [hrefuses]; exact Bool.false_ne_true)

/-- A run goes the same way without its failed logins, whether it comes to its end or not. -/
theorem attend_admitted (simulation : Simulation) (acts : List Act) :
    (simulation.attend (simulation.admitted acts)).result =
        (simulation.attend acts).result.map (fun run =>
          (run.1, run.2.filter fun moment => !moment.reply.refuses)) ∧
      Effect.audible (simulation.attend (simulation.admitted acts)).effects =
        Effect.audible (simulation.attend acts).effects := by
  induction acts generalizing simulation with
  | nil => exact ⟨rfl, rfl⟩
  | cons act rest ih =>
    cases hobey : (simulation.obey act).result with
    | error fault =>
      have hadmitted : simulation.admitted (act :: rest) = act :: rest := by rw [admitted, hobey]
      rw [hadmitted, attend, Step.bind_of_error hobey]
      exact ⟨rfl, rfl⟩
    | ok outcome =>
      obtain ⟨after, reply⟩ := outcome
      cases hrefuses : reply.refuses with
      | true =>
        -- The rest goes on from the same state, and only the log knows of the login.
        obtain ⟨-, rfl, hlogged⟩ := obey_refused hobey hrefuses
        obtain ⟨hresult, heffects⟩ := ih after
        rw [admitted_cons_of_refused hobey hrefuses, attend_cons_eq hobey, hresult, heffects,
          Effect.audible_append, Effect.audible_of_logged hlogged, List.nil_append]
        refine ⟨?_, rfl⟩
        cases (after.attend rest).result with
        | error fault => rfl
        | ok run => simp [Except.map, hrefuses]
      | false =>
        obtain ⟨hresult, heffects⟩ := ih after
        rw [admitted_cons_of_not_refused hobey hrefuses, attend_cons_eq hobey, attend_cons_eq hobey,
          hresult, Effect.audible_append, Effect.audible_append, heffects]
        refine ⟨?_, rfl⟩
        cases (after.attend rest).result with
        | error fault => rfl
        | ok run => simp [Except.map, hrefuses]

/-- What is left out of a run are the logins that failed in it, in moments that changed nothing. -/
theorem admitted_of_attend {final : Simulation} {moments : List Moment}
    (hrun : (simulation.attend acts).result = .ok (final, moments)) :
    moments.map Moment.act = acts ∧
      simulation.admitted acts =
        (moments.filter fun moment => !moment.reply.refuses).map Moment.act ∧
      ∀ moment ∈ moments, moment.reply.refuses = true →
        (∃ payload client, moment.act = .login payload client) ∧ moment.after = moment.before := by
  induction acts generalizing simulation moments with
  | nil =>
    cases hrun
    exact ⟨rfl, rfl, fun _ hmem => nomatch hmem⟩
  | cons act rest ih =>
    obtain ⟨after, reply, later, hobey, hlater, rfl⟩ := exists_of_attend_cons hrun
    obtain ⟨hacts, hadmitted, hrefused⟩ := ih hlater
    refine ⟨congrArg (act :: ·) hacts, ?_, List.forall_mem_cons.2 ⟨fun hrefuses => ?_, hrefused⟩⟩
    · cases hrefuses : reply.refuses with
      | true =>
        obtain ⟨-, rfl, -⟩ := obey_refused hobey hrefuses
        rw [admitted_cons_of_refused hobey hrefuses, hadmitted, List.filter_cons_of_neg]
        simp [hrefuses]
      | false =>
        rw [admitted_cons_of_not_refused hobey hrefuses, hadmitted, List.filter_cons_of_pos,
          List.map_cons]
        simp [hrefuses]
    · obtain ⟨hlogin, hsame, -⟩ := obey_refused hobey hrefuses
      exact ⟨hlogin, hsame⟩

/-- Failed logins leave no trace. Whatever the simulation, the format of its messages and the
payload, a login that fails leaves the simulation as it was, calls no script, and tells no client and
not the account server. So a run that is rid of its failed logins comes to the same end, in the same
state or by the same mistake: in every moment that is left the state before and after, the answer,
and with it the ids of entrants and the events of ticks are the same, and the same messages, updates
and calls are made in the same order. -/
theorem failed_logins_leave_no_trace (simulation : Simulation) :
    (∀ payload client after error,
      (simulation.login payload client).result = .ok (after, .error error) → after = simulation ∧
        ∀ effect ∈ (simulation.login payload client).effects, ∃ event, effect = .logged event) ∧
    ∀ acts,
      (simulation.attend (simulation.admitted acts)).result =
        (simulation.attend acts).result.map (fun run =>
          (run.1, run.2.filter fun moment => !moment.reply.refuses)) ∧
      Effect.audible (simulation.attend (simulation.admitted acts)).effects =
        Effect.audible (simulation.attend acts).effects ∧
      ∀ final moments, (simulation.attend acts).result = .ok (final, moments) →
        moments.map Moment.act = acts ∧
        simulation.admitted acts =
          (moments.filter fun moment => !moment.reply.refuses).map Moment.act ∧
        ∀ moment ∈ moments, moment.reply.refuses = true →
          (∃ payload client, moment.act = .login payload client) ∧ moment.after = moment.before := by
  refine ⟨fun _ _ _ _ => login_refused, fun acts => ?_⟩
  obtain ⟨hresult, heffects⟩ := simulation.attend_admitted acts
  exact ⟨hresult, heffects, fun _ _ => admitted_of_attend⟩

/-- Of three logins the second fails at its name. -/
def sampleArrivals : List Act :=
  [.login Character.sampleLogin none, .login [0, 0, 0, 7, 0, 9] none,
    .login Character.sampleLogin none]

/-- What is seen of the arrivals: who is there in the end, and which of them failed. -/
def arrivalsView (outcome : Simulation × List Moment) : List EntityId × List Bool :=
  (outcome.1.hosted, outcome.2.map fun moment => moment.reply.refuses)

/-- Rid of the login that fails, the arrivals come to the same end: those who are admitted are the first
and the second entity, and the failure changed nothing. -/
theorem no_trace_of_sampleArrivals : ∃ final first failed last,
    (sample.attend sampleArrivals).result = .ok (final, [first, failed, last]) ∧
      final.hosted = [⟨1⟩, ⟨2⟩] ∧ failed.after = failed.before ∧
      sample.admitted sampleArrivals = [first.act, last.act] ∧
      (sample.attend (sample.admitted sampleArrivals)).result = .ok (final, [first, last]) := by
  have hview : (sample.attend sampleArrivals).result.map arrivalsView =
      .ok ([⟨1⟩, ⟨2⟩], [false, true, false]) := by decide +kernel
  obtain ⟨hresult, -, hmoments⟩ := (failed_logins_leave_no_trace sample).2 sampleArrivals
  cases hrun : (sample.attend sampleArrivals).result with
  | error fault =>
    rw [hrun] at hview
    cases hview
  | ok outcome =>
    obtain ⟨final, moments⟩ := outcome
    rw [hrun] at hview hresult
    obtain ⟨hhosted, hrefused⟩ := Prod.mk.inj (Except.ok.inj hview)
    obtain ⟨-, hadmitted, hfailed⟩ := hmoments final moments hrun
    rcases moments with - | ⟨first, - | ⟨failed, - | ⟨last, - | ⟨another, rest⟩⟩⟩⟩
    all_goals simp only [List.map_cons, List.map_nil, List.cons.injEq, reduceCtorEq, and_false,
      and_true] at hrefused
    obtain ⟨hfirst, hmiddle, hlast⟩ := hrefused
    have hkept : [first, failed, last].filter (fun moment => !moment.reply.refuses) =
        [first, last] := by
      simp [hfirst, hmiddle, hlast]
    rw [hkept] at hadmitted
    refine ⟨final, first, failed, last, rfl, hhosted, ?_, hadmitted, ?_⟩
    · exact (hfailed failed (by simp) hmiddle).2
    · rw [hresult, Except.map, hkept]

end Simulation

end CharacterSim
