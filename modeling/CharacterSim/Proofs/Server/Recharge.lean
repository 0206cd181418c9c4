import CharacterSim.Proofs.Server.Lapse

/-! Whether timers keep pace with the clock. A timer that is started by a script at a login loses, from
the next tick on, all the time since the tick before the login. So it is never ahead of the clock if the
login is handled at the reading of a tick, or if no tick comes before the timer has run down anyway; and
else it is ahead. -/

namespace CharacterSim

/-- If no less is left for a longer wait, then there was enough time anyway. -/
theorem Duration.le_sub_of_sub_le {whole now since before : Duration} (hle : before ≤ since)
    (hne : before ≠ since) (hnow : since ≤ now)
    (h : whole - (now - since) ≤ whole - (now - before)) : whole ≤ now - since := by
  have hle : before.nanoseconds ≤ since.nanoseconds := hle
  have hne : before.nanoseconds ≠ since.nanoseconds := fun heq => hne (Duration.ext heq)
  have hnow : since.nanoseconds ≤ now.nanoseconds := hnow
  have h : whole.nanoseconds - (now.nanoseconds - since.nanoseconds) ≤
      whole.nanoseconds - (now.nanoseconds - before.nanoseconds) := h
  show whole.nanoseconds ≤ now.nanoseconds - since.nanoseconds
  omega

deriving instance DecidableEq for AbilityEvent

namespace CharacterData

theorem Calls.catalog_eq {before after : CharacterData} (h : Calls before after) :
    after.abilities.catalog = before.abilities.catalog := by
  induction h with
  | refl => rfl
  | tail _ hcall ih =>
    cases hcall with
    | giveAbility hgive =>
      obtain ⟨-, -, rfl⟩ := Abilities.give?_eq_some_iff.1 hgive
      exact ih
    | _ => exact ih

end CharacterData

namespace Character

/-- A new character has abilities, of the catalog that all share. -/
theorem abilities?_of_ofMessage {entity : EntityId} {context : CharacterContext} {format : Load Unit}
    {client : Option ClientId} {message rest : Cursor} {born : Character} (hformat : format.Proper)
    (hborn : (ofMessage entity context format client message).result = .ok (.ok born, rest)) :
    ∃ abilities, born.entity.abilities? = some abilities ∧ abilities.catalog = context.abilities := by
  obtain ⟨databaseId, name, cursor, state, -, hrun, rfl⟩ := ofMessage_ensures.result _ hborn _ rfl
  have hcalls := hformat ⟨.initial context name, cursor⟩
  rw [hrun] at hcalls
  exact ⟨_, rfl, hcalls.catalog_eq⟩

/-- No script was told of a new character. -/
theorem scripted_of_ofMessage {entity : EntityId} {context : CharacterContext} {format : Load Unit}
    {client : Option ClientId} {message rest : Cursor} {born : Character}
    (hborn : (ofMessage entity context format client message).result = .ok (.ok born, rest)) :
    born.scripted = [] := by
  obtain ⟨_, _, _, _, -, -, rfl⟩ := ofMessage_ensures.result _ hborn _ rfl
  rfl

theorem entity_of_triggerLoginCallback {character after : Character}
    {callback : ScriptHistory → Entity → Entity}
    (hcallback : character.context.callbacks.login = some callback)
    (h : character.triggerLoginCallback.result = .ok after) :
    after.entity = callback character.scripted character.entity := by
  obtain ⟨called, hcalled, hlast, -⟩ := Step.bind_eq_ok h
  rw [ScriptCallbacks.onLogin, hcallback, ScriptCallbacks.notify, Step.emit_bind] at hcalled
  cases hcalled
  cases hlast
  rfl

end Character

namespace Simulation

variable {simulation after : Simulation} {payload : List UInt8} {client : Option ClientId}
  {requests : Entity → List AbilityRequest} {timer : AbilityTimer} {id : AbilityId}

/-- What happens to the abilities of a character that is let in, as far as one is. -/
def exercised (requests : Entity → List AbilityRequest) (simulation : Simulation)
    (payload : List UInt8) (client : Option ClientId) : List AbilityEvent :=
  match (Character.ofMessage ⟨simulation.nextId⟩ simulation.context simulation.format client
    (.ofBytes payload)).result with
  | .ok (.ok born, _) =>
    match born.entity.abilities? with
    | some abilities => (abilities.attemptAll (requests born.entity)).2
    | none => []
  | _ => []

/-- The script of a login is let at the character that the message describes. -/
theorem entity_of_entrant {born : Character} {cursor : Cursor}
    {callback : ScriptHistory → Entity → Entity} {entered : Except ConstructionError Character}
    (hborn : (Character.ofMessage ⟨simulation.nextId⟩ simulation.context simulation.format client
      (.ofBytes payload)).result = .ok (.ok born, cursor))
    (hcallback : simulation.context.callbacks.login = some callback)
    (h : (simulation.entrant payload client).result = .ok entered) :
    ∃ greeted, entered = .ok greeted ∧ greeted.entity = callback [] born.entity := by
  have hmessage : (Character.ofMessage ⟨simulation.nextId⟩ simulation.context simulation.format client
      (.ofBytes payload)).Ensures _ (fun _ => False) _ := Character.ofMessage_whole
  have hcontext : born.context = simulation.context := (hmessage.result _ hborn born rfl).context
  obtain ⟨read, hread, hrest, -⟩ := Step.bind_eq_ok h
  cases hborn.symm.trans hread
  obtain ⟨called, hcalled, hrest, -⟩ := Step.bind_eq_ok hrest
  obtain ⟨name, -, hrest, -⟩ := Step.bind_eq_ok hrest
  rw [Step.log, Step.emit_bind] at hrest
  cases hrest
  refine ⟨called, rfl, ?_⟩
  rw [← Character.scripted_of_ofMessage hborn]
  exact Character.entity_of_triggerLoginCallback (hcontext.symm ▸ hcallback) hcalled

/-- The timers of an ability that is used upon a login are whole after it. -/
theorem left?_of_exercised (hcallbacks : simulation.context.callbacks.Exercising requests)
    (hformat : simulation.format.Proper)
    (hused : .done (.used id) ∈ simulation.exercised requests payload client)
    (htimer : timer.StartedBy id) {outcome : Except ServerError EntityId}
    (h : (simulation.login payload client).result = .ok (after, outcome)) :
    after.left? ⟨simulation.nextId⟩ timer = some (timer.whole simulation.context.abilities) := by
  unfold exercised at hused
  split at hused
  · next born cursor hborn =>
    obtain ⟨abilities, habilities, hcatalog⟩ := Character.abilities?_of_ofMessage hformat hborn
    rw [habilities] at hused
    obtain ⟨callback, hcallback, hscript⟩ := hcallbacks.login
    obtain ⟨error, hrefused, -⟩ | ⟨greeted, hgreeted, rfl, -⟩ := login_cases h
    · obtain ⟨other, hother, -⟩ := entity_of_entrant hborn hcallback hrefused
      cases hother
    · obtain ⟨other, hother, hentity⟩ := entity_of_entrant hborn hcallback hgreeted
      cases hother
      have hthere : Simulation.character? { simulation.setCharacter ⟨simulation.nextId⟩ greeted with
          nextId := simulation.nextId + 1 } ⟨simulation.nextId⟩ = some greeted :=
        SortedMap.get?_insert_self ..
      rw [left?, hthere, Option.bind_some, Character.left?, hentity, hscript, habilities, ← hcatalog]
      exact Abilities.left?_of_used (hcallbacks.exercises _) hused htimer
  · cases hused

end Simulation

/-- What happens to the abilities of a character that is let in by a command, as far as one is. -/
def Worker.exercised (requests : Entity → List AbilityRequest) (worker : Worker) :
    Command → List AbilityEvent
  | .login payload client => worker.simulation.exercised requests payload client
  | _ => []

namespace Exchange

variable {κ : Type} {exchange next last : Exchange κ} {worker after : Worker} {entity : EntityId}
  {timer : AbilityTimer} {context : CharacterContext} {format : Load Unit}
  {requests : Entity → List AbilityRequest} {id : AbilityId} {letter : Letter} {rest : List Letter}
  {done later : List Move} {effects given more : List Effect} {whole before since : Duration}

/-- The abilities of a character, as long as the worker is there. -/
def abilities? (exchange : Exchange κ) (entity : EntityId) : Option Abilities := do
  let worker ← exchange.worker?
  let character ← worker.simulation.character? entity
  character.entity.abilities?

theorem left?_eq (exchange : Exchange κ) (entity : EntityId) (timer : AbilityTimer) :
    exchange.left? entity timer = (exchange.abilities? entity).bind timer.left? := by
  rw [left?, abilities?]
  simp only [Option.bind_eq_bind, Option.bind_assoc]
  rfl

/-- Where a use of an ability started a timer at some reading of the clock, no more of it is gone than
time has passed since; and what starts it cannot be used again until its whole time has passed. -/
structure InPace (entity : EntityId) (timer : AbilityTimer) (whole since : Duration)
    (exchange : Exchange κ) : Prop where
  left : ∀ left, exchange.left? entity timer = some left →
    whole - (exchange.server.now - since) ≤ left
  unused : ∀ abilities id used, exchange.abilities? entity = some abilities → timer.StartedBy id →
    abilities.activate id = .ok used → whole ≤ exchange.server.now - since

/-- A timer with enough time left keeps its ability from use. -/
theorem InPace.of_left (h : ∀ left, exchange.left? entity timer = some left →
    whole - (exchange.server.now - since) ≤ left) : exchange.InPace entity timer whole since := by
  refine ⟨h, fun abilities id used habilities htimer hused => ?_⟩
  obtain ⟨-, ⟨remaining, hremaining, -⟩, -⟩ := Abilities.activate_eq_ok_iff.1 hused
  obtain ⟨left, hleft⟩ : ∃ left, timer.left? abilities = some left := by
    cases timer with
    | recharge other =>
      obtain rfl : other = id := htimer
      exact ⟨remaining, hremaining⟩
    | cooldown => exact ⟨_, rfl⟩
  have hnone : left.nanoseconds = 0 :=
    beq_iff_eq.1 (AbilityTimer.isZero_of_activate hused htimer hleft)
  have henough : whole.nanoseconds - (exchange.server.now - since).nanoseconds ≤ left.nanoseconds :=
    h left (by rw [left?_eq, habilities]; exact hleft)
  rw [hnone] at henough
  exact Nat.le_of_sub_eq_zero (Nat.le_zero.1 henough)

/-- A timer is whole, and the worker last let the simulation tick at some reading of the clock. -/
def Starts (entity : EntityId) (timer : AbilityTimer) (whole before : Duration)
    (exchange : Exchange κ) : Prop :=
  ∀ worker, exchange.worker? = some worker →
    worker.clock.last = before ∧ exchange.left? entity timer = some whole

variable [Mailbox κ Letter]

/-- Something holds at every moment of a run. -/
def Throughout (exchange : Exchange κ) (moves : List Move) (motive : Exchange κ → Prop) : Prop :=
  ∀ done, done <+: moves → ∀ effects moment, exchange.run done = some (effects, moment) →
    motive moment

/-- Every tick that comes to its end comes when a time has passed since a reading of the clock. -/
def TicksPast (exchange : Exchange κ) (whole since : Duration) (moves : List Move) : Prop :=
  ∀ done, done ++ [.tick] <+: moves → ∀ effects moment,
    exchange.run (done ++ [.tick]) = some (effects, moment) → moment.worker? ≠ none →
      whole ≤ moment.server.now - since

/-- The login that is handled next starts a timer, which is whole after it. -/
theorem left?_of_receive (hadmits : exchange.Admits context format)
    (hcallbacks : context.callbacks.Exercising requests) (hformat : format.Proper)
    (hworker : exchange.worker? = some worker) (hwaiting : exchange.waiting = letter :: rest)
    (hused : .done (.used id) ∈ worker.exercised requests letter.command)
    (htimer : timer.StartedBy id) (hreceive : exchange.move .receive = some (given, next))
    (hafter : next.worker? = some after) : after.clock = worker.clock ∧
      next.left? ⟨worker.simulation.nextId⟩ timer = some (timer.whole context.abilities) := by
  obtain ⟨serving, hserving, hserved⟩ := serve_of_move hreceive hafter
  cases hworker.symm.trans hserving
  rw [turn?, hwaiting] at hserved
  obtain ⟨replies, hserve, -⟩ := hserved
  obtain ⟨hclock, hasked⟩ := Worker.simulation_of_serve hserve
  refine ⟨hclock, ?_⟩
  have hcalm := hadmits.calm worker hworker
  obtain ⟨call, command⟩ := letter
  cases command with
  | login payload client =>
    obtain ⟨answer, hrespond⟩ := hasked
    obtain ⟨⟨simulation, outcome⟩, hentered, hlast, -⟩ := Step.bind_eq_ok hrespond
    cases hlast
    rw [left?_of_worker? hafter, ← hcalm.context]
    refine Simulation.left?_of_exercised ?_ ?_ hused htimer hentered
    · rwa [hcalm.context]
    · rwa [hcalm.format]
  | _ => cases hused

/-- At every moment after a timer was whole, the worker last let the simulation tick before that, or
after the whole time, if all ticks come so late. -/
theorem TicksPast.last_le (h : exchange.TicksPast whole since later) (hdone : done <+: later)
    (hrun : exchange.run done = some (effects, last)) (hafter : last.worker? = some after) :
    (∃ worker, exchange.worker? = some worker ∧ after.clock = worker.clock) ∨
      whole ≤ after.clock.last - since := by
  induction done using List.reverseRecOn generalizing effects last after with
  | nil =>
    cases hrun
    exact .inl ⟨after, hafter, rfl⟩
  | append_singleton earlier move ih =>
    obtain ⟨told, moment, given, hbefore, hmove⟩ := run_concat hrun
    by_cases htick : move = .tick
    · subst htick
      rw [clock_of_tick hmove hafter]
      exact .inr (h earlier hdone effects last hrun (by simp [hafter]))
    · obtain ⟨serving, hserving, hclock⟩ := clock_of_ne_tick hmove htick hafter
      rw [hclock]
      exact ih ((List.prefix_append _ _).trans hdone) hbefore hserving

/-- What is left of a timer at every moment after it was whole. -/
theorem Starts.left? (h : exchange.Starts entity timer whole before)
    (hadmits : exchange.Admits context format) (hseeks : Seeks later)
    (hlater : exchange.run later = some (more, last))
    (honce : ∀ databaseId, .published (.loggedIn entity databaseId) ∉ more) (hdone : done <+: later)
    {moment : Exchange κ} (hrun : exchange.run done = some (effects, moment))
    (hafter : moment.worker? = some after) : after.clock.last ≤ moment.server.now ∧
      moment.left? entity timer = some (whole - (after.clock.last - before)) := by
  obtain ⟨rest, rfl⟩ := hdone
  have hseeksDone := hseeks.of_sublist (List.subset_append_left done rest)
  have honceDone : ∀ databaseId, .published (.loggedIn entity databaseId) ∉ effects := by
    intro databaseId hmem
    rw [run_append, hrun] at hlater
    obtain ⟨⟨following, final⟩, -, heq⟩ := Option.map_eq_some_iff.1 hlater
    cases heq
    exact honce databaseId (List.mem_append_left _ hmem)
  obtain ⟨worker, hworker, -, hleft⟩ :=
    hadmits.left?_run timer hseeksDone hrun hafter honceDone
  obtain ⟨hclock, hstarted⟩ := h worker hworker
  rw [hleft, hstarted, hclock]
  exact ⟨(hadmits.run hseeksDone hrun).reached after hafter, rfl⟩

/-- A timer that was whole at some reading of the clock keeps pace with it if and only if there was a
tick at that reading, or none comes before the whole time has passed. -/
theorem Starts.throughout_inPace_iff (h : exchange.Starts entity timer whole before)
    (hadmits : exchange.Admits context format) (hseeks : Seeks later)
    (hlater : exchange.run later = some (more, last))
    (honce : ∀ databaseId, .published (.loggedIn entity databaseId) ∉ more)
    (hbefore : before ≤ since) (hsince : since ≤ exchange.server.now) :
    exchange.Throughout later (InPace entity timer whole since) ↔
      before = since ∨ exchange.TicksPast whole since later := by
  refine ⟨fun hpace => ?_, fun hticks done hdone effects moment hrun => ?_⟩
  · -- right after a tick that comes too early, too much of the timer is gone
    refine or_iff_not_imp_left.2 fun hne done hdone effects moment hrun hthere => ?_
    obtain ⟨after, hafter⟩ := Option.ne_none_iff_exists'.1 hthere
    obtain ⟨_, between, _, -, htick⟩ := run_concat hrun
    obtain ⟨-, hleft⟩ := h.left? hadmits hseeks hlater honce hdone hrun hafter
    have hkept := (hpace _ hdone _ _ hrun).left _ hleft
    rw [clock_of_tick htick hafter] at hkept
    exact Duration.le_sub_of_sub_le hbefore hne (Nat.le_trans hsince (now_le_of_run hrun)) hkept
  · refine InPace.of_left fun left hsome => ?_
    obtain ⟨after, hafter, -⟩ := Option.bind_eq_some_iff.1 hsome
    obtain ⟨hlast, hleft⟩ := h.left? hadmits hseeks hlater honce hdone hrun hafter
    cases hleft.symm.trans hsome
    rcases hticks with rfl | hticks
    · exact Nat.sub_le_sub_left (Nat.sub_le_sub_right hlast _) _
    · rcases hticks.last_le hdone hrun hafter with ⟨worker, hworker, hclock⟩ | hpast
      · -- there was no tick yet
        rw [hclock, (h worker hworker).1]
        exact Nat.sub_le_sub_left (Nat.le_trans (Nat.le_of_eq (Nat.sub_self _)) (Nat.zero_le _)) _
      · have hover : whole ≤ moment.server.now - since :=
          Nat.le_trans hpast (Nat.sub_le_sub_right hlast _)
        exact Nat.le_trans (Nat.le_of_eq (Nat.sub_eq_zero_of_le hover)) (Nat.zero_le _)

/-- A timer that a script starts at a login loses all the time since the tick before the login. So it
keeps pace with the clock, and what starts it cannot be used again too early, if and only if the login
is handled at the reading of that tick, or else no tick comes before the whole time of the timer has
passed. This is told of a character until another one is let in under its id, which ids that wrap around
allow. -/
theorem timers_keep_pace_iff {period : Duration} {capacity : Nat} {start : Exchange κ}
    {earlier : List Move} {told : List Effect} (hcallbacks : context.callbacks.Exercising requests)
    (hformat : format.Proper)
    (hopen : Exchange.open? { context, format } period capacity = some start)
    (hseeks : Seeks (earlier ++ later)) (hearlier : start.run earlier = some (told, exchange))
    (hworker : exchange.worker? = some worker) (hwaiting : exchange.waiting = letter :: rest)
    (hused : .done (.used id) ∈ worker.exercised requests letter.command)
    (htimer : timer.StartedBy id) (hreceive : exchange.move .receive = some (given, next))
    (hlater : next.run later = some (more, last))
    (honce : ∀ databaseId,
      .published (.loggedIn ⟨worker.simulation.nextId⟩ databaseId) ∉ more) :
    (next.Throughout later fun moment => ∀ after, moment.worker? = some after →
      moment.left? ⟨worker.simulation.nextId⟩ timer =
        some (timer.whole context.abilities - (after.clock.last - worker.clock.last))) ∧
    (next.Throughout later (InPace ⟨worker.simulation.nextId⟩ timer
        (timer.whole context.abilities) exchange.server.now) ↔
      worker.clock.last = exchange.server.now ∨
        next.TicksPast (timer.whole context.abilities) exchange.server.now later) := by
  have hexchange : exchange.Admits context format := (admits_open hopen).run
    (hseeks.of_sublist (List.subset_append_left _ _)) hearlier
  have hnext : next.Admits context format := hexchange.step (by simp [Seeks]) hreceive
  have hseeksLater := hseeks.of_sublist (List.subset_append_right _ _)
  have hstarts : next.Starts ⟨worker.simulation.nextId⟩ timer (timer.whole context.abilities)
      worker.clock.last := by
    intro after hafter
    obtain ⟨hclock, hleft⟩ := left?_of_receive hexchange hcallbacks hformat hworker hwaiting hused
      htimer hreceive hafter
    exact ⟨congrArg TickClock.last hclock, hleft⟩
  refine ⟨fun done hdone effects moment hrun after hafter => ?_, ?_⟩
  · exact (hstarts.left? hnext hseeksLater hlater honce hdone hrun hafter).2
  · exact hstarts.throughout_inPace_iff hnext hseeksLater hlater honce
      (hexchange.reached worker hworker) (now_le_of_move hreceive)

theorem not_published_of_about (h : ServerEvent.about entity (Effect.events effects) = [])
    (databaseId : Int32) : .published (.loggedIn entity databaseId) ∉ effects := by
  intro hmem
  have htold : .loggedIn entity databaseId ∈ ServerEvent.about entity (Effect.events effects) :=
    List.mem_filter.2 ⟨List.mem_filterMap.2 ⟨_, hmem, rfl⟩, decide_eq_true rfl⟩
  rw [h] at htold
  cases htold

/-- A server whose script gives everybody who logs in an ability, and uses it at once. -/
def healing : Simulation :=
  { context := { registry := .sample, abilities := .ofList [⟨⟨2⟩, "heal", .ofMillis 1000⟩],
                 callbacks := .ofActions none none (some [.give ⟨2⟩, .activate ⟨2⟩]) false } }

/-- What the script asks of the abilities. -/
def healingRequests : Entity → List AbilityRequest := fun _ => [.give ⟨2⟩, .activate ⟨2⟩]

theorem healing_exercising : healing.context.callbacks.Exercising healingRequests := by
  have hscript : ∀ action ∈ [ScriptAction.give ⟨2⟩, .activate ⟨2⟩], action.Exercises := by
    simp [ScriptAction.Exercises]
  exact ScriptCallbacks.exercising_ofActions hscript none none false

/-- A login right after the first tick; the next tick comes in time, and one more is late. -/
def promptMoves : List Move := [.tick, .place (.login Character.sampleLogin none)]

def promptLater : List Move := [.wait (.ofMillis 100), .tick, .wait (.ofMillis 350), .tick]

/-- Where the login is handled at the reading of a tick, its recharge keeps pace with the clock. -/
theorem recharge_keeps_pace_of_prompt : ∃ start : Exchange (Channel Letter),
    ∃ told exchange given next more last,
    Exchange.open? healing (.ofMillis 100) 4 = some start ∧
      start.run promptMoves = some (told, exchange) ∧
      exchange.move .receive = some (given, next) ∧ next.run promptLater = some (more, last) ∧
      next.Throughout promptLater
        (InPace ⟨1⟩ (.recharge ⟨2⟩) (.ofMillis 1000) exchange.server.now) := by
  have hview : (do
      let start : Exchange (Channel Letter) ← Exchange.open? healing (.ofMillis 100) 4
      let before ← start.run promptMoves
      let worker ← before.2.worker?
      let letter ← before.2.waiting.head?
      let admitted ← before.2.move .receive
      let after ← admitted.2.run promptLater
      return (decide (.done (.used ⟨2⟩) ∈ worker.exercised healingRequests letter.command),
        worker.simulation.nextId, decide (worker.clock.last = before.2.server.now),
        ServerEvent.about ⟨1⟩ (Effect.events after.1))) = some (true, 1, true, []) := by
    decide +kernel
  obtain ⟨start, hopen, hview⟩ := Option.bind_eq_some_iff.1 hview
  obtain ⟨⟨told, exchange⟩, hearlier, hview⟩ := Option.bind_eq_some_iff.1 hview
  obtain ⟨worker, hworker, hview⟩ := Option.bind_eq_some_iff.1 hview
  obtain ⟨letter, hletter, hview⟩ := Option.bind_eq_some_iff.1 hview
  obtain ⟨⟨given, next⟩, hreceive, hview⟩ := Option.bind_eq_some_iff.1 hview
  obtain ⟨⟨more, last⟩, hlater, hview⟩ := Option.bind_eq_some_iff.1 hview
  simp only [Option.pure_def, Option.some.injEq, Prod.mk.injEq, decide_eq_true_eq] at hview
  obtain ⟨hused, hid, hprompt, hevents⟩ := hview
  obtain ⟨rest, hwaiting⟩ := List.head?_eq_some_iff.1 hletter
  have hseeks : Seeks (promptMoves ++ promptLater) := by
    simp [Seeks, promptMoves, promptLater, Command.IsLogin]
  have hstarted : AbilityTimer.StartedBy ⟨2⟩ (.recharge ⟨2⟩) := rfl
  have honce := not_published_of_about hevents
  rw [← hid] at honce
  obtain ⟨-, hpace⟩ := timers_keep_pace_iff healing_exercising Load.proper_standard hopen hseeks
    hearlier hworker hwaiting hused hstarted hreceive hlater honce
  rw [hid] at hpace
  exact ⟨start, told, exchange, given, next, more, last, hopen, hearlier, hreceive, hlater,
    hpace.2 (.inl hprompt)⟩

/-- A login between two ticks. -/
def gapMoves : List Move :=
  [.tick, .wait (.ofMillis 50), .place (.login Character.sampleLogin none)]

/-- A login in the middle between two ticks. At the second of them, 50 milliseconds later, 100 are gone
of its timers, and the ability can be used again after 950 of 1000. -/
theorem timers_ahead_of_gap : ∃ start : Exchange (Channel Letter),
    ∃ told exchange worker letter given next soon late,
    Exchange.open? healing (.ofMillis 100) 4 = some start ∧
      start.run gapMoves = some (told, exchange) ∧ exchange.worker? = some worker ∧
      exchange.waiting.head? = some letter ∧
      .done (.used ⟨2⟩) ∈ worker.exercised healingRequests letter.command ∧
      exchange.move .receive = some (given, next) ∧
      (∃ more, next.run [.wait (.ofMillis 50), .tick] = some (more, soon)) ∧
      (∀ timer : AbilityTimer, timer.StartedBy ⟨2⟩ →
        timer.whole healing.context.abilities = .ofMillis 1000 ∧
        soon.left? ⟨1⟩ timer = some (.ofMillis 900) ∧
        ¬ soon.InPace ⟨1⟩ timer (.ofMillis 1000) exchange.server.now) ∧
      (∃ more, soon.run [.wait (.ofMillis 900), .tick] = some (more, late)) ∧
      late.server.now - exchange.server.now = .ofMillis 950 ∧
      ∃ abilities used, late.abilities? ⟨1⟩ = some abilities ∧
        abilities.activate ⟨2⟩ = .ok used := by
  have hview : (do
      let start : Exchange (Channel Letter) ← Exchange.open? healing (.ofMillis 100) 4
      let before ← start.run gapMoves
      let worker ← before.2.worker?
      let letter ← before.2.waiting.head?
      let admitted ← before.2.move .receive
      let soon ← admitted.2.run [.wait (.ofMillis 50), .tick]
      let late ← soon.2.run [.wait (.ofMillis 900), .tick]
      let abilities ← late.2.abilities? ⟨1⟩
      return (decide (.done (.used ⟨2⟩) ∈ worker.exercised healingRequests letter.command),
        soon.2.server.now - before.2.server.now, soon.2.left? ⟨1⟩ (.recharge ⟨2⟩),
        soon.2.left? ⟨1⟩ .cooldown, late.2.server.now - before.2.server.now,
        (abilities.activate ⟨2⟩).isOk)) =
      some (true, .ofMillis 50, some (.ofMillis 900), some (.ofMillis 900), .ofMillis 950, true) := by
    decide +kernel
  obtain ⟨start, hopen, hview⟩ := Option.bind_eq_some_iff.1 hview
  obtain ⟨⟨told, exchange⟩, hearlier, hview⟩ := Option.bind_eq_some_iff.1 hview
  obtain ⟨worker, hworker, hview⟩ := Option.bind_eq_some_iff.1 hview
  obtain ⟨letter, hletter, hview⟩ := Option.bind_eq_some_iff.1 hview
  obtain ⟨⟨given, next⟩, hreceive, hview⟩ := Option.bind_eq_some_iff.1 hview
  obtain ⟨⟨more, soon⟩, hsoon, hview⟩ := Option.bind_eq_some_iff.1 hview
  obtain ⟨⟨still, late⟩, hlate, hview⟩ := Option.bind_eq_some_iff.1 hview
  obtain ⟨abilities, habilities, hview⟩ := Option.bind_eq_some_iff.1 hview
  simp only [Option.pure_def, Option.some.injEq, Prod.mk.injEq, decide_eq_true_eq] at hview
  obtain ⟨hused, hfifty, hrecharge, hcooldown, hpassed, hagain⟩ := hview
  obtain ⟨used, hagain⟩ : ∃ used, abilities.activate ⟨2⟩ = .ok used := by
    cases hactivate : abilities.activate ⟨2⟩ with
    | error denied =>
      rw [hactivate] at hagain
      cases hagain
    | ok used => exact ⟨used, rfl⟩
  have hahead : ∀ timer : AbilityTimer, soon.left? ⟨1⟩ timer = some (.ofMillis 900) →
      ¬ soon.InPace ⟨1⟩ timer (.ofMillis 1000) exchange.server.now := by
    intro timer hleft hpace
    have henough := hpace.left _ hleft
    rw [hfifty] at henough
    exact absurd henough (by decide)
  refine ⟨start, told, exchange, worker, letter, given, next, soon, late, hopen, hearlier, hworker,
    hletter, hused, hreceive, ⟨more, hsoon⟩, fun timer htimer => ?_, ⟨still, hlate⟩, hpassed,
    abilities, used, habilities, hagain⟩
  cases timer with
  | recharge id =>
    obtain rfl : id = ⟨2⟩ := htimer
    exact ⟨rfl, hrecharge, hahead _ hrecharge⟩
  | cooldown => exact ⟨rfl, hcooldown, hahead _ hcooldown⟩

end Exchange

end CharacterSim
