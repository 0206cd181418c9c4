import CharacterSim.Proofs.Collections.Latest
import CharacterSim.Proofs.Server.Turn
import Mathlib.Data.List.Nodup

/-! When entities are there. An entity enters with the login that is answered by its id, and leaves
in the first tick after its client was gone for the first time, which tells of it once. -/

namespace CharacterSim

namespace Simulation

/-- What was asked of a simulation, and what it answered. -/
abbrev History := List (Operation × Answer)

/-- One operation after the other, with their answers. -/
def respondAll (simulation : Simulation) (operations : List Operation) :
    Step (Simulation × History) :=
  operations.foldlM (fun state operation => do
    let (simulation, answer) ← state.1.respond operation
    return (simulation, state.2 ++ [(operation, answer)])) (simulation, [])

namespace History

/-- The entity that an operation admitted. -/
def admitted? : Operation × Answer → Option EntityId
  | (_, .login (.ok entity)) => some entity
  | _ => none

/-- The entity whose client an operation took note to be gone. -/
def detached? : Operation × Answer → Option EntityId
  | (.disconnect _ entity, .disconnect (.ok _)) => some entity
  | _ => none

/-- Those that successful logins were answered by. -/
def entrants (history : History) : List EntityId := history.filterMap admitted?

/-- Some turn did to an entity what a reading of turns looks for. -/
def Met (sought : Operation × Answer → Option EntityId) (history : History) (entity : EntityId) :
    Prop :=
  ∃ turn ∈ history, sought turn = some entity

/-- A tick has passed since. -/
def MetBeforeTick (sought : Operation × Answer → Option EntityId) (history : History)
    (entity : EntityId) : Prop :=
  ∃ earlier elapsed events later, history = earlier ++ (.tick elapsed, .tick events) :: later ∧
    Met sought earlier entity

/-- The client of an entity was gone, successfully. -/
def Detached (history : History) (entity : EntityId) : Prop :=
  ∃ turn ∈ history, detached? turn = some entity

/-- A tick has passed since. -/
def Departed (history : History) (entity : EntityId) : Prop :=
  ∃ earlier elapsed events later, history = earlier ++ (.tick elapsed, .tick events) :: later ∧
    Detached earlier entity

variable {history : History} {entity : EntityId} {turn : Operation × Answer}
  {sought : Operation × Answer → Option EntityId}

theorem MetBeforeTick.met (h : history.MetBeforeTick sought entity) : history.Met sought entity := by
  obtain ⟨earlier, elapsed, events, later, rfl, turn, hmem, hturn⟩ := h
  exact ⟨turn, List.mem_append_left _ hmem, hturn⟩

theorem met_concat : Met sought (history ++ [turn]) entity ↔
    history.Met sought entity ∨ sought turn = some entity := by
  simp [Met, or_and_right, exists_or]

theorem metBeforeTick_concat : MetBeforeTick sought (history ++ [turn]) entity ↔
    history.MetBeforeTick sought entity ∨
      (∃ elapsed events, turn = (.tick elapsed, .tick events)) ∧ history.Met sought entity := by
  constructor
  · rintro ⟨earlier, elapsed, events, later, heq, hmet⟩
    rcases concat_eq_append_cons_iff.1 heq with ⟨rfl, rfl, rfl⟩ | ⟨rest, rfl, rfl⟩
    · exact .inr ⟨⟨elapsed, events, rfl⟩, hmet⟩
    · exact .inl ⟨earlier, elapsed, events, rest, rfl, hmet⟩
  · rintro (⟨earlier, elapsed, events, later, rfl, hmet⟩ | ⟨⟨elapsed, events, rfl⟩, hmet⟩)
    · exact ⟨earlier, elapsed, events, later ++ [turn], by simp, hmet⟩
    · exact ⟨history, elapsed, events, [], rfl, hmet⟩

theorem metBeforeTick_concat_of_ne_tick
    (h : ∀ elapsed events, turn ≠ (.tick elapsed, .tick events)) :
    MetBeforeTick sought (history ++ [turn]) entity ↔ history.MetBeforeTick sought entity := by
  refine metBeforeTick_concat.trans (or_iff_left ?_)
  rintro ⟨⟨elapsed, events, heq⟩, -⟩
  exact h elapsed events heq

theorem metBeforeTick_concat_tick {elapsed : Duration} {events : List ServerEvent} :
    MetBeforeTick sought (history ++ [(.tick elapsed, .tick events)]) entity ↔
      history.Met sought entity := by
  simpa [metBeforeTick_concat] using fun hbefore => hbefore.met

/-- Every tick of a history has some property, given what was before it and what it told. -/
def EachTick (history : History) (property : History → List ServerEvent → Prop) : Prop :=
  ∀ earlier elapsed events later, history = earlier ++ (.tick elapsed, .tick events) :: later →
    property earlier events

theorem EachTick.concat {property : History → List ServerEvent → Prop}
    (h : history.EachTick property)
    (hlast : ∀ elapsed events, turn = (.tick elapsed, .tick events) → property history events) :
    EachTick (history ++ [turn]) property := by
  intro earlier elapsed events later hsplit
  rcases concat_eq_append_cons_iff.1 hsplit with ⟨-, rfl, hturn⟩ | ⟨rest, -, hsplit⟩
  · exact hlast elapsed events hturn
  · exact h earlier elapsed events rest hsplit

theorem Departed.detached (h : history.Departed entity) : history.Detached entity :=
  MetBeforeTick.met h

theorem detached_concat : Detached (history ++ [turn]) entity ↔
    history.Detached entity ∨ detached? turn = some entity :=
  met_concat

theorem detached_concat_of_none (h : detached? turn = none) :
    Detached (history ++ [turn]) entity ↔ history.Detached entity := by
  simp [detached_concat, h]

theorem departed_concat_of_ne_tick (h : ∀ elapsed events, turn ≠ (.tick elapsed, .tick events)) :
    Departed (history ++ [turn]) entity ↔ history.Departed entity :=
  metBeforeTick_concat_of_ne_tick h

theorem departed_concat_tick {elapsed : Duration} {events : List ServerEvent} :
    Departed (history ++ [(.tick elapsed, .tick events)]) entity ↔ history.Detached entity :=
  metBeforeTick_concat_tick

theorem entrants_concat :
    entrants (history ++ [turn]) = history.entrants ++ (admitted? turn).toList := by
  rw [entrants, List.filterMap_append, ← entrants]
  cases hturn : admitted? turn <;> simp [hturn]

end History

/-- The state of a simulation is the one that its history tells of. -/
structure Recounts (history : History) (simulation : Simulation) : Prop where
  nextId : simulation.nextId.toNat = history.entrants.length + 1
  below : ∀ entity ∈ history.entrants, entity.val.toNat < simulation.nextId.toNat
  distinct : history.entrants.Nodup
  hosted : ∀ entity, entity ∈ simulation.hosted ↔
    entity ∈ history.entrants ∧ ¬ history.Departed entity
  removals : ∀ entity, entity ∈ simulation.world.removals ↔
    history.Detached entity ∧ ¬ history.Departed entity
  entered : ∀ entity, history.Detached entity → entity ∈ history.entrants
  told : ∀ earlier elapsed events later,
    history = earlier ++ (.tick elapsed, .tick events) :: later → ∀ entity,
      ToldOnceIf (History.Detached earlier entity ∧ ¬ History.Departed earlier entity) entity events

variable {history : History} {before after : Simulation} {operation : Operation} {answer : Answer}

/-- What ticks tell is what it was, with what the last tells. -/
theorem Recounts.told_concat (h : Recounts history before) {turn : Operation × Answer}
    (hlast : ∀ elapsed events, turn = (.tick elapsed, .tick events) → ∀ entity,
      ToldOnceIf (history.Detached entity ∧ ¬ history.Departed entity) entity events)
    (earlier : History) (elapsed : Duration) (events : List ServerEvent) (later : History)
    (hsplit : history ++ [turn] = earlier ++ (.tick elapsed, .tick events) :: later)
    (entity : EntityId) :
    ToldOnceIf (History.Detached earlier entity ∧ ¬ History.Departed earlier entity) entity
      events :=
  History.EachTick.concat h.told hlast earlier elapsed events later hsplit entity

theorem Recounts.toNat_nextId_add_one (h : Recounts history before)
    (hfew : history.entrants.length + 1 < UInt32.size - 1) :
    (before.nextId + 1).toNat = before.nextId.toNat + 1 := by
  have hnextId := h.nextId
  have hsize : UInt32.size = 4294967296 := rfl
  rw [UInt32.toNat_add]
  simp only [UInt32.reduceToNat]
  omega

theorem Recounts.admits (h : Recounts history before) {payload : List UInt8}
    {client : Option ClientId} (hnext : after.nextId = before.nextId + 1)
    (hhosted : ∀ entity, entity ∈ after.hosted ↔ entity = ⟨before.nextId⟩ ∨ entity ∈ before.hosted)
    (hremovals : after.world.removals = before.world.removals)
    (hfew : history.entrants.length + 1 < UInt32.size - 1) :
    Recounts (history ++ [(.login payload client, .login (.ok ⟨before.nextId⟩))]) after := by
  have hentrants : History.entrants (history ++
      [(.login payload client, .login (.ok ⟨before.nextId⟩))]) =
        history.entrants ++ [⟨before.nextId⟩] := History.entrants_concat
  have hdetached : ∀ entity, History.Detached (history ++
      [(.login payload client, .login (.ok ⟨before.nextId⟩))]) entity ↔ history.Detached entity :=
    fun _ => History.detached_concat_of_none rfl
  have hdeparted : ∀ entity, History.Departed (history ++
      [(.login payload client, .login (.ok ⟨before.nextId⟩))]) entity ↔ history.Departed entity :=
    fun _ => History.departed_concat_of_ne_tick fun _ _ heq => by cases heq
  have hnew : ⟨before.nextId⟩ ∉ history.entrants := fun hmem => Nat.lt_irrefl _ (h.below _ hmem)
  have hstep := h.toNat_nextId_add_one hfew
  rw [← hnext] at hstep
  refine ⟨?_, fun entity hmem => ?_, ?_, fun entity => ?_, fun entity => ?_, fun entity hgone => ?_,
    h.told_concat fun _ _ heq => by cases heq⟩
  · rw [hstep, hentrants, h.nextId, List.length_append, List.length_singleton]
  · rw [hstep]
    rw [hentrants, List.mem_append, List.mem_singleton] at hmem
    rcases hmem with hmem | rfl
    · exact Nat.lt_succ_of_lt (h.below entity hmem)
    · exact Nat.lt_succ_self _
  · rw [hentrants, ← List.concat_eq_append, List.nodup_concat]
    exact ⟨hnew, h.distinct⟩
  · rw [hhosted, h.hosted, hdeparted, hentrants, List.mem_append, List.mem_singleton]
    constructor
    · rintro (rfl | ⟨hmem, hstays⟩)
      · exact ⟨.inr rfl, fun hdeparted => hnew (h.entered _ hdeparted.detached)⟩
      · exact ⟨.inl hmem, hstays⟩
    · rintro ⟨hmem | rfl, hstays⟩
      · exact .inr ⟨hmem, hstays⟩
      · exact .inl rfl
  · rw [hremovals, hdetached, hdeparted, h.removals]
  · rw [hentrants]
    exact List.mem_append_left _ (h.entered entity ((hdetached entity).1 hgone))

/-- Nobody enters, and who is there and who awaits removal are told by the longer history. -/
theorem Recounts.concat (h : Recounts history before) {turn : Operation × Answer}
    (hadmitted : History.admitted? turn = none) (hnext : after.nextId = before.nextId)
    (hhosted : ∀ entity, entity ∈ after.hosted ↔
      entity ∈ history.entrants ∧ ¬ History.Departed (history ++ [turn]) entity)
    (hremovals : ∀ entity, entity ∈ after.world.removals ↔
      History.Detached (history ++ [turn]) entity ∧ ¬ History.Departed (history ++ [turn]) entity)
    (hentered : ∀ entity, History.detached? turn = some entity → entity ∈ history.entrants)
    (htold : ∀ elapsed events, turn = (.tick elapsed, .tick events) → ∀ entity,
      ToldOnceIf (history.Detached entity ∧ ¬ history.Departed entity) entity events) :
    Recounts (history ++ [turn]) after := by
  have hentrants : History.entrants (history ++ [turn]) = history.entrants := by
    simp [History.entrants_concat, hadmitted]
  refine ⟨?_, ?_, ?_, fun entity => ?_, hremovals, fun entity hdetached => ?_,
    h.told_concat htold⟩
  · rw [hnext, hentrants, h.nextId]
  · rw [hnext, hentrants]
    exact h.below
  · rw [hentrants]
    exact h.distinct
  · rw [hentrants]
    exact hhosted entity
  · rw [hentrants]
    rcases History.detached_concat.1 hdetached with hbefore | hnow
    · exact h.entered entity hbefore
    · exact hentered entity hnow

theorem Recounts.detaches (h : Recounts history before) {alive : SessionId → Bool}
    {entity : EntityId} {outcome : Disconnect} (hthere : entity ∈ before.hosted)
    (hnext : after.nextId = before.nextId) (hhosted : after.hosted = before.hosted)
    (hremovals : ∀ other, other ∈ after.world.removals ↔
      other ∈ before.world.removals ∨ other = entity) :
    Recounts (history ++ [(.disconnect alive entity, .disconnect (.ok outcome))]) after := by
  obtain ⟨hentered, hstays⟩ := (h.hosted entity).1 hthere
  have hdeparted : ∀ other, History.Departed (history ++
      [(.disconnect alive entity, .disconnect (.ok outcome))]) other ↔ history.Departed other :=
    fun _ => History.departed_concat_of_ne_tick fun _ _ heq => by cases heq
  refine h.concat rfl hnext (fun other => ?_) (fun other => ?_) (fun other hsome => ?_)
    fun _ _ heq => by cases heq
  · rw [hhosted, h.hosted, hdeparted]
  · rw [hremovals, h.removals, hdeparted, History.detached_concat]
    simp only [History.detached?, Option.some.injEq]
    constructor
    · rintro (⟨hgone, hthere⟩ | rfl)
      · exact ⟨.inl hgone, hthere⟩
      · exact ⟨.inr rfl, hstays⟩
    · rintro ⟨hgone | rfl, hthere⟩
      · exact .inl ⟨hgone, hthere⟩
      · exact .inr rfl
  · cases hsome
    exact hentered

theorem Recounts.empties (h : Recounts history before) {elapsed : Duration}
    {events : List ServerEvent} (hnext : after.nextId = before.nextId)
    (hhosted : ∀ entity, entity ∈ after.hosted ↔
      entity ∈ before.hosted ∧ entity ∉ before.world.removals)
    (hremovals : after.world.removals = [])
    (htold : ∀ entity, ToldOnceIf (entity ∈ before.hosted ∧ entity ∈ before.world.removals) entity
      events) :
    Recounts (history ++ [(.tick elapsed, .tick events)]) after := by
  -- whose client was gone has departed now, or did before
  have hdeparted : ∀ entity, History.Departed (history ++ [(.tick elapsed, .tick events)]) entity ↔
      history.Detached entity := fun _ => History.departed_concat_tick
  have hleaves : ∀ entity, entity ∈ before.hosted ∧ entity ∈ before.world.removals ↔
      history.Detached entity ∧ ¬ history.Departed entity := fun entity => by
    rw [h.hosted, h.removals]
    exact ⟨And.right, fun hleaves => ⟨⟨h.entered entity hleaves.1, hleaves.2⟩, hleaves⟩⟩
  refine h.concat rfl hnext (fun entity => ?_) (fun entity => ?_)
    (fun entity hsome => by cases hsome) fun _ _ heq entity => ?_
  · rw [hhosted, h.hosted, h.removals, hdeparted]
    constructor
    · rintro ⟨⟨hentered, hthere⟩, hstays⟩
      exact ⟨hentered, fun hgone => hstays ⟨hgone, hthere⟩⟩
    · rintro ⟨hentered, hstays⟩
      exact ⟨⟨hentered, fun hdeparted => hstays hdeparted.detached⟩, fun hgone => hstays hgone.1⟩
  · rw [hremovals, hdeparted, History.detached_concat]
    simp [History.detached?]
  · cases heq
    rw [← hleaves]
    exact htold entity

theorem Recounts.refuses (h : Recounts history before) (hnext : after.nextId = before.nextId)
    (hhosted : after.hosted = before.hosted)
    (hremovals : ∀ entity, entity ∈ after.world.removals ↔ entity ∈ before.world.removals)
    (hlogin : ∀ entity, answer ≠ .login (.ok entity))
    (hdisconnect : ∀ outcome, answer ≠ .disconnect (.ok outcome))
    (htick : ∀ events, answer ≠ .tick events) :
    Recounts (history ++ [(operation, answer)]) after := by
  have hadmitted : History.admitted? (operation, answer) = none := by
    unfold History.admitted?
    split
    · next entity heq => exact absurd (congrArg Prod.snd heq) (hlogin entity)
    · rfl
  have hdetached : History.detached? (operation, answer) = none := by
    unfold History.detached?
    split
    · next outcome heq => exact absurd (congrArg Prod.snd heq) (hdisconnect outcome)
    · rfl
  have hnotick : ∀ elapsed events, (operation, answer) ≠ (.tick elapsed, .tick events) :=
    fun _ events heq => htick events (congrArg Prod.snd heq)
  have hdeparted : ∀ entity, History.Departed (history ++ [(operation, answer)]) entity ↔
      history.Departed entity := fun _ => History.departed_concat_of_ne_tick hnotick
  refine h.concat hadmitted hnext (fun entity => ?_) (fun entity => ?_) (fun entity hsome => ?_)
    fun elapsed events heq => absurd heq (hnotick elapsed events)
  · rw [hhosted, h.hosted, hdeparted]
  · rw [hremovals, h.removals, hdeparted, History.detached_concat_of_none hdetached]
  · rw [hdetached] at hsome
    cases hsome

/-- One more operation, with few logins so far. -/
theorem Recounts.turn (h : Recounts history before) (hturn : before.Turn after operation answer)
    (hfew : (History.entrants (history ++ [(operation, answer)])).length < UInt32.size - 1) :
    Recounts (history ++ [(operation, answer)]) after := by
  cases hturn with
  | admits hnext hhosted hremovals =>
    rw [History.entrants_concat, List.length_append] at hfew
    exact h.admits hnext hhosted hremovals hfew
  | detaches hthere hnext hhosted hremovals => exact h.detaches hthere hnext hhosted hremovals
  | empties hnext hhosted hremovals htold => exact h.empties hnext hhosted hremovals htold
  | refuses hnext hhosted hremovals hlogin hdisconnect htick =>
    exact h.refuses hnext hhosted hremovals hlogin hdisconnect htick

/-! ### Runs -/

theorem respondAll_concat (simulation : Simulation) (operations : List Operation)
    (operation : Operation) :
    simulation.respondAll (operations ++ [operation]) = do
      let (before, history) ← simulation.respondAll operations
      let (after, answer) ← before.respond operation
      return (after, history ++ [(operation, answer)]) := by
  simp [respondAll]

theorem recounts_start {context : CharacterContext} {format : Load Unit} :
    Recounts [] { context, format } where
  nextId := rfl
  below _ hmem := by cases hmem
  distinct := .nil
  hosted entity := iff_of_false (fun hmem => by cases hmem) fun hboth => by cases hboth.1
  removals entity := iff_of_false (fun hmem => by cases hmem) fun hboth => by
    obtain ⟨⟨turn, hmem, -⟩, -⟩ := hboth
    cases hmem
  entered entity hdetached := by
    obtain ⟨turn, hmem, -⟩ := hdetached
    cases hmem
  told earlier elapsed events later hnil := by simp at hnil

/-- Nothing stops a run, and what holds at first and is kept by every operation holds at its end. -/
theorem exists_respondAll_of {context : CharacterContext} {format : Load Unit}
    {motive : History → Simulation → Prop} (hkeeping : context.callbacks.Keeping)
    (hnil : motive [] { context, format })
    (hconcat : ∀ history before operation after answer, before.Sound →
      (before.respond operation).result = .ok (after, answer) → motive history before →
      motive (history ++ [(operation, answer)]) after) (operations : List Operation) :
    ∃ after history, (({ context, format } : Simulation).respondAll operations).result =
        .ok (after, history) ∧ after.Sound ∧ history.map Prod.fst = operations ∧
      motive history after := by
  induction operations using List.reverseRecOn with
  | nil => exact ⟨_, [], rfl, ⟨hkeeping, fun _ _ hfound => by cases hfound⟩, rfl, hnil⟩
  | append_singleton earlier operation ih =>
    obtain ⟨before, history, hbefore, hsound, hmap, hmotive⟩ := ih
    obtain ⟨⟨after, answer⟩, hafter, hlast, -⟩ := (hsound.responds operation).exists_ok
    refine ⟨after, history ++ [(operation, answer)], ?_, hlast, by simp [hmap],
      hconcat history before operation after answer hsound hafter hmotive⟩
    rw [respondAll_concat, Step.bind_of_ok hbefore]
    dsimp only
    rw [Step.bind_of_ok hafter]
    rfl

theorem map_fst_of_respondAll {simulation after : Simulation} {operations : List Operation}
    (h : (simulation.respondAll operations).result = .ok (after, history)) :
    history.map Prod.fst = operations := by
  induction operations using List.reverseRecOn generalizing after history with
  | nil =>
    cases h
    rfl
  | append_singleton earlier operation ih =>
    rw [respondAll_concat] at h
    obtain ⟨⟨before, past⟩, hbefore, h, -⟩ := Step.bind_eq_ok h
    obtain ⟨⟨next, answer⟩, -, h, -⟩ := Step.bind_eq_ok h
    cases h
    rw [List.map_append, ih hbefore]
    rfl

/-- A turn of a history was answered by the state that the history before it leads to. -/
theorem exists_respond_of_respondAll {simulation after : Simulation} {operations : List Operation}
    {earlier later : History} {turn : Operation × Answer}
    (h : (simulation.respondAll operations).result = .ok (after, earlier ++ turn :: later)) :
    ∃ before next, (simulation.respondAll (earlier.map Prod.fst)).result = .ok (before, earlier) ∧
      (before.respond turn.1).result = .ok (next, turn.2) := by
  induction operations using List.reverseRecOn generalizing after later with
  | nil =>
    have hnil : [] = earlier ++ turn :: later := congrArg Prod.snd (Except.ok.inj h)
    simp at hnil
  | append_singleton first operation ih =>
    rw [respondAll_concat] at h
    obtain ⟨⟨before, past⟩, hbefore, h, -⟩ := Step.bind_eq_ok h
    obtain ⟨⟨next, answer⟩, hnext, h, -⟩ := Step.bind_eq_ok h
    have hsplit : past ++ [(operation, answer)] = earlier ++ turn :: later :=
      congrArg Prod.snd (Except.ok.inj h)
    rcases concat_eq_append_cons_iff.1 hsplit with ⟨-, rfl, rfl⟩ | ⟨rest, -, rfl⟩
    · exact ⟨before, next, by rwa [map_fst_of_respondAll hbefore], hnext⟩
    · exact ih hbefore

/-- The history of a run tells of the state that it ends in. -/
theorem exists_respondAll {context : CharacterContext} {format : Load Unit}
    (hkeeping : context.callbacks.Keeping) (operations : List Operation) :
    ∃ after history, (({ context, format } : Simulation).respondAll operations).result =
        .ok (after, history) ∧ after.Sound ∧ history.map Prod.fst = operations ∧
      (history.entrants.length < UInt32.size - 1 → Recounts history after) := by
  refine exists_respondAll_of hkeeping (fun _ => recounts_start) ?_ operations
  intro history before operation after answer hsound hafter hrecounts hfew
  have hturn := ((hsound.responds operation).result _ hafter).2
  refine (hrecounts ?_).turn hturn hfew
  rw [History.entrants_concat, List.length_append] at hfew
  omega

theorem refused_of_absent {simulation : Simulation} {entity : EntityId}
    (h : simulation.character? entity = none) :
    (∀ alive, simulation.disconnect alive entity =
        pure (simulation, .error (.unknownCharacter entity))) ∧
      simulation.respawn entity = pure (simulation, .error (.unknownCharacter entity)) ∧
      simulation.status entity = pure none := by
  refine ⟨fun alive => ?_, ?_, ?_⟩
  · rw [disconnect, h]
  · rw [respawn, h]
  · rw [status, h]

/-- Every run of a simulation whose callbacks take no component away comes to its end. As long as
ids do not run out, no two logins are answered by the same, an entity is there from its login to the
end of the first tick after its client was gone, and this tick alone tells that it left, once. Who
is not there is unknown, and asking for it changes nothing. -/
theorem enters_and_leaves_once {context : CharacterContext} {format : Load Unit}
    (hkeeping : context.callbacks.Keeping) (operations : List Operation) :
    ∃ after history, (({ context, format } : Simulation).respondAll operations).result =
        .ok (after, history) ∧ history.map Prod.fst = operations ∧
      (history.entrants.length < UInt32.size - 1 →
        history.entrants.Nodup ∧
        (∀ entity, (∃ character, after.character? entity = some character) ↔
          entity ∈ history.entrants ∧ ¬ history.Departed entity) ∧
        (∀ entity ∈ history.entrants, ¬ history.Detached entity →
          ∃ character, after.character? entity = some character) ∧
        ∀ earlier elapsed events later,
          history = earlier ++ (.tick elapsed, .tick events) :: later → ∀ entity,
            ToldOnceIf (History.Detached earlier entity ∧ ¬ History.Departed earlier entity) entity
              events) ∧
      ∀ entity, after.character? entity = none →
        (∀ alive, after.disconnect alive entity =
            pure (after, .error (.unknownCharacter entity))) ∧
          after.respawn entity = pure (after, .error (.unknownCharacter entity)) ∧
          after.status entity = pure none := by
  obtain ⟨after, history, hrun, -, hmap, hrecounts⟩ := exists_respondAll hkeeping operations
  refine ⟨after, history, hrun, hmap, fun hfew => ?_, fun entity => refused_of_absent⟩
  have hrecount := hrecounts hfew
  have hthere : ∀ entity, (∃ character, after.character? entity = some character) ↔
      entity ∈ history.entrants ∧ ¬ history.Departed entity := fun entity =>
    SortedMap.mem_keys_iff.symm.trans (hrecount.hosted entity)
  refine ⟨hrecount.distinct, hthere, fun entity hentered hstays => ?_, hrecount.told⟩
  exact (hthere entity).2 ⟨hentered, fun hdeparted => hstays hdeparted.detached⟩

/-- What is seen of a turn: who is admitted or detached by it, and the events of a tick. -/
def visitView (turn : Operation × Answer) :
    Option EntityId × Option EntityId × Option (List ServerEvent) :=
  (History.admitted? turn, History.detached? turn,
    match turn.2 with
    | .tick events => some events
    | _ => none)

/-- A visit to the sample simulation, and a tick. -/
theorem leaves_once_of_sample : ∃ after history,
    (sample.respondAll (sampleVisit ++ [.tick .zero])).result = .ok (after, history) ∧
      history.entrants = [⟨1⟩] ∧ after.character? ⟨1⟩ = none := by
  have hview : (do
      let (_, history) ← sample.respondAll (sampleVisit ++ [Operation.tick .zero])
      return history.map visitView).result = .ok [(some ⟨1⟩, none, none), (none, some ⟨1⟩, none),
        (none, none, some [.removed ⟨1⟩ 7 1 ⟨2, 3⟩])] := by decide +kernel
  obtain ⟨after, history, hrun, hmap, hfew, -⟩ := @enters_and_leaves_once { registry := .sample }
    Load.standard ScriptCallbacks.keeping_none (sampleVisit ++ [.tick .zero])
  obtain ⟨⟨other, same⟩, hsame, hview, -⟩ := Step.bind_eq_ok hview
  cases hsame.symm.trans hrun
  have hlength : history.length = 3 := by simpa [sampleVisit] using congrArg List.length hmap
  obtain ⟨login, disconnect, ⟨operation, answer⟩, rfl⟩ := List.length_eq_three.1 hlength
  simp only [Step.result_pure, List.map_cons, List.map_nil, Except.ok.injEq, List.cons.injEq,
    visitView, Prod.mk.injEq, and_true] at hview
  obtain ⟨⟨hlogin, -, -⟩, ⟨hnone, hdisconnect, -⟩, hlast, -, hevents⟩ := hview
  have hentrants : History.entrants [login, disconnect, (operation, answer)] = [⟨1⟩] := by
    simp [History.entrants, hlogin, hnone, hlast]
  obtain ⟨-, hthere, -⟩ := hfew (by rw [hentrants]; decide)
  refine ⟨after, _, hrun, hentrants, Option.eq_none_iff_forall_ne_some.2 fun character hfound => ?_⟩
  obtain ⟨-, hstays⟩ := (hthere ⟨1⟩).1 ⟨character, hfound⟩
  obtain ⟨rfl⟩ : operation = .tick .zero := by simpa [sampleVisit] using congrArg List.getLast? hmap
  cases answer with
  | tick events =>
    exact hstays ⟨[login, disconnect], _, events, [], rfl, disconnect, by simp, hdisconnect⟩
  | _ => cases hevents

end Simulation

end CharacterSim
