import CharacterSim.Proofs.Character.ClientView
import CharacterSim.Proofs.Character.Reporting
import CharacterSim.Proofs.Server.Isolation

/-! Everything is persisted before a character leaves. In the tick that tells of its leaving a
character has reported every attribute as it is, unless the attribute never changed since the
character was made; it reports nothing before it is made and nothing after it has left. -/

namespace CharacterSim

theorem Entity.Edits.keeps {before after : Entity} (h : before.Edits after) : before.Keeps after :=
  ⟨h.id_eq, h.complete⟩

theorem ScriptCallbacks.Gentle.keeping {callbacks : ScriptCallbacks} (h : callbacks.Gentle) :
    callbacks.Keeping where
  death callback hcallback history entity := (h.death callback hcallback history entity).keeps
  deathAccepted callback hcallback history entity :=
    (h.deathAccepted callback hcallback history entity).keeps
  login callback hcallback history entity := (h.login callback hcallback history entity).keeps

namespace Simulation

variable {entity : EntityId} {simulation before after : Simulation} {operation : Operation}
  {answer : Answer} {reply : Reply} {moment : Moment} {context : CharacterContext}
  {format : Load Unit}

/-! ### What is asked of a simulation, as acts -/

/-- The act that an operation of a simulation is. -/
def Operation.act : Operation → Act
  | .login payload client => .login payload client
  | .disconnect alive entity => .demand entity (.disconnect alive)
  | .damage entity amount => .demand entity (.damage amount)
  | .respawn entity => .demand entity .respawn
  | .tick elapsed => .tick elapsed

theorem obey_act (operation : Operation) :
    simulation.obey operation.act = simulation.serve operation := by
  cases operation <;> rfl

/-- An operation is answered, and the answer tells what it did to the population. -/
theorem Sound.exists_obey (h : simulation.Sound) (operation : Operation) :
    ∃ after answer, (simulation.obey operation.act).result = .ok (after, .answered answer) ∧
      after.Sound ∧ simulation.Turn after operation answer := by
  obtain ⟨⟨after, answer⟩, hrespond, hsound, hturn⟩ := (h.responds operation).exists_ok
  refine ⟨after, answer, ?_, hsound, hturn⟩
  rw [obey_act, serve, Step.bind_of_ok hrespond]
  rfl

/-- Nothing stops a run, and what is kept by every operation holds at its end. -/
theorem Sound.exists_attend {motive : List Moment → Simulation → Prop} (h : simulation.Sound)
    {past : List Moment} (hpast : motive past simulation)
    (hconcat : ∀ past before operation after answer, before.Sound →
      (before.obey operation.act).result = .ok (after, .answered answer) →
      before.Turn after operation answer → motive past before →
      motive (past ++ [⟨before, operation.act, .answered answer, after⟩]) after)
    (operations : List Operation) :
    ∃ final moments, (simulation.attend (operations.map Operation.act)).result =
      .ok (final, moments) ∧ motive (past ++ moments) final := by
  induction operations generalizing simulation past with
  | nil => exact ⟨simulation, [], rfl, by rwa [List.append_nil]⟩
  | cons operation rest ih =>
    obtain ⟨after, answer, hobey, hsound, hturn⟩ := h.exists_obey operation
    obtain ⟨final, moments, hrun, hfinal⟩ :=
      ih hsound (hconcat past simulation operation after answer h hobey hturn hpast)
    refine ⟨final, _, attend_cons_of_ok hobey hrun, ?_⟩
    simpa using hfinal

theorem Turn.exists_login (h : before.Turn after operation (.login (.ok entity))) :
    ∃ payload client, operation = .login payload client := by
  cases h with
  | admits => exact ⟨_, _, rfl⟩
  | refuses _ _ _ hlogin => exact absurd rfl (hlogin entity)

theorem Turn.exists_tick {events : List ServerEvent}
    (h : before.Turn after operation (.tick events)) : ∃ elapsed, operation = .tick elapsed := by
  cases h with
  | empties => exact ⟨_, rfl⟩
  | refuses _ _ _ _ _ htick => exact absurd rfl (htick events)

theorem shared_of_obey {act : Act} (h : (simulation.obey act).result = .ok (after, reply)) :
    after.context = simulation.context ∧ after.format = simulation.format := by
  cases act with
  | login payload client =>
    rw [obey_login] at h
    obtain ⟨outcome, -, hlast, -⟩ := Step.bind_eq_ok h
    cases outcome <;> cases hlast <;> exact ⟨rfl, rfl⟩
  | tick elapsed =>
    rw [obey_tick] at h
    obtain ⟨ticked, hticked, hlast, -⟩ := Step.bind_eq_ok h
    cases hlast
    have hrest := (separates_of_tick hticked).rest
    rw [hrest]
    exact ⟨rfl, rfl⟩
  | demand other demand =>
    cases hcharacter : simulation.character? other with
    | none =>
      rw [obey_of_absent hcharacter] at h
      cases h
      exact ⟨rfl, rfl⟩
    | some character =>
      rw [obey_of_present hcharacter] at h
      obtain ⟨met, -, hlast, -⟩ := Step.bind_eq_ok h
      cases hlast
      exact ⟨rfl, rfl⟩

/-! ### What befalls one entity in a moment -/

/-- The moment admits a character under an id. -/
def Moment.Admits (entity : EntityId) (moment : Moment) : Prop :=
  moment.reply = .answered (.login (.ok entity))

/-- The moment is a tick that tells of the leaving of an entity. -/
def Moment.Removes (entity : EntityId) (moment : Moment) : Prop :=
  ∃ events, moment.reply = .answered (.tick events) ∧ ∃ event ∈ events, event.tells entity = true

/-- The moment is a login, accepted under an id, and the first thing in it was that a character was
made of what the message says, of which nothing was reported. -/
def Moment.Makes (entity : EntityId) (moment : Moment) (start : Character) : Prop :=
  moment.Admits entity ∧ ∃ payload client making rest, moment.act = .login payload client ∧
    Character.ofMessage entity moment.before.context moment.before.format client
      (.ofBytes payload) = ⟨making, .ok (.ok start, rest)⟩ ∧
    making <+: moment.before.share moment.act entity ∧ Effect.reports making = []

/-- The moment is a tick that tells of the leaving of an entity, which was this character at the very
end, after all had acted and been moved. -/
def Moment.Releases (entity : EntityId) (moment : Moment) (leaving : Character) : Prop :=
  ∃ elapsed characters events, moment.act = .tick elapsed ∧
    (moment.before.moved elapsed).result = .ok characters ∧
    characters.get? entity = some leaving ∧ moment.reply = .answered (.tick events) ∧
    ∃ event ∈ events, leaving.farewell entity = some event

/-- What can become of an entity in a moment: it is not there, it enters, it goes on, or it leaves. -/
inductive Moment.Befalls (entity : EntityId) (moment : Moment) : Prop where
  | absent (hadmits : ¬ moment.Admits entity) (hremoves : ¬ moment.Removes entity)
    (hbefore : moment.before.character? entity = none)
    (hafter : moment.after.character? entity = none)
    (hquiet : ∀ effect ∈ moment.before.share moment.act entity, effect.Quiet)
  | enters (hremoves : ¬ moment.Removes entity) {start now : Character}
    (hmakes : moment.Makes entity start) (hstart : start.Reporting [] start)
    (hafter : moment.after.character? entity = some now)
    (hinforms : start.Informs (moment.before.share moment.act entity) now)
  | goesOn (hadmits : ¬ moment.Admits entity) (hremoves : ¬ moment.Removes entity)
    {earlier now : Character} (hbefore : moment.before.character? entity = some earlier)
    (hafter : moment.after.character? entity = some now)
    (hinforms : earlier.Informs (moment.before.share moment.act entity) now)
  | leaves (hadmits : ¬ moment.Admits entity) {earlier leaving : Character}
    (hbefore : moment.before.character? entity = some earlier)
    (hafter : moment.after.character? entity = none) (hreleases : moment.Releases entity leaving)
    (hinforms : earlier.Informs (moment.before.share moment.act entity) leaving)
    (hsettled : ∀ id, ¬ leaving.Pending id)

/-- A moment that leaves an entity as it is. -/
theorem Moment.befalls_of_same (hadmits : ¬ moment.Admits entity)
    (hremoves : ¬ moment.Removes entity)
    (hsame : moment.after.character? entity = moment.before.character? entity)
    (hquiet : ∀ effect ∈ moment.before.share moment.act entity, effect.Quiet) :
    moment.Befalls entity := by
  cases hbefore : moment.before.character? entity with
  | none => exact .absent hadmits hremoves hbefore (hsame.trans hbefore) hquiet
  | some character =>
    exact .goesOn hadmits hremoves hbefore (hsame.trans hbefore)
      (Character.informs_of_quiet hquiet)

/-! ### Logins -/

theorem quiet_of_entrant_error {payload : List UInt8} {client : Option ClientId}
    {refusal : ConstructionError}
    (h : (simulation.entrant payload client).result = .ok (.error refusal)) :
    ∀ effect ∈ (simulation.entrant payload client).effects, effect.Quiet := by
  rw [entrant] at h ⊢
  obtain ⟨⟨outcome, rest⟩, hborn, hlast, heffects⟩ := Step.bind_eq_ok h
  have hlogs := (@Character.ofMessage_ensures ⟨simulation.nextId⟩ simulation.context client
    simulation.format (.ofBytes payload)).effects
  cases outcome with
  | error other =>
    intro effect hmem
    rw [heffects] at hmem
    obtain ⟨event, rfl⟩ := hlogs effect (by simpa using hmem)
    trivial
  | ok character =>
    obtain ⟨greeted, -, hrest, -⟩ := Step.bind_eq_ok hlast
    obtain ⟨name, -, hname, -⟩ := Step.bind_eq_ok hrest
    cases hname

/-- The account server is informed of who enters, from the construction on. -/
theorem informs_of_entrant {payload : List UInt8} {client : Option ClientId} {now : Character}
    (hcatalog : simulation.context.registry.Accepted) (hformat : simulation.format.Proper)
    (hcallbacks : simulation.context.callbacks.Gentle)
    (h : (simulation.entrant payload client).result = .ok (.ok now)) :
    ∃ start making rest, Character.ofMessage ⟨simulation.nextId⟩ simulation.context
        simulation.format client (.ofBytes payload) = ⟨making, .ok (.ok start, rest)⟩ ∧
      making <+: (simulation.entrant payload client).effects ∧ Effect.reports making = [] ∧
      start.Reporting [] start ∧
      start.Informs (simulation.entrant payload client).effects now := by
  rw [entrant] at h ⊢
  obtain ⟨⟨outcome, rest⟩, hborn, hlast, heffects⟩ := Step.bind_eq_ok h
  cases outcome with
  | error refusal => cases hlast
  | ok start =>
    obtain ⟨hquiet, -, hstart⟩ :=
      Character.reporting_of_ofMessage hcatalog hformat hcallbacks hborn
    refine ⟨start, _, rest, Step.ext rfl hborn, ⟨_, heffects.symm⟩,
      Effect.reports_of_quiet hquiet, hstart, ?_⟩
    rw [heffects]
    apply (Character.informs_of_quiet hquiet).trans
    obtain ⟨greeted, hgreeted, hrest, hmore⟩ := Step.bind_eq_ok hlast
    dsimp only at hmore ⊢
    rw [hmore]
    have hgreets := Character.informs_perform .triggerLoginCallback trivial
      Character.Operation.noConfusion hgreeted
    apply hgreets.trans
    obtain ⟨name, hname, hlog, hnamed⟩ := Step.bind_eq_ok hrest
    rw [hnamed]
    cases hlog
    apply Character.informs_of_quiet
    have hsilent : now.name.effects = [] := by
      rw [Character.name, Step.effects_bind_pure, Character.requireBeing]
      cases now.entity.being? <;> rfl
    rw [hsilent, List.nil_append, Step.log, Step.emit_bind]
    simp [Effect.Quiet]

/-- A login is no matter to those who are not admitted by it. -/
theorem Moment.befalls_login_other {payload : List UInt8} {client : Option ClientId}
    (hobey : (before.obey (.login payload client)).result = .ok (after, reply))
    (hremoves : ¬ Moment.Removes entity ⟨before, .login payload client, reply, after⟩)
    (hother : entity ≠ ⟨before.nextId⟩) :
    Moment.Befalls entity ⟨before, .login payload client, reply, after⟩ := by
  have hshare : before.share (.login payload client) entity = [] := if_neg (Ne.symm hother)
  have hquiet : ∀ effect ∈ before.share (.login payload client) entity, effect.Quiet := by
    intro effect hmem
    rw [hshare] at hmem
    cases hmem
  rw [obey_login] at hobey
  obtain ⟨outcome, -, hlast, -⟩ := Step.bind_eq_ok hobey
  cases outcome with
  | error refusal =>
    cases hlast
    exact befalls_of_same (fun hadmits => by cases hadmits) hremoves rfl hquiet
  | ok now =>
    cases hlast
    apply befalls_of_same _ hremoves (character?_setCharacter_of_ne hother) hquiet
    intro hadmits
    cases hadmits
    exact hother rfl

theorem Moment.befalls_login {payload : List UInt8} {client : Option ClientId}
    (hcatalog : before.context.registry.Accepted) (hformat : before.format.Proper)
    (hcallbacks : before.context.callbacks.Gentle)
    (hobey : (before.obey (.login payload client)).result = .ok (after, reply))
    (hremoves : ∀ events, reply ≠ .answered (.tick events)) :
    Moment.Befalls entity ⟨before, .login payload client, reply, after⟩ := by
  have hstays : ¬ Moment.Removes entity ⟨before, .login payload client, reply, after⟩ := by
    rintro ⟨events, htick, -⟩
    exact hremoves events htick
  by_cases heq : entity = ⟨before.nextId⟩
  · subst heq
    have hshare : before.share (.login payload client) ⟨before.nextId⟩ =
        (before.entrant payload client).effects := by
      rw [share, if_pos rfl, obey_login, Step.effects_bind_pure]
    rw [obey_login] at hobey
    obtain ⟨outcome, hentrant, hlast, -⟩ := Step.bind_eq_ok hobey
    cases outcome with
    | error refusal =>
      cases hlast
      apply befalls_of_same (fun hadmits => by cases hadmits) hstays rfl
      rw [hshare]
      exact quiet_of_entrant_error hentrant
    | ok now =>
      cases hlast
      obtain ⟨start, making, rest, hborn, hfirst, hsilent, hstart, hinforms⟩ :=
        informs_of_entrant hcatalog hformat hcallbacks hentrant
      rw [← hshare] at hfirst hinforms
      refine .enters hstays ⟨rfl, ?_⟩ hstart character?_setCharacter_self hinforms
      exact ⟨payload, client, making, rest, rfl, hborn, hfirst, hsilent⟩
  · exact befalls_login_other hobey hstays heq

/-! ### Demands -/

/-- A character that meets a demand keeps the account server informed, unless who holds it does more
than a server asks for. -/
theorem Demand.informs_of_meet {demand : Demand} {character : Character} {outcome : Outcome}
    (hserved : ∀ operation, demand ≠ .mutate operation)
    (hmet : (demand.meet entity character).result = .ok outcome) :
    character.Informs (demand.meet entity character).effects outcome.character := by
  cases demand with
  | disconnect alive =>
    rw [meet] at hmet ⊢
    obtain ⟨⟨⟨after, left⟩, requests⟩, hgone, hrest, heffects⟩ := Step.bind_eq_ok hmet
    rw [heffects]
    apply (Character.informs_disconnected (Step.result_of_withRequests hgone)).trans
    dsimp only [Step.log] at hrest ⊢
    rw [Step.emit_bind] at hrest ⊢
    cases hrest
    exact Character.informs_of_quiet (by simp [Effect.Quiet])
  | damage amount =>
    rw [meet] at hmet ⊢
    obtain ⟨hurt, hdamage, hlast, -⟩ := Step.bind_eq_ok hmet
    cases hlast
    rw [Step.effects_bind_pure]
    exact Character.informs_damaged hdamage
  | respawn =>
    rw [meet] at hmet ⊢
    obtain ⟨⟨⟨after, revived⟩, requests⟩, hrespawn, hlast, -⟩ := Step.bind_eq_ok hmet
    cases hlast
    rw [Step.effects_bind_pure]
    exact Character.informs_respawn (Step.result_of_withRequests hrespawn)
  | mutate operation => exact absurd rfl (hserved operation)

theorem Moment.befalls_demand {other : EntityId} {demand : Demand}
    (hserved : ∀ operation, demand ≠ .mutate operation)
    (hobey : (before.obey (.demand other demand)).result = .ok (after, reply))
    (hadmits : ¬ Moment.Admits entity ⟨before, .demand other demand, reply, after⟩)
    (hremoves : ¬ Moment.Removes entity ⟨before, .demand other demand, reply, after⟩) :
    Moment.Befalls entity ⟨before, .demand other demand, reply, after⟩ := by
  have hshare : before.share (.demand other demand) entity =
      if other = entity then (before.obey (.demand other demand)).effects else [] := rfl
  cases hcharacter : before.character? other with
  | none =>
    rw [obey_of_absent hcharacter] at hobey hshare
    cases hobey
    apply befalls_of_same hadmits hremoves rfl
    intro effect hmem
    rw [hshare] at hmem
    simp at hmem
  | some character =>
    rw [obey_of_present hcharacter, Step.effects_bind_pure] at hshare
    rw [obey_of_present hcharacter] at hobey
    obtain ⟨met, hmet, hlast, -⟩ := Step.bind_eq_ok hobey
    cases hlast
    by_cases heq : other = entity
    · subst heq
      rw [if_pos rfl] at hshare
      have hinforms := demand.informs_of_meet hserved hmet
      rw [← hshare] at hinforms
      exact .goesOn hadmits hremoves hcharacter character?_setCharacter_self hinforms
    · rw [if_neg heq] at hshare
      apply befalls_of_same hadmits hremoves (character?_setCharacter_of_ne (Ne.symm heq))
      intro effect hmem
      rw [hshare] at hmem
      cases hmem

/-! ### Ticks -/

theorem exists_moved_of_tick {elapsed : Duration} {ticked : Simulation × List ServerEvent}
    (h : (simulation.tick elapsed).result = .ok ticked) :
    ∃ characters, (simulation.moved elapsed).result = .ok characters ∧
      ∀ entity, characters.get? entity = simulation.arrival elapsed entity := by
  rw [tick_eq] at h
  obtain ⟨characters, hmoved, -, -⟩ := Step.bind_eq_ok h
  have hturns : ∀ other character, simulation.character? other = some character →
      (character.turn elapsed).Ensures (fun _ => True) (fun _ => True) fun _ => True :=
    fun _ _ _ => Step.ensures_trivial
  exact ⟨characters, hmoved,
    ((moved_arrives (fun _ _ => trivial) hturns).result characters hmoved).2⟩

/-- It is told of no entity that it leaves, unless it is there and is to leave. -/
theorem Moment.not_removes_of_tick {elapsed : Duration} {ticked : Simulation × List ServerEvent}
    (hticked : (before.tick elapsed).result = .ok ticked)
    (hstays : before.arrival elapsed entity = none ∨ entity ∉ before.world.removals) :
    ¬ Moment.Removes entity ⟨before, .tick elapsed, .answered (.tick ticked.2), ticked.1⟩ := by
  intro hremoves
  obtain ⟨events, heq, event, hmem, htells⟩ := hremoves
  cases heq
  have htold : event ∈ ticked.2.filter (·.tells entity) := List.mem_filter.2 ⟨hmem, htells⟩
  rw [(separates_of_tick hticked).told entity] at htold
  rcases hstays with hnone | hnot
  · simp [hnone] at htold
  · simp [hnot] at htold

/-- Who is there and is to leave, leaves as it is after all have acted and been moved. -/
theorem Moment.releases_of_tick {elapsed : Duration} {ticked : Simulation × List ServerEvent}
    {leaving : Character} (hticked : (before.tick elapsed).result = .ok ticked)
    (hmem : entity ∈ before.world.removals)
    (harrival : before.arrival elapsed entity = some leaving) :
    Moment.Releases entity ⟨before, .tick elapsed, .answered (.tick ticked.2), ticked.1⟩
      leaving := by
  have hseparates := separates_of_tick hticked
  obtain ⟨characters, hmoved, hall⟩ := exists_moved_of_tick hticked
  obtain ⟨actor, hactor⟩ :=
    Option.ne_none_iff_exists'.1 (hseparates.placed entity hmem leaving harrival)
  obtain ⟨event, hfarewell⟩ : ∃ event, leaving.farewell entity = some event :=
    ⟨_, congrArg (Option.map _) hactor⟩
  have htold : event ∈ ticked.2.filter (·.tells entity) := by
    rw [hseparates.told entity, if_pos hmem, harrival, Option.bind_some, hfarewell]
    exact List.mem_singleton_self _
  exact ⟨elapsed, characters, ticked.2, rfl, hmoved, (hall entity).trans harrival, rfl, event,
    (List.mem_filter.1 htold).1, hfarewell⟩

theorem Moment.befalls_tick {elapsed : Duration} (hsound : before.Sound)
    (hobey : (before.obey (.tick elapsed)).result = .ok (after, reply))
    (hadmits : ¬ Moment.Admits entity ⟨before, .tick elapsed, reply, after⟩) :
    Moment.Befalls entity ⟨before, .tick elapsed, reply, after⟩ := by
  rw [obey_tick] at hobey
  obtain ⟨ticked, hticked, hlast, -⟩ := Step.bind_eq_ok hobey
  cases hlast
  have hseparates := separates_of_tick hticked
  have hafter := hseparates.character entity
  have hshare : before.share (.tick elapsed) entity =
      ((before.character? entity).map fun character => (character.turn elapsed).effects).getD [] :=
    rfl
  cases hcharacter : before.character? entity with
  | none =>
    have hnone : before.arrival elapsed entity = none := by
      rw [arrival, hcharacter]
      rfl
    rw [hnone, ite_self] at hafter
    refine .absent hadmits (not_removes_of_tick hticked (.inl hnone)) hcharacter hafter ?_
    intro effect hmem
    rw [hshare, hcharacter] at hmem
    cases hmem
  | some character =>
    obtain ⟨later, hlater⟩ := hseparates.acted entity character hcharacter
    have harrival := arrival_of_ok hcharacter hlater
    have hinforms := (Character.informs_turn hlater).trans
      (Character.informs_landed entity before.world.warps)
    rw [hcharacter, Option.map_some, Option.getD_some] at hshare
    rw [List.append_nil, ← hshare] at hinforms
    by_cases hmem : entity ∈ before.world.removals
    · rw [if_pos hmem] at hafter
      apply Befalls.leaves hadmits hcharacter hafter (releases_of_tick hticked hmem harrival) hinforms
      intro id
      rw [Character.pending_landed]
      exact Character.not_pending_of_turn (hsound.characters entity character hcharacter) hlater
    · rw [if_neg hmem, harrival] at hafter
      exact .goesOn hadmits (not_removes_of_tick hticked (.inr hmem)) hcharacter hafter hinforms

/-- What one operation does to one entity. -/
theorem Moment.befalls (hsound : before.Sound) (hcatalog : before.context.registry.Accepted)
    (hformat : before.format.Proper) (hcallbacks : before.context.callbacks.Gentle)
    (hobey : (before.obey operation.act).result = .ok (after, .answered answer))
    (hturn : before.Turn after operation answer) (entity : EntityId) :
    Moment.Befalls entity ⟨before, operation.act, .answered answer, after⟩ := by
  have hadmits : (∀ payload client, operation ≠ .login payload client) →
      ¬ Moment.Admits entity ⟨before, operation.act, .answered answer, after⟩ := by
    intro hother hadmits
    cases hadmits
    obtain ⟨payload, client, heq⟩ := hturn.exists_login
    exact hother payload client heq
  have hremoves : (∀ elapsed, operation ≠ .tick elapsed) → ∀ events, answer ≠ .tick events := by
    rintro hother events rfl
    obtain ⟨elapsed, heq⟩ := hturn.exists_tick
    exact hother elapsed heq
  have hstays : (∀ elapsed, operation ≠ .tick elapsed) →
      ¬ Moment.Removes entity ⟨before, operation.act, .answered answer, after⟩ := by
    rintro hother ⟨events, heq, -⟩
    cases heq
    exact hremoves hother events rfl
  cases operation with
  | login payload client =>
    apply befalls_login hcatalog hformat hcallbacks hobey
    intro events heq
    cases heq
    exact hremoves (fun _ => Operation.noConfusion) events rfl
  | disconnect alive other =>
    exact befalls_demand (fun _ => Demand.noConfusion) hobey
      (hadmits fun _ _ => Operation.noConfusion) (hstays fun _ => Operation.noConfusion)
  | damage other amount =>
    exact befalls_demand (fun _ => Demand.noConfusion) hobey
      (hadmits fun _ _ => Operation.noConfusion) (hstays fun _ => Operation.noConfusion)
  | respawn other =>
    exact befalls_demand (fun _ => Demand.noConfusion) hobey
      (hadmits fun _ _ => Operation.noConfusion) (hstays fun _ => Operation.noConfusion)
  | tick elapsed => exact befalls_tick hsound hobey (hadmits fun _ _ => Operation.noConfusion)

/-! ### What is known of one entity in the course of a run -/

/-- What was done by way of one entity in some moments. -/
def shares (entity : EntityId) (moments : List Moment) : List Effect :=
  moments.flatMap fun moment => moment.before.share moment.act entity

/-- The last of the characters that some moments made for an entity, and what the entity has done
since. -/
def HasDone (entity : EntityId) (past : List Moment) (start : Character) (deeds : List Effect) :
    Prop :=
  ∃ earlier login meanwhile, past = earlier ++ login :: meanwhile ∧ login.Makes entity start ∧
    (∀ moment ∈ meanwhile, ¬ moment.Admits entity) ∧ deeds = shares entity (login :: meanwhile)

/-- When a tick tells of the leaving of an entity, then every attribute that differs from how it was
when the character was made has been reported as it is. -/
def Persisted (entity : EntityId) (past : List Moment) (leave : Moment) : Prop :=
  ∃ start deeds leaving, HasDone entity past start deeds ∧ leave.Releases entity leaving ∧
    leaving.databaseId = start.databaseId ∧
    ∀ id, Character.Kept start (deeds ++ leave.before.share leave.act entity) leaving id

theorem shares_concat (moments : List Moment) (moment : Moment) :
    shares entity (moments ++ [moment]) =
      shares entity moments ++ moment.before.share moment.act entity := by
  simp [shares]

theorem hasDone_concat_self {past : List Moment} {start : Character}
    (h : moment.Makes entity start) :
    HasDone entity (past ++ [moment]) start (moment.before.share moment.act entity) :=
  ⟨past, moment, [], rfl, h, (fun _ hmem => by cases hmem), by simp [shares]⟩

theorem HasDone.concat {past : List Moment} {start : Character} {deeds : List Effect}
    (h : HasDone entity past start deeds) (hadmits : ¬ moment.Admits entity) :
    HasDone entity (past ++ [moment]) start
      (deeds ++ moment.before.share moment.act entity) := by
  obtain ⟨earlier, login, meanwhile, rfl, hmakes, hmeanwhile, rfl⟩ := h
  refine ⟨earlier, login, meanwhile ++ [moment], by simp, hmakes, ?_, ?_⟩
  · intro other hmem
    rcases List.mem_append.1 hmem with hmem | hmem
    · exact hmeanwhile other hmem
    · exact List.mem_singleton.1 hmem ▸ hadmits
  · rw [← List.cons_append, shares_concat]

/-- What the past of a run says of an entity: if it is there, what the account server knows of it; and
what was known when it left; and that it does nothing while it is gone. -/
structure Recorded (context : CharacterContext) (format : Load Unit) (entity : EntityId)
    (past : List Moment) (now : Simulation) : Prop where
  context : now.context = context
  format : now.format = format
  present : ∀ character, now.character? entity = some character →
    ∃ start deeds, HasDone entity past start deeds ∧ start.Reporting deeds character
  persisted : ∀ earlier leave later, past = earlier ++ leave :: later → leave.Removes entity →
    Persisted entity earlier leave
  gone : ∀ earlier leave since, past = earlier ++ leave :: since → leave.Removes entity →
    (∀ moment ∈ since, ¬ moment.Admits entity) → now.character? entity = none
  silent : ∀ earlier leave since later, past = earlier ++ leave :: (since ++ later) →
    leave.Removes entity → (∀ moment ∈ since, ¬ moment.Admits entity) →
    Effect.reports (shares entity since) = []

namespace Recorded

variable {past : List Moment}

theorem present_concat (h : Recorded context format entity past moment.before)
    (hbefalls : moment.Befalls entity) {character : Character}
    (hthere : moment.after.character? entity = some character) :
    ∃ start deeds, HasDone entity (past ++ [moment]) start deeds ∧
      start.Reporting deeds character := by
  cases hbefalls with
  | absent _ _ _ hafter => cases hafter.symm.trans hthere
  | leaves _ _ hafter => cases hafter.symm.trans hthere
  | @enters _ start now hmakes hstart hafter hinforms =>
    cases hafter.symm.trans hthere
    exact ⟨start, _, hasDone_concat_self hmakes, hinforms start [] hstart⟩
  | @goesOn hadmits _ earlier now hbefore hafter hinforms =>
    cases hafter.symm.trans hthere
    obtain ⟨start, deeds, hdone, hreporting⟩ := h.present earlier hbefore
    exact ⟨start, _, hdone.concat hadmits, hinforms start deeds hreporting⟩

/-- Who leaves has reported everything. -/
theorem persisted_of_removes (h : Recorded context format entity past moment.before)
    (hbefalls : moment.Befalls entity) (hremoves : moment.Removes entity) :
    Persisted entity past moment := by
  cases hbefalls with
  | absent _ hstays => exact absurd hremoves hstays
  | enters hstays => exact absurd hremoves hstays
  | goesOn _ hstays => exact absurd hremoves hstays
  | @leaves _ earlier leaving hbefore _ hreleases hinforms hsettled =>
    obtain ⟨start, deeds, hdone, hreporting⟩ := h.present earlier hbefore
    have hleaving := hinforms start deeds hreporting
    exact ⟨start, deeds, leaving, hdone, hreleases, hleaving.databaseId,
      fun id => hleaving.kept (hsettled id)⟩

/-- Who is gone stays away and reports nothing, until somebody is admitted under its id. -/
theorem absent_of_gone (hgone : moment.before.character? entity = none)
    (hbefalls : moment.Befalls entity) (hadmits : ¬ moment.Admits entity) :
    moment.after.character? entity = none ∧
      Effect.reports (moment.before.share moment.act entity) = [] := by
  cases hbefalls with
  | absent _ _ _ hafter hquiet => exact ⟨hafter, Effect.reports_of_quiet hquiet⟩
  | enters _ hmakes => exact absurd hmakes.1 hadmits
  | goesOn _ _ hbefore => cases hgone.symm.trans hbefore
  | leaves _ hbefore => cases hgone.symm.trans hbefore

theorem gone_concat (h : Recorded context format entity past moment.before)
    (hbefalls : moment.Befalls entity) {earlier since : List Moment} {leave : Moment}
    (hsplit : past ++ [moment] = earlier ++ leave :: since) (hremoves : leave.Removes entity)
    (hsince : ∀ moment ∈ since, ¬ moment.Admits entity) :
    moment.after.character? entity = none := by
  rcases concat_eq_append_cons_iff.1 hsplit with ⟨rfl, rfl, rfl⟩ | ⟨rest, rfl, rfl⟩
  · cases hbefalls with
    | absent _ hstays => exact absurd hremoves hstays
    | enters hstays => exact absurd hremoves hstays
    | goesOn _ hstays => exact absurd hremoves hstays
    | leaves _ _ hafter => exact hafter
  · have hrest : ∀ other ∈ rest, ¬ other.Admits entity := by
      intro other hmem
      exact hsince other (List.mem_append_left _ hmem)
    have hgone := h.gone earlier leave rest rfl hremoves hrest
    exact (absent_of_gone hgone hbefalls (hsince moment (by simp))).1

theorem silent_concat (h : Recorded context format entity past moment.before)
    (hbefalls : moment.Befalls entity) {earlier since later : List Moment} {leave : Moment}
    (hsplit : past ++ [moment] = earlier ++ leave :: (since ++ later))
    (hremoves : leave.Removes entity) (hsince : ∀ moment ∈ since, ¬ moment.Admits entity) :
    Effect.reports (shares entity since) = [] := by
  rcases List.eq_nil_or_concat later with rfl | ⟨rest, last, rfl⟩
  · rw [List.append_nil] at hsplit
    rcases concat_eq_append_cons_iff.1 hsplit with ⟨rfl, -, -⟩ | ⟨rest, rfl, rfl⟩
    · rfl
    · have hrest : ∀ other ∈ rest, ¬ other.Admits entity := by
        intro other hmem
        exact hsince other (List.mem_append_left _ hmem)
      have hgone := h.gone earlier leave rest rfl hremoves hrest
      have hnow := (absent_of_gone hgone hbefalls (hsince moment (by simp))).2
      have hbefore := h.silent earlier leave rest [] (by simp) hremoves hrest
      rw [shares_concat, Effect.reports_append, hbefore, hnow, List.append_nil]
  · rcases concat_eq_append_cons_iff.1 hsplit with ⟨heq, -, -⟩ | ⟨others, heq, rfl⟩
    · simp at heq
    · rw [List.concat_eq_append, ← List.append_assoc] at heq
      obtain ⟨rfl, -⟩ := List.append_inj' heq rfl
      exact h.silent earlier leave since rest rfl hremoves hsince

theorem concat (h : Recorded context format entity past moment.before)
    (hshared : moment.after.context = moment.before.context ∧
      moment.after.format = moment.before.format) (hbefalls : moment.Befalls entity) :
    Recorded context format entity (past ++ [moment]) moment.after where
  context := hshared.1.trans h.context
  format := hshared.2.trans h.format
  present _ hthere := h.present_concat hbefalls hthere
  persisted earlier leave later hsplit hremoves := by
    rcases concat_eq_append_cons_iff.1 hsplit with ⟨-, rfl, rfl⟩ | ⟨rest, -, hsplit⟩
    · exact h.persisted_of_removes hbefalls hremoves
    · exact h.persisted earlier leave rest hsplit hremoves
  gone _ _ _ hsplit hremoves hsince := h.gone_concat hbefalls hsplit hremoves hsince
  silent _ _ _ _ hsplit hremoves hsince := h.silent_concat hbefalls hsplit hremoves hsince

end Recorded

theorem recorded_start : Recorded context format entity [] { context, format } where
  context := rfl
  format := rfl
  present _ hthere := by cases hthere
  persisted _ _ _ hsplit := by simp at hsplit
  gone _ _ _ hsplit := by simp at hsplit
  silent _ _ _ _ hsplit := by simp at hsplit

theorem splits_of_attend {acts : List Act} {final : Simulation} {moments : List Moment}
    (hrun : (simulation.attend acts).result = .ok (final, moments)) :
    ∀ moment ∈ moments, Effect.SplitInto (moment.before.share moment.act)
      (moment.before.obey moment.act).effects := by
  induction acts generalizing simulation moments with
  | nil =>
    cases hrun
    intro moment hmem
    cases hmem
  | cons act rest ih =>
    obtain ⟨after, reply, later, hobey, hlater, rfl⟩ := exists_of_attend_cons hrun
    exact List.forall_mem_cons.2 ⟨obey_splits hobey, ih hlater⟩

/-- Everything is persisted before a character leaves. Scripts may change attributes and modifiers,
but neither take note of changes nor take a component away. Whatever operations a server is asked for,
nothing stops it, and all it does is done by way of one of its characters, or an entry in the log. When
a tick tells that an entity leaves, there was a login before it under that id, the last one, in which
nothing was reported of the character that was made. Each attribute whose base or modified value is
not the one it was made with at the end of the tick has since been reported by the entity under its
database id, and the last report of it has those final values. Afterwards nothing is reported by the
entity, until another is admitted under its id. -/
theorem persisted_before_removal (hcatalog : context.registry.Accepted) (hformat : format.Proper)
    (hcallbacks : context.callbacks.Gentle) (operations : List Operation) :
    ∃ final moments, (({ context, format } : Simulation).attend
        (operations.map Operation.act)).result = .ok (final, moments) ∧
      (∀ moment ∈ moments, Effect.SplitInto (moment.before.share moment.act)
        (moment.before.obey moment.act).effects) ∧
      ∀ entity past leave later, moments = past ++ leave :: later → leave.Removes entity →
        Persisted entity past leave ∧
        ∀ since, since <+: later → (∀ moment ∈ since, ¬ moment.Admits entity) →
          Effect.reports (shares entity since) = [] := by
  have hsound : ({ context, format } : Simulation).Sound :=
    ⟨hcallbacks.keeping, fun _ _ hfound => by cases hfound⟩
  have hconcat : ∀ past before operation after answer, before.Sound →
      (before.obey operation.act).result = .ok (after, .answered answer) →
      before.Turn after operation answer →
      (∀ entity, Recorded context format entity past before) → ∀ entity, Recorded context format
        entity (past ++ [⟨before, operation.act, .answered answer, after⟩]) after := by
    intro past before operation after answer hbefore hobey hturn hpast entity
    let moment : Moment := ⟨before, operation.act, .answered answer, after⟩
    have hentity : Recorded context format entity past moment.before := hpast entity
    refine hentity.concat (shared_of_obey hobey) ?_
    exact Moment.befalls hbefore (hentity.context.symm ▸ hcatalog) (hentity.format.symm ▸ hformat)
      (hentity.context.symm ▸ hcallbacks) hobey hturn entity
  obtain ⟨final, moments, hrun, hrecorded⟩ :=
    hsound.exists_attend (fun _ => recorded_start) hconcat operations
  refine ⟨final, moments, hrun, splits_of_attend hrun, ?_⟩
  intro entity past leave later hsplit hremoves
  have hentity := hrecorded entity
  rw [List.nil_append] at hentity
  refine ⟨hentity.persisted past leave later hsplit hremoves, ?_⟩
  rintro since ⟨rest, rfl⟩ hsince
  exact hentity.silent past leave since rest hsplit hremoves hsince

/-- A simulation in which a script makes those who die stronger. -/
def sampleScripted : Simulation :=
  { context := { registry := .sample, callbacks := Character.sampleCallbacks } }

/-- Someone enters, dies, goes away and leaves. -/
def sampleEnd : List Operation :=
  [.login Character.sampleLogin none, .damage ⟨1⟩ 1000.0, .disconnect (fun _ => false) ⟨1⟩,
    .tick .zero]

/-- The events that an answer tells of. -/
def Answer.told : Answer → List ServerEvent
  | .tick events => events
  | .login _ | .disconnect _ | .damage _ | .respawn _ => []

def Reply.told : Reply → List ServerEvent
  | .answered answer => answer.told
  | .mutated _ => []

theorem Moment.removes_of_told {moment : Moment} {entity : EntityId}
    (h : moment.reply.told.any (·.tells entity) = true) : moment.Removes entity := by
  obtain ⟨before, act, reply, after⟩ := moment
  cases reply with
  | answered answer =>
    cases answer with
    | tick events => exact ⟨events, rfl, List.any_eq_true.1 h⟩
    | login | disconnect | damage | respawn => cases h
  | mutated answer => cases h

/-- What the account server is told on behalf of an entity, and whether in the end it leaves. -/
def sampleView (entity : EntityId) (moments : List Moment) :
    List (AttributeId × Int32 × Float × Float) × Bool :=
  ((Effect.reports (shares entity moments)).map fun report =>
      (report.1, report.2.databaseId, report.2.base, report.2.modified),
    moments.getLast?.any fun moment => moment.reply.told.any (·.tells entity))

/-- What death and revival have changed is reported in the tick in which the character leaves. -/
theorem persisted_of_sampleEnd : ∃ final moments past leave,
    (sampleScripted.attend (sampleEnd.map Operation.act)).result = .ok (final, moments) ∧
      moments = past ++ [leave] ∧ leave.Removes ⟨1⟩ ∧ Persisted ⟨1⟩ past leave ∧
      (sampleView ⟨1⟩ moments).1 =
        [(⟨1⟩, 7, 9.0, 9.0), (.hp, 7, 108.0, 108.0), (.maxHp, 7, 90.0, 108.0)] := by
  obtain ⟨final, moments, hrun, -, hleave⟩ :=
    @persisted_before_removal sampleScripted.context Load.standard AttributeRegistry.sample_accepted
      Load.proper_standard Character.sampleCallbacks_gentle sampleEnd
  have hview : (do
      return sampleView ⟨1⟩ (← sampleScripted.attend (sampleEnd.map Operation.act)).2).result =
        .ok ([(⟨1⟩, 7, 9.0, 9.0), (.hp, 7, 108.0, 108.0), (.maxHp, 7, 90.0, 108.0)], true) := by
    decide +kernel
  obtain ⟨⟨other, same⟩, hsame, hview, -⟩ := Step.bind_eq_ok hview
  cases hsame.symm.trans hrun
  have hview : sampleView ⟨1⟩ moments = _ := Except.ok.inj hview
  rcases List.eq_nil_or_concat moments with rfl | ⟨past, leave, hsplit⟩
  · cases congrArg Prod.snd hview
  · rw [List.concat_eq_append] at hsplit
    have hremoves : leave.Removes ⟨1⟩ := by
      have htells := congrArg Prod.snd hview
      rw [hsplit, sampleView, List.getLast?_concat] at htells
      exact Moment.removes_of_told htells
    exact ⟨final, moments, past, leave, hrun, hsplit, hremoves,
      (hleave ⟨1⟩ past leave [] hsplit hremoves).1, congrArg Prod.fst hview⟩

end Simulation

end CharacterSim
