import CharacterSim.Proofs.Server.Announcement

/-! What is announced of one entity reads as a visit: it logs in, its client is gone, and it is removed.
Its client may be gone more than once before the next tick; nothing is announced of it after its
removal. -/

namespace CharacterSim

namespace ServerEvent

/-- The entity that an event is about. -/
def entity : ServerEvent → EntityId
  | loggedIn entity _ => entity
  | disconnected entity _ => entity
  | removed entity .. => entity

/-- Those events that are about one entity. -/
def about (entity : EntityId) (events : List ServerEvent) : List ServerEvent :=
  events.filter (·.entity = entity)

/-- How a visit reads. -/
inductive Visit (entity : EntityId) : List ServerEvent → Prop where
  | of (databaseId lastId : Int32) (outcomes : List Disconnect) (map : MapId) (position : Position)
    (hgone : outcomes ≠ []) :
    Visit entity (loggedIn entity databaseId ::
      (outcomes.map (disconnected entity) ++ [removed entity lastId map position]))

/-- A visit, or as much of one as there has been. -/
def BeginsVisit (entity : EntityId) (events : List ServerEvent) : Prop :=
  ∃ visit, Visit entity visit ∧ events <+: visit

variable {entity other : EntityId} {events more : List ServerEvent}

@[simp] theorem about_append : about entity (events ++ more) = about entity events ++ about entity more :=
  List.filter_append ..

@[simp] theorem entity_loggedIn (databaseId : Int32) : (loggedIn entity databaseId).entity = entity :=
  rfl

@[simp] theorem entity_disconnected (outcome : Disconnect) :
    (disconnected entity outcome).entity = entity := rfl

theorem about_singleton (event : ServerEvent) :
    about entity [event] = if event.entity = entity then [event] else [] := by
  simp [about, List.filter_cons]

/-- Of events that tell of removals, those are about an entity that tell of its own. -/
theorem about_of_tells (h : ∀ event ∈ events, ∃ other, event.tells other = true) :
    about entity events = events.filter (·.tells entity) := by
  apply List.filter_congr
  intro event hmem
  obtain ⟨other, htells⟩ := h event hmem
  cases event with
  | removed => rfl
  | _ => cases htells

/-- What tells of a removal once is that removal. -/
theorem filter_tells_of_once (h : events.countP (·.tells entity) = 1) :
    ∃ lastId map position, events.filter (·.tells entity) = [removed entity lastId map position] := by
  rw [List.countP_eq_length_filter] at h
  obtain ⟨event, hevent⟩ := List.length_eq_one_iff.1 h
  have hmem : event ∈ events.filter (·.tells entity) := by simp [hevent]
  have htells := (List.mem_filter.1 hmem).2
  cases event with
  | removed other lastId map position =>
    obtain rfl : other = entity := of_decide_eq_true htells
    exact ⟨lastId, map, position, hevent⟩
  | _ => cases htells

theorem filter_tells_of_never (h : events.countP (·.tells entity) = 0) :
    events.filter (·.tells entity) = [] := by
  rw [List.countP_eq_length_filter] at h
  exact List.length_eq_zero_iff.1 h

end ServerEvent

namespace Simulation

open ServerEvent

namespace History

/-- What was announced of an entity, by what its history is. -/
inductive Reads (history : History) (entity : EntityId) : List ServerEvent → Prop where
  | unknown (hunknown : entity ∉ history.entrants) : Reads history entity []
  | present (databaseId : Int32) (outcomes : List Disconnect) (hentered : entity ∈ history.entrants)
    (hstays : ¬ history.Departed entity) (hgone : outcomes ≠ [] ↔ history.Detached entity) :
    Reads history entity (.loggedIn entity databaseId :: outcomes.map (.disconnected entity))
  | departed (databaseId lastId : Int32) (outcomes : List Disconnect) (map : MapId)
    (position : Position) (hentered : entity ∈ history.entrants)
    (hdeparted : history.Departed entity) (hgone : outcomes ≠ []) :
    Reads history entity (.loggedIn entity databaseId ::
      (outcomes.map (.disconnected entity) ++ [.removed entity lastId map position]))

variable {history : History} {entity : EntityId} {told : List ServerEvent}

theorem Reads.beginsVisit (h : history.Reads entity told) : BeginsVisit entity told := by
  cases h with
  | unknown hunknown =>
    exact ⟨_, .of 0 0 [.removed] 0 ⟨0, 0⟩ (List.cons_ne_nil _ _), List.nil_prefix⟩
  | present databaseId outcomes hentered hstays hgone =>
    by_cases hnone : outcomes = []
    · subst hnone
      exact ⟨_, .of databaseId 0 [.removed] 0 ⟨0, 0⟩ (List.cons_ne_nil _ _), List.prefix_append _ _⟩
    · exact ⟨_, .of databaseId 0 outcomes 0 ⟨0, 0⟩ hnone,
        List.prefix_append (_ :: outcomes.map (ServerEvent.disconnected entity)) _⟩
  | departed databaseId lastId outcomes map position hentered hdeparted hgone =>
    exact ⟨_, .of databaseId lastId outcomes map position hgone, List.prefix_rfl⟩

/-- What does not concern an entity leaves what was announced of it as it was. -/
theorem Reads.concat (h : history.Reads entity told) {turn : Operation × Answer}
    (hentrants : entity ∈ entrants (history ++ [turn]) ↔ entity ∈ history.entrants)
    (hdetached : Detached (history ++ [turn]) entity ↔ history.Detached entity)
    (hdeparted : Departed (history ++ [turn]) entity ↔ history.Departed entity) :
    Reads (history ++ [turn]) entity told := by
  cases h with
  | unknown hunknown => exact .unknown (by rwa [hentrants])
  | present databaseId outcomes hentered hstays hgone =>
    refine .present databaseId outcomes (hentrants.2 hentered) ?_ ?_
    · rwa [hdeparted]
    · rwa [hdetached]
  | departed databaseId lastId outcomes map position hentered hdone hgone =>
    exact .departed databaseId lastId outcomes map position (hentrants.2 hentered)
      (hdeparted.2 hdone) hgone

end History

variable {history : History} {before after : Simulation} {operation : Operation} {answer : Answer}
  {entity : EntityId} {told : List ServerEvent}

/-- One who enters is announced to enter, and was not heard of before. -/
theorem Recounts.reads_admits {payload : List UInt8} {client : Option ClientId}
    (h : Recounts history before)
    (hafter : Recounts (history ++ [(.login payload client, .login (.ok ⟨before.nextId⟩))]) after)
    (hthere : ⟨before.nextId⟩ ∈ after.hosted) (hreads : history.Reads entity told) :
    History.Reads (history ++ [(.login payload client, .login (.ok ⟨before.nextId⟩))]) entity
      (told ++ about entity
        (after.announcements (.login payload client, .login (.ok ⟨before.nextId⟩)))) := by
  have hentrants : History.entrants (history ++
      [(.login payload client, .login (.ok ⟨before.nextId⟩))]) =
        history.entrants ++ [⟨before.nextId⟩] := History.entrants_concat
  have hdetached : History.Detached (history ++
      [(.login payload client, .login (.ok ⟨before.nextId⟩))]) entity ↔ history.Detached entity :=
    History.detached_concat_of_none rfl
  have hdeparted : History.Departed (history ++
      [(.login payload client, .login (.ok ⟨before.nextId⟩))]) entity ↔ history.Departed entity :=
    History.departed_concat_of_ne_tick fun _ _ heq => by cases heq
  obtain ⟨character, hcharacter⟩ := SortedMap.mem_keys_iff.1 hthere
  have hannounced : after.announcements (.login payload client, .login (.ok ⟨before.nextId⟩)) =
      [.loggedIn ⟨before.nextId⟩ character.databaseId] := by
    rw [announcements, character?, hcharacter]
    rfl
  rw [hannounced]
  by_cases heq : ⟨before.nextId⟩ = entity
  · subst heq
    have hnew : ⟨before.nextId⟩ ∉ history.entrants := by
      have hdistinct := hafter.distinct
      rw [hentrants, ← List.concat_eq_append, List.nodup_concat] at hdistinct
      exact hdistinct.1
    have hnever : ¬ history.Detached ⟨before.nextId⟩ := fun hgone => hnew (h.entered _ hgone)
    rw [about_singleton, entity_loggedIn, if_pos rfl]
    cases hreads with
    | unknown hunknown =>
      refine .present character.databaseId [] ?_ ?_ ?_
      · rw [hentrants]
        exact List.mem_append_right _ List.mem_cons_self
      · rw [hdeparted]
        exact fun hgone => hnever hgone.detached
      · rw [hdetached]
        exact iff_of_false (fun hne => hne rfl) hnever
    | present _ _ hentered => exact absurd hentered hnew
    | departed _ _ _ _ _ hentered => exact absurd hentered hnew
  · rw [about_singleton, entity_loggedIn, if_neg heq, List.append_nil]
    refine hreads.concat ?_ hdetached hdeparted
    rw [hentrants, List.mem_append, List.mem_singleton]
    exact or_iff_left (Ne.symm heq)

/-- That a client is gone is announced each time, until the entity has left. -/
theorem Recounts.reads_detaches {alive : SessionId → Bool} {gone : EntityId}
    {outcome : Disconnect} (h : Recounts history before) (hthere : gone ∈ before.hosted)
    (hreads : history.Reads entity told) :
    History.Reads (history ++ [(.disconnect alive gone, .disconnect (.ok outcome))]) entity
      (told ++ about entity
        (after.announcements (.disconnect alive gone, .disconnect (.ok outcome)))) := by
  have hentrants : History.entrants (history ++
      [(.disconnect alive gone, .disconnect (.ok outcome))]) = history.entrants := by
    simp [History.entrants_concat, History.admitted?]
  have hdetached : History.Detached (history ++
      [(.disconnect alive gone, .disconnect (.ok outcome))]) entity ↔
        history.Detached entity ∨ gone = entity := by
    simp [History.detached_concat, History.detached?]
  have hdeparted : History.Departed (history ++
      [(.disconnect alive gone, .disconnect (.ok outcome))]) entity ↔ history.Departed entity :=
    History.departed_concat_of_ne_tick fun _ _ heq => by cases heq
  rw [announcements]
  by_cases heq : gone = entity
  · subst heq
    obtain ⟨hentered, hstays⟩ := (h.hosted gone).1 hthere
    rw [about_singleton, entity_disconnected, if_pos rfl]
    cases hreads with
    | unknown hunknown => exact absurd hentered hunknown
    | present databaseId outcomes =>
      have hmap : outcomes.map (disconnected gone) ++ [disconnected gone outcome] =
          (outcomes ++ [outcome]).map (disconnected gone) := by simp
      rw [List.cons_append, hmap]
      refine .present databaseId (outcomes ++ [outcome]) ?_ ?_ ?_
      · rwa [hentrants]
      · rwa [hdeparted]
      · rw [hdetached]
        exact iff_of_true (by simp) (.inr rfl)
    | departed _ _ _ _ _ _ hdone => exact absurd hdone hstays
  · rw [about_singleton, entity_disconnected, if_neg heq, List.append_nil]
    refine hreads.concat (by rw [hentrants]) ?_ hdeparted
    rw [hdetached]
    exact or_iff_left heq

/-- Those whose clients are gone are announced to be removed, by the next tick and no other. -/
theorem Recounts.reads_empties {elapsed : Duration} {events : List ServerEvent}
    (h : Recounts history before)
    (hafter : Recounts (history ++ [(.tick elapsed, .tick events)]) after)
    (htells : ∀ event ∈ events, ∃ other, event.tells other = true)
    (hreads : history.Reads entity told) :
    History.Reads (history ++ [(.tick elapsed, .tick events)]) entity
      (told ++ about entity (after.announcements (.tick elapsed, .tick events))) := by
  have hentrants : History.entrants (history ++ [(.tick elapsed, .tick events)]) =
      history.entrants := by
    simp [History.entrants_concat, History.admitted?]
  have hdetached : History.Detached (history ++ [(.tick elapsed, .tick events)]) entity ↔
      history.Detached entity := History.detached_concat_of_none rfl
  have hdeparted : History.Departed (history ++ [(.tick elapsed, .tick events)]) entity ↔
      history.Detached entity := History.departed_concat_tick
  obtain ⟨honce, hnever⟩ := hafter.told history elapsed events [] rfl entity
  rw [announcements, about_of_tells htells]
  by_cases hleaves : history.Detached entity ∧ ¬ history.Departed entity
  · obtain ⟨hgone, hstays⟩ := hleaves
    obtain ⟨lastId, map, position, hremoved⟩ := filter_tells_of_once (honce ⟨hgone, hstays⟩)
    rw [hremoved]
    cases hreads with
    | unknown hunknown => exact absurd (h.entered entity hgone) hunknown
    | present databaseId outcomes hentered _ hsome =>
      refine .departed databaseId lastId outcomes map position ?_ ?_ (hsome.2 hgone)
      · rwa [hentrants]
      · rwa [hdeparted]
    | departed _ _ _ _ _ _ hdone => exact absurd hdone hstays
  · rw [filter_tells_of_never (hnever hleaves), List.append_nil]
    refine hreads.concat (by rw [hentrants]) hdetached ?_
    rw [hdeparted]
    constructor
    · intro hgone
      exact by_contra fun hstays => hleaves ⟨hgone, hstays⟩
    · exact History.Departed.detached

/-- Whatever is done, what is announced of an entity goes on as its history does. -/
theorem Recounts.reads_turn (h : Recounts history before)
    (hafter : Recounts (history ++ [(operation, answer)]) after)
    (hrespond : (before.respond operation).result = .ok (after, answer))
    (hturn : before.Turn after operation answer) (hreads : history.Reads entity told) :
    History.Reads (history ++ [(operation, answer)]) entity
      (told ++ about entity (after.announcements (operation, answer))) := by
  cases hturn with
  | admits hnext hhosted hremovals =>
    exact h.reads_admits hafter ((hhosted _).2 (.inl rfl)) hreads
  | detaches hthere hnext hhosted hremovals => exact h.reads_detaches hthere hreads
  | empties hnext hhosted hremovals htold =>
    obtain ⟨⟨next, events⟩, hevents, hanswer, -⟩ := Step.bind_eq_ok hrespond
    cases hanswer
    exact h.reads_empties hafter (tells_of_tick hevents) hreads
  | refuses hnext hhosted hremovals hlogin hdisconnect htick =>
    have hnone : after.announcements (operation, answer) = [] := by
      unfold announcements
      split
      · next entity heq => exact absurd (congrArg Prod.snd heq) (hlogin entity)
      · next outcome heq => exact absurd (congrArg Prod.snd heq) (hdisconnect outcome)
      · next events heq => exact absurd (congrArg Prod.snd heq) (htick events)
      · rfl
    have hadmitted : History.admitted? (operation, answer) = none := by
      unfold History.admitted?
      split
      · next entity heq => exact absurd (congrArg Prod.snd heq) (hlogin entity)
      · rfl
    have hdetached : History.detached? (operation, answer) = none := by
      unfold History.detached?
      split
      · next outcome heq => exact absurd (congrArg Prod.snd heq) (hdisconnect outcome)
      · rfl
    rw [hnone]
    show History.Reads _ entity (told ++ [])
    rw [List.append_nil]
    refine hreads.concat ?_ (History.detached_concat_of_none hdetached)
      (History.departed_concat_of_ne_tick fun _ events heq => htick events (congrArg Prod.snd heq))
    simp [History.entrants_concat, hadmitted]

/-! ### Runs -/

/-- Those who entered a simulation and what was announced, as one history has it. No more is said once
ids run out. -/
structure Chronicles (simulation : Simulation) (entrants : List EntityId)
    (told : List ServerEvent) : Prop where
  sound : simulation.Sound
  history : entrants.length < UInt32.size - 1 → ∃ history : History, history.entrants = entrants ∧
    Recounts history simulation ∧ ∀ entity, history.Reads entity (about entity told)

variable {entrants : List EntityId}

theorem chronicles_start {context : CharacterContext} {format : Load Unit}
    (hkeeping : context.callbacks.Keeping) :
    ({ context, format } : Simulation).Chronicles [] [] where
  sound := ⟨hkeeping, fun _ _ hfound => by cases hfound⟩
  history _ := ⟨[], rfl, recounts_start, fun _ => .unknown List.not_mem_nil⟩

/-- One more operation. -/
theorem Chronicles.respond (h : before.Chronicles entrants told) (operation : Operation) :
    ∃ after answer, (before.respond operation).result = .ok (after, answer) ∧
      after.Chronicles (entrants ++ (History.admitted? (operation, answer)).toList)
        (told ++ after.announcements (operation, answer)) := by
  obtain ⟨⟨after, answer⟩, hrespond, hsound, hturn⟩ := (h.sound.responds operation).exists_ok
  refine ⟨after, answer, hrespond, hsound, fun hfew => ?_⟩
  have hbefore : entrants.length < UInt32.size - 1 := by
    rw [List.length_append] at hfew
    omega
  obtain ⟨history, hentrants, hrecounts, hreads⟩ := h.history hbefore
  have hlonger : History.entrants (history ++ [(operation, answer)]) =
      entrants ++ (History.admitted? (operation, answer)).toList := by
    rw [History.entrants_concat, hentrants]
  have hafter := hrecounts.turn hturn (by rwa [hlonger])
  refine ⟨history ++ [(operation, answer)], hlonger, hafter, ?_⟩
  intro entity
  rw [about_append]
  exact hrecounts.reads_turn hafter hrespond hturn (hreads entity)

theorem Chronicles.beginsVisit {simulation : Simulation} (h : simulation.Chronicles entrants told)
    (hfew : entrants.length < UInt32.size - 1) (entity : EntityId) :
    BeginsVisit entity (about entity told) := by
  obtain ⟨history, -, -, hreads⟩ := h.history hfew
  exact (hreads entity).beginsVisit

end Simulation

end CharacterSim
