import CharacterSim.Proofs.Server.Acts

/-! Two simulations can be alike to an entity while all else differs. What is demanded of others in
one of them keeps them alike, and so does whatever concerns the entity and happens in both. -/

namespace CharacterSim

namespace WorldQueue

/-- The queues hold the same for an entity: the same warps in the same order, and its removal or
not. -/
structure Agree (entity : EntityId) (first second : WorldQueue) : Prop where
  warps : second.warps.filter (·.entity = entity) = first.warps.filter (·.entity = entity)
  removals : entity ∈ second.removals ↔ entity ∈ first.removals

variable {entity : EntityId} {queue first second third : WorldQueue} {requests : List WorldRequest}

theorem Agree.refl (entity : EntityId) (queue : WorldQueue) : Agree entity queue queue := ⟨rfl, .rfl⟩

theorem Agree.symm (h : Agree entity first second) : Agree entity second first :=
  ⟨h.warps.symm, h.removals.symm⟩

theorem Agree.trans (h : Agree entity first second) (hthird : Agree entity second third) :
    Agree entity first third :=
  ⟨hthird.warps.trans h.warps, hthird.removals.trans h.removals⟩

theorem Agree.enqueueAll (h : Agree entity first second) (requests : List WorldRequest) :
    Agree entity (first.enqueueAll requests) (second.enqueueAll requests) := by
  induction requests generalizing first second with
  | nil => exact h
  | cons request rest ih =>
    have hnext : Agree entity (first.enqueue request) (second.enqueue request) := by
      cases request with
      | warp other map position =>
        refine ⟨?_, h.removals⟩
        rw [enqueue, enqueue, List.filter_append, List.filter_append, h.warps]
      | removal other =>
        refine ⟨h.warps, ?_⟩
        rw [enqueue, enqueue, List.mem_append, List.mem_append, h.removals]
    exact ih hnext

/-- What is requested for others is nothing to an entity. -/
theorem agree_enqueueAll (h : ∀ request ∈ requests, request.entity ≠ entity) :
    Agree entity queue (queue.enqueueAll requests) := by
  induction requests generalizing queue with
  | nil => exact .refl entity queue
  | cons request rest ih =>
    obtain ⟨hne, hrest⟩ := List.forall_mem_cons.1 h
    have hnext : Agree entity queue (queue.enqueue request) := by
      cases request with
      | warp other map position =>
        have hother : other ≠ entity := hne
        exact ⟨by simp [enqueue, hother], .rfl⟩
      | removal other =>
        have hother : other ≠ entity := hne
        exact ⟨rfl, by simp [enqueue, hother.symm]⟩
    exact hnext.trans (ih hrest)

end WorldQueue

namespace Simulation

/-- The simulations are the same as far as an entity can tell. -/
structure Alike (entity : EntityId) (first second : Simulation) : Prop where
  context : second.context = first.context
  format : second.format = first.format
  nextId : second.nextId = first.nextId
  character : second.character? entity = first.character? entity
  world : WorldQueue.Agree entity first.world second.world

/-- Callbacks take no component away, and neither does the dialogue of anybody but one. -/
structure Guarded (entity : EntityId) (simulation : Simulation) : Prop where
  callbacks : simulation.context.callbacks.Keeping
  others : ∀ other ≠ entity, ∀ character, simulation.character? other = some character →
    character.Faithful other simulation.context

variable {entity other : EntityId} {simulation first second third : Simulation}
  {character : Character}

theorem Alike.refl (entity : EntityId) (simulation : Simulation) :
    Alike entity simulation simulation :=
  ⟨rfl, rfl, rfl, rfl, .refl entity _⟩

theorem Alike.symm (h : Alike entity first second) : Alike entity second first :=
  ⟨h.context.symm, h.format.symm, h.nextId.symm, h.character.symm, h.world.symm⟩

theorem Alike.trans (h : Alike entity first second) (hthird : Alike entity second third) :
    Alike entity first third :=
  ⟨hthird.context.trans h.context, hthird.format.trans h.format, hthird.nextId.trans h.nextId,
    hthird.character.trans h.character, h.world.trans hthird.world⟩

theorem Alike.status_eq (h : Alike entity first second) :
    second.status entity = first.status entity := by
  rw [status, status, h.character]

/-- The same character put into both. -/
theorem Alike.setCharacter (h : Alike entity first second) (other : EntityId)
    (character : Character) :
    Alike entity (first.setCharacter other character) (second.setCharacter other character) := by
  refine ⟨h.context, h.format, h.nextId, ?_, h.world⟩
  by_cases heq : entity = other
  · rw [heq, character?_setCharacter_self, character?_setCharacter_self]
  · rw [character?_setCharacter_of_ne heq, character?_setCharacter_of_ne heq, h.character]

theorem Alike.install (h : Alike entity first second) (outcome : Outcome) :
    Alike entity (first.install entity outcome).1 (second.install entity outcome).1 := by
  have hset := h.setCharacter entity outcome.character
  exact ⟨hset.context, hset.format, hset.nextId, hset.character,
    h.world.enqueueAll outcome.requests⟩

/-- What becomes of another character is nothing to an entity. -/
theorem alike_install {outcome : Outcome} (hne : other ≠ entity)
    (hrequests : ∀ request ∈ outcome.requests, request.entity = other) :
    Alike entity simulation (simulation.install other outcome).1 := by
  refine ⟨rfl, rfl, rfl, character?_setCharacter_of_ne hne.symm, ?_⟩
  exact WorldQueue.agree_enqueueAll fun request hmem => hrequests request hmem ▸ hne

theorem Guarded.setCharacter (h : Guarded entity simulation)
    (hcharacter : other ≠ entity → character.Faithful other simulation.context) :
    Guarded entity (simulation.setCharacter other character) := by
  refine ⟨h.callbacks, fun someone hne found hfound => ?_⟩
  by_cases heq : someone = other
  · subst heq
    cases character?_setCharacter_self.symm.trans hfound
    exact hcharacter hne
  · rw [character?_setCharacter_of_ne heq] at hfound
    exact h.others someone hne found hfound

theorem Guarded.install {outcome : Outcome} (h : Guarded entity simulation)
    (hcharacter : other ≠ entity → outcome.character.Faithful other simulation.context) :
    Guarded entity (simulation.install other outcome).1 :=
  have hset := h.setCharacter hcharacter
  ⟨hset.callbacks, hset.others⟩

/-! ### What is demanded of others -/

theorem Guarded.demand_ensures (h : Guarded entity simulation) (hne : other ≠ entity)
    {demand : Demand} (hdemand : demand.Keeping) :
    (simulation.obey (.demand other demand)).Ensures (fun _ => True) demand.MayFail fun outcome =>
      Alike entity simulation outcome.1 ∧ Guarded entity outcome.1 := by
  cases hcharacter : simulation.character? other with
  | none =>
    rw [obey_of_absent hcharacter]
    exact Step.ensures_pure ⟨.refl entity simulation, h⟩
  | some character =>
    rw [obey_of_present hcharacter]
    have hfaithful := h.others other hne character hcharacter
    refine (Demand.meet_ensures hfaithful h.callbacks hdemand).bind ?_
    intro outcome hmet
    obtain ⟨hafter, hrequests⟩ := hmet
    exact Step.ensures_pure ⟨alike_install hne hrequests, h.install fun _ => hafter⟩

/-! ### What concerns the entity -/

/-- The act concerns an entity: it is a login or a tick, or something is demanded of the entity. -/
def Act.concerns (entity : EntityId) : Act → Bool
  | demand other _ => other = entity
  | _ => true

/-- What an entity is told by an answer. Of a tick it is told no more than whether it left. -/
def Answer.about (entity : EntityId) : Answer → Answer
  | login result => login result
  | disconnect result => disconnect result
  | damage result => damage result
  | respawn result => respawn result
  | tick events => tick (events.filter (·.tells entity))

def Reply.about (entity : EntityId) : Reply → Reply
  | answered answer => answered (answer.about entity)
  | mutated answer => mutated answer

/-- What comes of an act in two simulations is the same as far as an entity can tell. -/
structure Tallies (entity : EntityId) (first second : Simulation) (act : Act)
    (outcome outcome' : Simulation × Reply) : Prop where
  alike : Alike entity outcome.1 outcome'.1
  guarded : Guarded entity outcome.1 ∧ Guarded entity outcome'.1
  reply : outcome'.2.about entity = outcome.2.about entity
  share : second.share act entity = first.share act entity

variable {outcome : Simulation × Reply}

theorem Alike.entrant_eq (h : Alike entity first second) (payload : List UInt8)
    (client : Option ClientId) : second.entrant payload client = first.entrant payload client := by
  rw [entrant, entrant, h.nextId, h.context, h.format]

theorem Alike.login (h : Alike entity first second) (hfirst : Guarded entity first)
    (hsecond : Guarded entity second) {payload : List UInt8} {client : Option ClientId}
    (hrun : (first.obey (.login payload client)).result = .ok outcome) :
    ∃ outcome', (second.obey (.login payload client)).result = .ok outcome' ∧
      Tallies entity first second (.login payload client) outcome outcome' := by
  have hshare : second.share (.login payload client) entity =
      first.share (.login payload client) entity := by
    rw [share, share, h.nextId, obey_login, obey_login, h.entrant_eq, Step.effects_bind_pure,
      Step.effects_bind_pure]
  rw [obey_login] at hrun
  obtain ⟨entered, hentered, hlast, -⟩ := Step.bind_eq_ok hrun
  cases hlast
  refine ⟨second.receive entered, ?_, ?_⟩
  · rw [obey_login, h.entrant_eq, Step.bind_of_ok hentered]
    rfl
  · have hborn := (entrant_faithful hfirst.callbacks payload client).result entered hentered
    cases entered with
    | error error => exact ⟨h, ⟨hfirst, hsecond⟩, rfl, hshare⟩
    | ok character =>
      have hfaithful := hborn character rfl
      have halike := h.setCharacter ⟨first.nextId⟩ character
      have hguarded := hfirst.setCharacter fun _ => hfaithful
      have hguarded' : Guarded entity (second.setCharacter ⟨first.nextId⟩ character) :=
        hsecond.setCharacter fun _ => h.context ▸ hfaithful
      rw [receive, receive, h.nextId]
      exact ⟨⟨halike.context, halike.format, rfl, halike.character, halike.world⟩,
        ⟨⟨hguarded.callbacks, hguarded.others⟩, ⟨hguarded'.callbacks, hguarded'.others⟩⟩, rfl, hshare⟩

theorem Alike.demand (h : Alike entity first second) (hfirst : Guarded entity first)
    (hsecond : Guarded entity second) {demand : Demand}
    (hrun : (first.obey (.demand entity demand)).result = .ok outcome) :
    ∃ outcome', (second.obey (.demand entity demand)).result = .ok outcome' ∧
      Tallies entity first second (.demand entity demand) outcome outcome' := by
  have hshare : second.share (.demand entity demand) entity =
      (second.obey (.demand entity demand)).effects := if_pos rfl
  have hshare' : first.share (.demand entity demand) entity =
      (first.obey (.demand entity demand)).effects := if_pos rfl
  cases hcharacter : first.character? entity with
  | none =>
    have habsent := obey_of_absent hcharacter demand
    have habsent' := obey_of_absent (h.character.trans hcharacter) demand
    rw [habsent] at hrun hshare'
    rw [habsent'] at hshare
    cases hrun
    refine ⟨(second, demand.refusal entity), ?_, h, ⟨hfirst, hsecond⟩, rfl, hshare.trans hshare'.symm⟩
    rw [habsent']
    rfl
  | some character =>
    have hpresent := obey_of_present hcharacter demand
    have hpresent' := obey_of_present (h.character.trans hcharacter) demand
    rw [hpresent] at hrun hshare'
    rw [hpresent', Step.effects_bind_pure] at hshare
    rw [Step.effects_bind_pure] at hshare'
    obtain ⟨met, hmet, hlast, -⟩ := Step.bind_eq_ok hrun
    cases hlast
    refine ⟨second.install entity met, ?_, h.install met, ⟨hfirst.install ?_, hsecond.install ?_⟩, rfl,
      hshare.trans hshare'.symm⟩
    · rw [hpresent', Step.bind_of_ok hmet]
      rfl
    · exact fun hne => absurd rfl hne
    · exact fun hne => absurd rfl hne

/-! ### Ticks -/

variable {elapsed : Duration} {ticked : Simulation × List ServerEvent}

theorem Alike.arrival_eq (h : Alike entity first second) (elapsed : Duration) :
    second.arrival elapsed entity = first.arrival elapsed entity := by
  have hlanded : Character.landed entity second.world.warps =
      Character.landed entity first.world.warps := by
    funext character
    rw [Character.landed, h.world.warps, Character.landed]
  rw [arrival, arrival, h.character, hlanded]

theorem Guarded.arrival_faithful (h : Guarded entity simulation) (hne : other ≠ entity)
    (harrival : simulation.arrival elapsed other = some character) :
    character.Faithful other simulation.context := by
  obtain ⟨earlier, later, hearlier, hlater, rfl⟩ := exists_of_arrival harrival
  have hfaithful := h.others other hne earlier hearlier
  have hturn : (earlier.turn elapsed).Ensures _ (fun _ => True) _ :=
    hfaithful.toWhole.turn_stays elapsed
  obtain ⟨hwhole, hstays⟩ := hturn.result later hlater
  refine ⟨hwhole.landed _, ?_⟩
  rw [Character.Talks, Character.dialogue_landed, hstays.dialogue]
  exact hfaithful.talks

theorem Guarded.separates (h : Guarded entity simulation)
    (hseparates : simulation.Separates elapsed ticked) : Guarded entity ticked.1 := by
  obtain ⟨hrest, -, hcharacter, -, -⟩ := hseparates
  have hcontext : ticked.1.context = simulation.context := by rw [hrest]
  refine ⟨hcontext ▸ h.callbacks, fun other hne character hfound => ?_⟩
  rw [hcharacter] at hfound
  split at hfound
  · cases hfound
  · exact hcontext ▸ h.arrival_faithful hne hfound

/-- Of those that are guarded nobody stops a tick, so one entity decides. -/
theorem Guarded.exists_tick (h : Guarded entity simulation)
    (hacted : ∀ character, simulation.character? entity = some character →
      ∃ later, (character.turn elapsed).result = .ok later)
    (hplaced : entity ∈ simulation.world.removals → ∀ character,
      simulation.arrival elapsed entity = some character → character.entity.actor? ≠ none) :
    ∃ ticked, (simulation.tick elapsed).result = .ok ticked ∧
      simulation.Separates elapsed ticked := by
  have hturns : ∀ other character, simulation.character? other = some character →
      (character.turn elapsed).Ensures (fun _ => True) (fun _ => False) fun _ => True := by
    intro other character hfound
    by_cases heq : other = entity
    · obtain ⟨later, hlater⟩ := hacted character (heq ▸ hfound)
      refine ⟨fun _ _ => trivial, fun fault hfault => ?_, fun _ _ => trivial⟩
      cases hlater.symm.trans hfault
    · have hwhole := (h.others other heq character hfound).toWhole
      exact (hwhole.turn_stays elapsed).anyEffects.imp fun _ _ => trivial
  refine (tick_separates (fun _ _ => trivial) hturns fun other hmem character harrival hnone =>
    ?_).exists_ok
  by_cases heq : other = entity
  · exact hplaced (heq ▸ hmem) character (heq ▸ harrival) hnone
  · obtain ⟨actor, hactor⟩ := (h.arrival_faithful heq harrival).complete.actor
    cases hactor.symm.trans hnone

theorem separates_of_tick (h : (simulation.tick elapsed).result = .ok ticked) :
    simulation.Separates elapsed ticked := by
  have hturns : ∀ other character, simulation.character? other = some character →
      (character.turn elapsed).Ensures (fun _ => True) (fun _ => True) fun _ => True :=
    fun _ _ _ => Step.ensures_trivial
  exact (tick_separates (fun _ _ => trivial) hturns fun _ _ _ _ _ => trivial).result ticked h

theorem Alike.tick (h : Alike entity first second) (hfirst : Guarded entity first)
    (hsecond : Guarded entity second) (hrun : (first.obey (.tick elapsed)).result = .ok outcome) :
    ∃ outcome', (second.obey (.tick elapsed)).result = .ok outcome' ∧
      Tallies entity first second (.tick elapsed) outcome outcome' := by
  rw [obey_tick] at hrun
  obtain ⟨ticked, hticked, hlast, -⟩ := Step.bind_eq_ok hrun
  cases hlast
  have hseparates := separates_of_tick hticked
  have harrival := h.arrival_eq elapsed
  have hremovals := h.world.removals
  obtain ⟨ticked', hticked', hseparates'⟩ : ∃ ticked', (second.tick elapsed).result = .ok ticked' ∧
      second.Separates elapsed ticked' := by
    refine hsecond.exists_tick (fun character hfound => ?_) fun hmem character hfound => ?_
    · exact hseparates.acted entity character (h.character ▸ hfound)
    · exact hseparates.placed entity (hremovals.1 hmem) character (harrival ▸ hfound)
  have hguarded := hfirst.separates hseparates
  have hguarded' := hsecond.separates hseparates'
  obtain ⟨hrest, -, hcharacter, htold, -⟩ := hseparates
  obtain ⟨hrest', -, hcharacter', htold', -⟩ := hseparates'
  refine ⟨(ticked'.1, .answered (.tick ticked'.2)), ?_, ⟨?_, ?_, ?_, ?_, ?_⟩, ⟨hguarded, hguarded'⟩,
    ?_, ?_⟩
  · rw [obey_tick, Step.bind_of_ok hticked']
    rfl
  · rw [hrest, hrest']
    exact h.context
  · rw [hrest, hrest']
    exact h.format
  · rw [hrest, hrest']
    exact h.nextId
  · rw [hcharacter, hcharacter', harrival]
    simp only [hremovals]
  · rw [hrest, hrest']
    exact .refl entity {}
  · dsimp only [Reply.about, Answer.about]
    rw [htold, htold', harrival]
    simp only [hremovals]
  · show deeds _ second.characters entity = deeds _ first.characters entity
    rw [deeds, deeds, show second.characters.get? entity = first.characters.get? entity from
      h.character]

/-- What concerns an entity leads to the same from simulations that are alike to it. -/
theorem Alike.obey (h : Alike entity first second) (hfirst : Guarded entity first)
    (hsecond : Guarded entity second) {act : Act} (hconcerns : act.concerns entity = true)
    (hrun : (first.obey act).result = .ok outcome) :
    ∃ outcome', (second.obey act).result = .ok outcome' ∧
      Tallies entity first second act outcome outcome' := by
  cases act with
  | login payload client => exact h.login hfirst hsecond hrun
  | tick elapsed => exact h.tick hfirst hsecond hrun
  | demand other demand =>
    obtain rfl : other = entity := of_decide_eq_true hconcerns
    exact h.demand hfirst hsecond hrun

end Simulation

end CharacterSim
