import CharacterSim.Proofs.Server.Likeness

/-! Characters do not interfere. A run can be purged of all that is demanded of others than one
entity, and anything else can be demanded of them instead: the entity can not tell. -/

namespace CharacterSim

namespace Simulation

variable {entity : EntityId} {simulation first second : Simulation} {outcome : Simulation × Reply}

/-! ### Runs -/

/-- One act of a run. -/
structure Moment where
  before : Simulation
  act : Act
  reply : Reply
  after : Simulation

/-- One act after the other, with all that is to be seen of them. -/
def attend (simulation : Simulation) : List Act → Step (Simulation × List Moment)
  | [] => return (simulation, [])
  | act :: rest => do
    let (after, reply) ← simulation.obey act
    let (final, moments) ← after.attend rest
    return (final, ⟨simulation, act, reply, after⟩ :: moments)

/-- What an entity sees of a moment: what it is told by the reply, all the effects that are its own,
and its status afterwards. -/
structure Glimpse where
  reply : Reply
  effects : List Effect
  status : Except Fault (Option CharacterStatus)

def Moment.glimpse (entity : EntityId) (moment : Moment) : Glimpse :=
  ⟨moment.reply.about entity, moment.before.share moment.act entity,
    (moment.after.status entity).result⟩

/-- What an entity sees of a run. -/
def glimpses (entity : EntityId) (moments : List Moment) : List Glimpse :=
  (moments.filter (·.act.concerns entity)).map (·.glimpse entity)

/-- The act takes no component away from another than the entity. -/
def Act.Keeping (entity : EntityId) : Act → Prop
  | demand other asked => other ≠ entity → asked.Keeping
  | _ => True

/-- After some moments, somebody who operates another character than the entity makes a mistake that
ends the run. -/
def HaltsAfter (entity : EntityId) (simulation : Simulation) (acts : List Act)
    (past : List Moment) : Prop :=
  ∃ earlier other operation later before fault,
    acts = earlier ++ .demand other (.mutate operation) :: later ∧ other ≠ entity ∧
      (simulation.attend earlier).result = .ok (before, past) ∧
      (before.obey (.demand other (.mutate operation))).result = .error fault ∧
      operation.MayFail fault

variable {acts : List Act} {final after : Simulation} {moments past : List Moment} {act : Act}
  {reply : Reply}

theorem attend_cons_of_ok (h : (simulation.obey act).result = .ok (after, reply))
    (hrest : (after.attend acts).result = .ok (final, moments)) :
    (simulation.attend (act :: acts)).result =
      .ok (final, ⟨simulation, act, reply, after⟩ :: moments) := by
  rw [attend, Step.bind_of_ok h]
  dsimp only
  rw [Step.bind_of_ok hrest]
  rfl

theorem exists_of_attend_cons (h : (simulation.attend (act :: acts)).result = .ok (final, moments)) :
    ∃ after reply later, (simulation.obey act).result = .ok (after, reply) ∧
      (after.attend acts).result = .ok (final, later) ∧
      moments = ⟨simulation, act, reply, after⟩ :: later := by
  rw [attend] at h
  obtain ⟨⟨after, reply⟩, hact, hrest, -⟩ := Step.bind_eq_ok h
  obtain ⟨⟨last, later⟩, hlater, hlast, -⟩ := Step.bind_eq_ok hrest
  cases hlast
  exact ⟨after, reply, later, hact, hlater, rfl⟩

theorem HaltsAfter.cons (h : HaltsAfter entity after acts past)
    (hact : (simulation.obey act).result = .ok (after, reply)) :
    HaltsAfter entity simulation (act :: acts) (⟨simulation, act, reply, after⟩ :: past) := by
  obtain ⟨earlier, other, operation, later, before, fault, rfl, hne, hrun, hfault⟩ := h
  exact ⟨act :: earlier, other, operation, later, before, fault, rfl, hne,
    attend_cons_of_ok hact hrun, hfault⟩

theorem attend_append_of_error {fault : Fault} {earlier : List Act} {before : Simulation}
    (hrun : (simulation.attend earlier).result = .ok (before, moments))
    (hact : (before.obey act).result = .error fault) :
    (simulation.attend (earlier ++ act :: acts)).result = .error fault := by
  induction earlier generalizing simulation moments with
  | nil =>
    cases hrun
    rw [List.nil_append, attend, Step.bind_of_error hact]
  | cons other rest ih =>
    obtain ⟨next, reply, later, hother, hrest, -⟩ := exists_of_attend_cons hrun
    rw [List.cons_append, attend, Step.bind_of_ok hother]
    dsimp only
    rw [Step.bind_of_error (ih hrest)]

theorem HaltsAfter.not_ok (h : HaltsAfter entity simulation acts past) :
    (simulation.attend acts).result ≠ .ok (final, moments) := by
  obtain ⟨earlier, other, operation, later, before, fault, rfl, -, hrun, hfault, -⟩ := h
  intro hok
  cases (attend_append_of_error hrun hfault).symm.trans hok

/-- An act that does not concern the entity is a demand on another, and the simulation stays alike
unless who demands it makes a mistake. -/
theorem Guarded.obey_ensures (h : Guarded entity simulation) (hact : act.Keeping entity)
    (hconcerns : act.concerns entity = false) :
    (simulation.obey act).Ensures (fun _ => True)
      (fun fault => ∃ other operation, act = .demand other (.mutate operation) ∧ other ≠ entity ∧
        operation.MayFail fault)
      fun outcome => Alike entity simulation outcome.1 ∧ Guarded entity outcome.1 := by
  cases act with
  | login payload client => cases hconcerns
  | tick elapsed => cases hconcerns
  | demand other demand =>
    have hne : other ≠ entity := of_decide_eq_false hconcerns
    have hdemand := h.demand_ensures hne (hact hne)
    refine ⟨hdemand.effects, fun fault hfault => ?_, hdemand.result⟩
    have hmistake := hdemand.faults fault hfault
    cases demand with
    | mutate operation => exact ⟨other, operation, rfl, hne, hmistake⟩
    | disconnect alive => cases hmistake
    | damage amount => cases hmistake
    | respawn => cases hmistake

theorem glimpses_cons_of_concerns (hconcerns : act.concerns entity = true) :
    glimpses entity (⟨simulation, act, reply, after⟩ :: moments) =
      Moment.glimpse entity ⟨simulation, act, reply, after⟩ :: glimpses entity moments := by
  simp [glimpses, hconcerns]

theorem glimpses_cons_of_not_concerns (hconcerns : act.concerns entity = false) :
    glimpses entity (⟨simulation, act, reply, after⟩ :: moments) = glimpses entity moments := by
  simp [glimpses, hconcerns]

/-- After an act in both, the entity has seen the same. -/
theorem Tallies.glimpse_eq {outcome' : Simulation × Reply}
    (h : Tallies entity first second act outcome outcome') :
    Moment.glimpse entity ⟨second, act, outcome'.2, outcome'.1⟩ =
      Moment.glimpse entity ⟨first, act, outcome.2, outcome.1⟩ := by
  dsimp only [Moment.glimpse]
  rw [h.reply, h.share, h.alike.status_eq]

/-- A run can be purged of what is demanded of others, and the entity sees the same. -/
theorem exists_purged (h : Alike entity first second) (hfirst : Guarded entity first)
    (hsecond : Guarded entity second) (hacts : ∀ act ∈ acts, act.Keeping entity)
    (hrun : (first.attend acts).result = .ok (final, moments)) :
    ∃ final' moments', (second.attend (acts.filter (·.concerns entity))).result =
        .ok (final', moments') ∧ glimpses entity moments' = glimpses entity moments := by
  induction acts generalizing first second moments with
  | nil =>
    cases hrun
    exact ⟨second, [], rfl, rfl⟩
  | cons act rest ih =>
    obtain ⟨hact, hrest⟩ := List.forall_mem_cons.1 hacts
    obtain ⟨after, reply, later, hobey, hlater, rfl⟩ := exists_of_attend_cons hrun
    cases hconcerns : act.concerns entity with
    | false =>
      obtain ⟨halike, hguarded⟩ := (hfirst.obey_ensures hact hconcerns).result _ hobey
      rw [List.filter_cons_of_neg (by simp [hconcerns]), glimpses_cons_of_not_concerns hconcerns]
      exact ih (halike.symm.trans h) hguarded hsecond hrest hlater
    | true =>
      obtain ⟨⟨after', reply'⟩, hobey', htallies⟩ := h.obey hfirst hsecond hconcerns hobey
      obtain ⟨final', moments', hrun', hsame⟩ :=
        ih htallies.alike htallies.guarded.1 htallies.guarded.2 hrest hlater
      rw [List.filter_cons_of_pos hconcerns, glimpses_cons_of_concerns hconcerns]
      refine ⟨final', _, attend_cons_of_ok hobey' hrun', ?_⟩
      rw [glimpses_cons_of_concerns hconcerns, hsame, htallies.glimpse_eq]

/-- Whatever is demanded of others can be put into a run. It goes on, and the entity sees the same,
unless one who demands makes a mistake; until then it sees the same. -/
theorem exists_of_purged (h : Alike entity first second) (hfirst : Guarded entity first)
    (hsecond : Guarded entity second) (hacts : ∀ act ∈ acts, act.Keeping entity)
    (hrun : (first.attend (acts.filter (·.concerns entity))).result = .ok (final, moments)) :
    (∃ final' moments', (second.attend acts).result = .ok (final', moments') ∧
      glimpses entity moments' = glimpses entity moments) ∨
    ∃ past, HaltsAfter entity second acts past ∧
      glimpses entity past <+: glimpses entity moments := by
  induction acts generalizing first second moments with
  | nil =>
    cases hrun
    exact .inl ⟨second, [], rfl, rfl⟩
  | cons act rest ih =>
    obtain ⟨hact, hrest⟩ := List.forall_mem_cons.1 hacts
    cases hconcerns : act.concerns entity with
    | false =>
      rw [List.filter_cons_of_neg (by simp [hconcerns])] at hrun
      have hstep := hsecond.obey_ensures hact hconcerns
      cases hobey : (second.obey act).result with
      | error fault =>
        obtain ⟨other, operation, rfl, hne, hmistake⟩ := hstep.faults fault hobey
        have hhalts : HaltsAfter entity second (.demand other (.mutate operation) :: rest) [] :=
          ⟨[], other, operation, rest, second, fault, rfl, hne, rfl, hobey, hmistake⟩
        exact .inr ⟨[], hhalts, List.nil_prefix⟩
      | ok outcome =>
        obtain ⟨after, reply⟩ := outcome
        obtain ⟨halike, hguarded⟩ := hstep.result _ hobey
        rcases ih (h.trans halike) hfirst hguarded hrest hrun with
          ⟨final', moments', hrun', hsame⟩ | ⟨past, hhalts, hprefix⟩
        · refine .inl ⟨final', _, attend_cons_of_ok hobey hrun', ?_⟩
          rw [glimpses_cons_of_not_concerns hconcerns, hsame]
        · refine .inr ⟨_, hhalts.cons hobey, ?_⟩
          rwa [glimpses_cons_of_not_concerns hconcerns]
    | true =>
      rw [List.filter_cons_of_pos hconcerns] at hrun
      obtain ⟨after, reply, later, hobey, hlater, rfl⟩ := exists_of_attend_cons hrun
      obtain ⟨⟨after', reply'⟩, hobey', htallies⟩ := h.obey hfirst hsecond hconcerns hobey
      rw [glimpses_cons_of_concerns hconcerns, ← htallies.glimpse_eq]
      rcases ih htallies.alike htallies.guarded.1 htallies.guarded.2 hrest hlater with
        ⟨final', moments', hrun', hsame⟩ | ⟨past, hhalts, hprefix⟩
      · refine .inl ⟨final', _, attend_cons_of_ok hobey' hrun', ?_⟩
        rw [glimpses_cons_of_concerns hconcerns, hsame]
      · refine .inr ⟨_, hhalts.cons hobey', ?_⟩
        rw [glimpses_cons_of_concerns hconcerns]
        exact (List.cons_prefix_cons.2 ⟨rfl, hprefix⟩)

/-- A moment in which all that was done is somebody's, and which is nothing to the entity if it does
not concern it. -/
structure Moment.Apart (entity : EntityId) (moment : Moment) : Prop where
  splits : Effect.SplitInto (moment.before.share moment.act)
    (moment.before.obey moment.act).effects
  unmoved : moment.act.concerns entity = false → moment.before.share moment.act entity = [] ∧
    (moment.after.status entity).result = (moment.before.status entity).result

theorem Guarded.apart_of_attend (h : Guarded entity simulation)
    (hacts : ∀ act ∈ acts, act.Keeping entity)
    (hrun : (simulation.attend acts).result = .ok (final, moments)) :
    ∀ moment ∈ moments, moment.Apart entity := by
  induction acts generalizing simulation moments with
  | nil =>
    cases hrun
    exact fun _ hmem => by cases hmem
  | cons act rest ih =>
    obtain ⟨hact, hrest⟩ := List.forall_mem_cons.1 hacts
    obtain ⟨after, reply, later, hobey, hlater, rfl⟩ := exists_of_attend_cons hrun
    cases hconcerns : act.concerns entity with
    | false =>
      obtain ⟨halike, hguarded⟩ := (h.obey_ensures hact hconcerns).result _ hobey
      refine List.forall_mem_cons.2 ⟨⟨obey_splits hobey, fun _ => ⟨?_, ?_⟩⟩, ih hguarded hrest hlater⟩
      · cases act with
        | login payload client => cases hconcerns
        | tick elapsed => cases hconcerns
        | demand other demand => exact if_neg (of_decide_eq_false hconcerns)
      · dsimp only
        rw [halike.status_eq]
    | true =>
      obtain ⟨⟨_, _⟩, -, htallies⟩ := (Alike.refl entity simulation).obey h h hconcerns hobey
      refine List.forall_mem_cons.2 ⟨⟨obey_splits hobey, fun hnot => ?_⟩,
        ih htallies.guarded.1 hrest hlater⟩
      cases hconcerns.symm.trans hnot

theorem guarded_start {context : CharacterContext} {format : Load Unit}
    (h : context.callbacks.Keeping) : Guarded entity { context, format } :=
  ⟨h, fun _ _ _ hfound => by cases hfound⟩

/-- Characters do not interfere. Two runs of a server may differ in all that is demanded of others
than one entity: that they be disconnected, damaged, respawned, or operated by who holds them, as
long as no script takes a component of theirs away. Scripts may go by all that they were given for a
character before, but not by what they were given for another. If the one run comes to its end so does
the other, and the entity sees the same of both: what is answered to all that concerns it, its own
effects in order, among them the messages to its client and the updates for the account server, its
status after every step, and that it leaves. Only a mistake of one who operates another character can
end the other run early; until then the entity sees the same. -/
theorem characters_do_not_interfere {context : CharacterContext} {format : Load Unit}
    {entity : EntityId} {first second : List Act} {final : Simulation} {moments : List Moment}
    (hcallbacks : context.callbacks.Keeping) (hfirst : ∀ act ∈ first, act.Keeping entity)
    (hsecond : ∀ act ∈ second, act.Keeping entity)
    (hsame : first.filter (·.concerns entity) = second.filter (·.concerns entity))
    (hrun : (({ context, format } : Simulation).attend first).result = .ok (final, moments)) :
    (∀ moment ∈ moments, moment.Apart entity) ∧
      ((∃ final' moments',
          (({ context, format } : Simulation).attend second).result = .ok (final', moments') ∧
            (∀ moment ∈ moments', moment.Apart entity) ∧
            glimpses entity moments' = glimpses entity moments) ∨
        ∃ past, HaltsAfter entity { context, format } second past ∧
          (∀ moment ∈ past, moment.Apart entity) ∧
          glimpses entity past <+: glimpses entity moments) := by
  have hstart : Guarded entity { context, format } := guarded_start hcallbacks
  have halike : Alike entity { context, format } { context, format } := .refl entity _
  refine ⟨hstart.apart_of_attend hfirst hrun, ?_⟩
  obtain ⟨_, purged, hpurged, hglimpses⟩ := exists_purged halike hstart hstart hfirst hrun
  rw [hsame] at hpurged
  rw [← hglimpses]
  rcases exists_of_purged halike hstart hstart hsecond hpurged with
    ⟨final', moments', hrun', hglimpses'⟩ | ⟨past, hhalts, hprefix⟩
  · exact .inl ⟨final', moments', hrun', hstart.apart_of_attend hsecond hrun', hglimpses'⟩
  · obtain ⟨earlier, other, operation, later, before, fault, rfl, hne, hearlier, hmistake⟩ := hhalts
    have hkeeping : ∀ act ∈ earlier, act.Keeping entity := fun act hmem =>
      hsecond act (List.mem_append_left _ hmem)
    exact .inr ⟨past, ⟨earlier, other, operation, later, before, fault, rfl, hne, hearlier, hmistake⟩,
      hstart.apart_of_attend hkeeping hearlier, hprefix⟩

/-- Two enter, one of them is hurt, and time passes. -/
def sampleCompany : List Act :=
  [.login Character.sampleLogin none, .login Character.sampleLogin none,
    .demand ⟨1⟩ (.damage 1), .tick .zero]

/-- Meanwhile the other dies, comes back and goes away. -/
def sampleMishap : List Act :=
  [.login Character.sampleLogin none, .login Character.sampleLogin none,
    .demand ⟨2⟩ (.damage 1000), .demand ⟨1⟩ (.damage 1), .demand ⟨2⟩ .respawn,
    .demand ⟨2⟩ (.disconnect fun _ => false), .tick .zero]

/-- Who is there at the end of a run. -/
def hostedAfter (acts : List Act) : Except Fault (List EntityId) :=
  (sample.attend acts).result.map fun outcome => outcome.1.hosted

theorem exists_of_hostedAfter {hosted : List EntityId} (h : hostedAfter acts = .ok hosted) :
    ∃ final moments, (sample.attend acts).result = .ok (final, moments) ∧ final.hosted = hosted := by
  unfold hostedAfter at h
  cases hresult : (sample.attend acts).result with
  | error fault =>
    rw [hresult] at h
    cases h
  | ok outcome =>
    rw [hresult] at h
    cases h
    exact ⟨outcome.1, outcome.2, rfl, rfl⟩

theorem result_of_hostedAfter {fault : Fault} (h : hostedAfter acts = .error fault) :
    (sample.attend acts).result = .error fault := by
  unfold hostedAfter at h
  cases hresult : (sample.attend acts).result with
  | error other =>
    rw [hresult] at h
    cases h
    rfl
  | ok outcome =>
    rw [hresult] at h
    cases h

theorem hostedAfter_sampleCompany : hostedAfter sampleCompany = .ok [⟨1⟩, ⟨2⟩] := by
  decide +kernel

/-- What befalls another is not seen. -/
theorem same_glimpses_of_mishap : ∃ final moments final' moments',
    (sample.attend sampleCompany).result = .ok (final, moments) ∧
      (sample.attend sampleMishap).result = .ok (final', moments') ∧
      glimpses ⟨1⟩ moments' = glimpses ⟨1⟩ moments := by
  obtain ⟨final, moments, hrun, -⟩ := exists_of_hostedAfter hostedAfter_sampleCompany
  have hcompany : ∀ act ∈ sampleCompany, act.Keeping ⟨1⟩ := by
    simp [sampleCompany, Act.Keeping]
  have hmishap : ∀ act ∈ sampleMishap, act.Keeping ⟨1⟩ := by
    simp [sampleMishap, Act.Keeping, Demand.Keeping]
  obtain ⟨-, hboth⟩ :=
    characters_do_not_interfere ScriptCallbacks.keeping_none hcompany hmishap rfl hrun
  rcases hboth with ⟨final', moments', hrun', -, hsame⟩ | ⟨past, hhalts, -, -⟩
  · exact ⟨final, moments, final', moments', hrun, hrun', hsame⟩
  · have hhosted : hostedAfter sampleMishap = .ok [⟨1⟩] := by decide +kernel
    obtain ⟨_, _, hrun', -⟩ := exists_of_hostedAfter hhosted
    exact absurd hrun' hhalts.not_ok

/-- Someone who holds the other lets a script at it, and more may be demanded of the other then. -/
def sampleScripting (change : Entity → Entity) (more : List Demand) : List Act :=
  [.login Character.sampleLogin none, .login Character.sampleLogin none,
    .demand ⟨2⟩ (.mutate (.script change))] ++ more.map (.demand ⟨2⟩) ++
      [.demand ⟨1⟩ (.damage 1), .tick .zero]

/-- A script can interfere. If somebody is missing a component nobody gets through the tick, and who
goes by the id of another leaves in its place. -/
theorem company_disturbed_of_scripting : sample.context.callbacks.Keeping ∧
    (∀ change, sampleCompany.filter (·.concerns ⟨1⟩) =
        (sampleScripting change []).filter (·.concerns ⟨1⟩) ∧
      sampleCompany.filter (·.concerns ⟨1⟩) =
        (sampleScripting change [.disconnect fun _ => false]).filter (·.concerns ⟨1⟩)) ∧
    (∃ final moments, (sample.attend sampleCompany).result = .ok (final, moments) ∧
      final.hosted = [⟨1⟩, ⟨2⟩]) ∧
    (sample.attend (sampleScripting (fun entity => entity.remove .being) [])).result =
      .error (.missingComponent .being) ∧
    ∃ final moments, (sample.attend (sampleScripting (fun entity => { entity with id := ⟨1⟩ })
      [.disconnect fun _ => false])).result = .ok (final, moments) ∧ final.hosted = [⟨2⟩] := by
  refine ⟨ScriptCallbacks.keeping_none, fun change => ⟨rfl, rfl⟩,
    exists_of_hostedAfter hostedAfter_sampleCompany, ?_, ?_⟩
  · exact result_of_hostedAfter (by decide +kernel)
  · exact exists_of_hostedAfter (by decide +kernel)

end Simulation

end CharacterSim
