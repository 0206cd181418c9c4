import CharacterSim.Proofs.Character.Lifecycle
import CharacterSim.Proofs.Character.Marks
import CharacterSim.Proofs.Character.Moments
import CharacterSim.Proofs.Collections.Latest

/-! When a character tells its client of abilities, of the cooldown and of points. What was done to
them leaves a mark, at once or by the next time the character takes note of changes, and only an
update made while the character is alive clears the mark; so each such update tells of exactly what
was done since the last. -/

namespace CharacterSim

/-! ### What is done in a moment -/

/-- What happened to an entity: deeds to its abilities, which it keeps as it keeps its id and every
component. -/
structure Entity.Handled (before : Entity) (deeds : List AbilityDeed) (after : Entity) : Prop where
  id : after.id = before.id
  complete : after.Complete
  abilities : ∃ first last, before.abilities? = some first ∧ after.abilities? = some last ∧
    first.Does deeds last

/-- A complete entity is treated so that only deeds happen to its abilities. -/
def Entity.Handles (before after : Entity) : Prop :=
  after.id = before.id ∧ (before.Complete → ∃ deeds, before.Handled deeds after)

/-- An entity is treated so that nothing happens to its abilities. -/
structure Entity.Spares (before after : Entity) : Prop where
  id : after.id = before.id
  complete : before.Complete → after.Complete
  abilities : after.abilities? = before.abilities?

theorem Entity.Spares.handled {before after : Entity} (h : before.Spares after)
    (hcomplete : before.Complete) : before.Handled [] after := by
  obtain ⟨abilities, habilities⟩ := hcomplete.abilities
  exact ⟨h.id, h.complete hcomplete,
    abilities, abilities, habilities, h.abilities.trans habilities, .refl abilities⟩

theorem Entity.bound_spares : Entity.Bound Entity.Spares where
  refl _ := ⟨rfl, fun hcomplete => hcomplete, rfl⟩
  trans hfirst hsecond := ⟨hsecond.id.trans hfirst.id,
    fun hcomplete => hsecond.complete (hfirst.complete hcomplete),
    hsecond.abilities.trans hfirst.abilities⟩
  setBeing _ _ := ⟨rfl, fun hcomplete => hcomplete.setBeing _, rfl⟩
  complete := Entity.Spares.complete
  id := Entity.Spares.id

theorem Entity.bound_handles : Entity.Bound Entity.Handles where
  refl entity := ⟨rfl, fun hcomplete => ⟨[], (bound_spares.refl entity).handled hcomplete⟩⟩
  trans hfirst hsecond := by
    refine ⟨hsecond.1.trans hfirst.1, fun hcomplete => ?_⟩
    obtain ⟨deeds, hid, hmiddle, first, middle, hbefore, hheld, hdoes⟩ := hfirst.2 hcomplete
    obtain ⟨more, hid', hlast, same, last, hsame, hafter, hmore⟩ := hsecond.2 hmiddle
    cases hheld.symm.trans hsame
    exact ⟨deeds ++ more, hid'.trans hid, hlast, first, last, hbefore, hafter, hdoes.trans hmore⟩
  setBeing hheld hedits :=
    ⟨rfl, fun hcomplete => ⟨[], (bound_spares.setBeing hheld hedits).handled hcomplete⟩⟩
  complete h hcomplete := by
    obtain ⟨deeds, hhandled⟩ := h.2 hcomplete
    exact hhandled.complete
  id := And.left

namespace Character

/-- The character keeps its connection, and scripts that come with the operation treat abilities only
by giving, taking and using them and by letting time pass. -/
def Operation.Orderly : Operation → Prop
  | script change => ∀ entity : Entity, entity.Handles (change entity)
  | startDialogue thread _ => thread.Within Entity.Handles
  | disconnected _ => False
  | _ => True

/-- The operation lets a script at the entity. -/
def Operation.Scripted : Operation → Prop
  | startDialogue .. | resumeDialogue | script _ => True
  | _ => False

/-- The operation is on abilities. -/
def Operation.Skilled : Operation → Prop
  | tick _ | activateAbility _ | giveAbility _ | takeAbility _ => True
  | _ => False

namespace Moment

variable {moment : Moment}

/-- What an operation did to abilities, by its answer. -/
def ownDeeds (moment : Moment) : List AbilityDeed :=
  match moment.operation, moment.answer with
  | .giveAbility id, .given true => [.gained id]
  | .takeAbility id, .taken true => [.lost id]
  | .activateAbility id, .activated (.ok ()) => [.used id]
  | _, _ => []

/-- What was done to abilities: by a script, or else by the operation itself. -/
structure Does (moment : Moment) (deeds : List AbilityDeed) : Prop where
  scripted : moment.operation.Scripted →
    moment.before.entity.Handled deeds moment.after.entity
  own : ¬ moment.operation.Scripted → deeds = moment.ownDeeds

/-- A balance of points was set, or a point was spent. -/
def SetsPoints (moment : Moment) : Prop :=
  match moment.operation, moment.answer with
  | .setAttributePoints _, _ => True
  | .setCorrectionPoints _, _ => True
  | .usePoint _, .spent .ok => True
  | .useCorrection _, .spent .ok => True
  | _, _ => False

/-- It was an update made while the character was alive. -/
def Flushes (moment : Moment) : Prop := moment.operation = .update ∧ moment.before.Lives

end Moment

/-- The moments of a run, with what was done to abilities in each. -/
abbrev Annals := List (Moment × List AbilityDeed)

namespace Annals

/-- Something happened since the last update made while the character was alive. -/
def Unheard (event : Moment × List AbilityDeed → Prop) (annals : Annals) : Prop :=
  Since event (fun entry => entry.1.Flushes) annals

/-- No update was made while the character was alive. -/
def Unflushed (annals : Annals) : Prop := ∀ entry ∈ annals, ¬ entry.1.Flushes

/-- Something was done to an ability since, or it was there from the first. -/
def AbilityUntold (start : Character) (annals : Annals) (id : AbilityId) : Prop :=
  annals.Unheard (fun entry => ∃ deed ∈ entry.2, deed.id = id) ∨
    annals.Unflushed ∧ ∃ abilities, start.entity.abilities? = some abilities ∧ id ∈ abilities.ids

/-- An ability was used since. -/
def CooldownUntold (annals : Annals) : Prop := annals.Unheard fun entry => ∃ id, .used id ∈ entry.2

/-- Points were set since, or by the construction of the character. -/
def PointsUntold (constructed : Prop) (annals : Annals) : Prop :=
  annals.Unheard (fun entry => entry.1.SetsPoints) ∨ annals.Unflushed ∧ constructed

variable {annals : Annals} {entry : Moment × List AbilityDeed}
  {event : Moment × List AbilityDeed → Prop}

theorem unheard_concat : Unheard event (annals ++ [entry]) ↔
    event entry ∨ annals.Unheard event ∧ ¬ entry.1.Flushes := since_concat

@[simp] theorem not_unheard_nil : ¬ Unheard event [] := not_since_nil

theorem unflushed_concat :
    Unflushed (annals ++ [entry]) ↔ annals.Unflushed ∧ ¬ entry.1.Flushes := by
  simp [Unflushed, or_imp, forall_and]

@[simp] theorem unflushed_nil : Unflushed [] := fun _ hmem => by cases hmem

variable {start : Character} {id : AbilityId} {constructed : Prop}

theorem abilityUntold_concat (h : ¬ entry.1.Flushes) :
    AbilityUntold start (annals ++ [entry]) id ↔
      annals.AbilityUntold start id ∨ ∃ deed ∈ entry.2, deed.id = id := by
  rw [AbilityUntold, AbilityUntold, unheard_concat, unflushed_concat, and_iff_left h, and_iff_left h]
  exact or_assoc.trans or_comm

theorem cooldownUntold_concat (h : ¬ entry.1.Flushes) :
    CooldownUntold (annals ++ [entry]) ↔ annals.CooldownUntold ∨ ∃ id, .used id ∈ entry.2 := by
  rw [CooldownUntold, CooldownUntold, unheard_concat, and_iff_left h]
  exact or_comm

theorem pointsUntold_concat (h : ¬ entry.1.Flushes) :
    PointsUntold constructed (annals ++ [entry]) ↔
      annals.PointsUntold constructed ∨ entry.1.SetsPoints := by
  rw [PointsUntold, PointsUntold, unheard_concat, unflushed_concat, and_iff_left h, and_iff_left h]
  exact or_assoc.trans or_comm

/-- An update made while the character is alive leaves nothing untold. -/
theorem not_untold_of_flushes (h : entry.1.Flushes) (hdeeds : entry.2 = [])
    (hsets : ¬ entry.1.SetsPoints) :
    (∀ id, ¬ AbilityUntold start (annals ++ [entry]) id) ∧ ¬ CooldownUntold (annals ++ [entry]) ∧
      ¬ PointsUntold constructed (annals ++ [entry]) := by
  simp [AbilityUntold, CooldownUntold, PointsUntold, unheard_concat, unflushed_concat, h, hdeeds,
    hsets]

end Annals

/-! ### What is left to be told -/

variable {client : ClientId} {before after : Character} {operation : Operation} {answer : Answer}
  {held : Abilities}

/-- A character with a client and without scripts, but for those that it talks to. -/
structure Poised (client : ClientId) (character : Character) : Prop where
  complete : character.entity.Complete
  callbacks : character.context.callbacks = {}
  client : character.client = some client
  talks : character.Talks Entity.Handles

theorem Poised.bounded {within : Entity → Entity → Prop} (h : before.Poised client)
    (hbound : Entity.Bound within) : before.Bounded within :=
  ⟨hbound, h.complete, h.callbacks ▸ ScriptCallbacks.within_none⟩

theorem Poised.follows {spends : Prop} (h : before.Poised client)
    (hfollows : before.Follows Entity.Handles spends after) : after.Poised client where
  complete := Entity.bound_handles.complete hfollows.entity h.complete
  callbacks := hfollows.context ▸ h.callbacks
  client := hfollows.client.trans h.client
  talks := hfollows.dialogue h.talks

/-- What a plain moment comes to: points are set as it says, and deeds done to abilities, and no mark
is cleared. -/
structure Moment.Unfolds (moment : Moment) (client : ClientId) : Prop where
  poised : moment.after.Poised client
  dirty : moment.after.dirty = moment.before.dirty
  ledger : moment.after.ledger.changed = true ↔
    moment.before.ledger.changed = true ∨ moment.SetsPoints
  deeds : ∃ deeds, moment.Does deeds
  handled : ∀ deeds, moment.Does deeds → moment.before.entity.Handled deeds moment.after.entity

theorem Moment.does_iff {moment : Moment} (h : ¬ moment.operation.Scripted)
    {deeds : List AbilityDeed} : moment.Does deeds ↔ deeds = moment.ownDeeds :=
  ⟨fun hdoes => hdoes.own h, fun heq => ⟨fun hscripted => absurd hscripted h, fun _ => heq⟩⟩

theorem Moment.setsPoints_usePoint {id : AttributeId} {response : SpendResponse} :
    (Moment.mk before (.usePoint id) (.spent response) after).SetsPoints ↔ response = .ok := by
  cases response <;> simp [Moment.SetsPoints]

theorem Moment.setsPoints_useCorrection {id : AttributeId} {response : SpendResponse} :
    (Moment.mk before (.useCorrection id) (.spent response) after).SetsPoints ↔ response = .ok := by
  cases response <;> simp [Moment.SetsPoints]

theorem Operation.Skilled.not_scripted (h : operation.Skilled) : ¬ operation.Scripted := by
  intro hscripted
  cases operation <;> first | exact h | exact hscripted

theorem Moment.not_setsPoints {moment : Moment} (h : ¬ moment.operation.Spends) :
    ¬ moment.SetsPoints := by
  obtain ⟨before, operation, answer, after⟩ := moment
  intro hsets
  cases operation <;> first | exact h trivial | exact hsets

/-- An operation on abilities returns, sends nothing, and does to them what its answer says. -/
theorem Operation.Skilled.responds (hskilled : operation.Skilled)
    (hcomplete : before.entity.Complete) (client : ClientId) : ∃ after answer held next,
    (before.respond operation).result = .ok (after, answer) ∧
    Effect.sentTo client (before.respond operation).effects = [] ∧
    before.entity.abilities? = some held ∧
    held.Does (Moment.mk before operation answer after).ownDeeds next ∧
    (after = before.withAbilities next ∨ after = before ∧ next = held) := by
  obtain ⟨held, hheld⟩ := hcomplete.abilities
  cases operation with
  | tick elapsed =>
    rw [respond, Character.tick, requireAbilities_eq hheld]
    exact ⟨_, _, held, _, rfl, rfl, hheld, (Abilities.Act.wait held elapsed).does, .inl rfl⟩
  | activateAbility id =>
    rw [respond, Character.activateAbility, requireAbilities_eq hheld, pure_bind]
    cases hactivate : held.activate id with
    | ok next =>
      exact ⟨_, _, held, next, rfl, rfl, hheld, (Abilities.Act.use hactivate).does, .inl rfl⟩
    | error denied => exact ⟨_, _, held, held, rfl, rfl, hheld, .refl held, .inr ⟨rfl, rfl⟩⟩
  | giveAbility id =>
    rw [respond, Character.giveAbility, requireAbilities_eq hheld, pure_bind]
    cases hgive : held.give? id with
    | some next =>
      exact ⟨_, _, held, next, rfl, rfl, hheld, (Abilities.Act.give hgive).does, .inl rfl⟩
    | none => exact ⟨_, _, held, held, rfl, rfl, hheld, .refl held, .inr ⟨rfl, rfl⟩⟩
  | takeAbility id =>
    rw [respond, Character.takeAbility, requireAbilities_eq hheld, pure_bind]
    cases htake : held.take? id with
    | some next =>
      exact ⟨_, _, held, next, rfl, rfl, hheld, (Abilities.Act.take htake).does, .inl rfl⟩
    | none => exact ⟨_, _, held, held, rfl, rfl, hheld, .refl held, .inr ⟨rfl, rfl⟩⟩
  | _ => cases hskilled

theorem Poised.unfolds_skilled (h : before.Poised client) (hskilled : operation.Skilled)
    (hresult : (before.respond operation).result = .ok (after, answer)) :
    Moment.Unfolds ⟨before, operation, answer, after⟩ client := by
  obtain ⟨_, _, held, next, hresponds, -, hheld, hdoes, hafter⟩ :=
    hskilled.responds h.complete client
  cases hresponds.symm.trans hresult
  have hown : ∀ deeds, (Moment.mk before operation answer after).Does deeds →
      deeds = (Moment.mk before operation answer after).ownDeeds :=
    fun _ => (Moment.does_iff hskilled.not_scripted).1
  have hsets : ¬ (Moment.mk before operation answer after).SetsPoints :=
    Moment.not_setsPoints fun hspends => by cases operation <;> first | exact hskilled | exact hspends
  have hdeeds : ∃ deeds, (Moment.mk before operation answer after).Does deeds :=
    ⟨_, (Moment.does_iff hskilled.not_scripted).2 rfl⟩
  rcases hafter with rfl | ⟨rfl, rfl⟩
  · exact ⟨⟨h.complete.setAbilities next, h.callbacks, h.client, h.talks⟩, rfl,
      (or_iff_left hsets).symm, hdeeds, fun deeds hmoment => hown deeds hmoment ▸
        ⟨rfl, h.complete.setAbilities next, held, next, hheld, rfl, hdoes⟩⟩
  · exact ⟨h, rfl, (or_iff_left hsets).symm, hdeeds, fun deeds hmoment => hown deeds hmoment ▸
      ⟨rfl, h.complete, _, _, hheld, hheld, hdoes⟩⟩

/-- Points that are spent or set change the ledger. -/
theorem Poised.changed_iff (h : before.Poised client) (hspends : operation.Spends)
    (hresult : (before.respond operation).result = .ok (after, answer)) :
    after.ledger.changed = true ↔
      before.ledger.changed = true ∨ (Moment.mk before operation answer after).SetsPoints := by
  obtain ⟨being, hbeing⟩ := h.complete.being
  cases operation with
  | setAttributePoints points =>
    cases hresult
    exact iff_of_true rfl (.inr trivial)
  | setCorrectionPoints points =>
    cases hresult
    exact iff_of_true rfl (.inr trivial)
  | usePoint id =>
    rw [respond, usePoint, requireBeing_eq hbeing] at hresult
    cases hresult
    exact before.ledger.changed_usePoint being id
      |>.trans (or_congr_right Moment.setsPoints_usePoint.symm)
  | useCorrection id =>
    rw [respond, useCorrection, requireBeing_eq hbeing] at hresult
    cases hresult
    exact before.ledger.changed_useCorrection being id
      |>.trans (or_congr_right Moment.setsPoints_useCorrection.symm)
  | _ => cases hspends

theorem Poised.unfolds_unskilled (h : before.Poised client) (hplain : operation.Plain)
    (horderly : operation.Orderly) (hunskilled : ¬ operation.Skilled)
    (hresult : (before.respond operation).result = .ok (after, answer)) :
    Moment.Unfolds ⟨before, operation, answer, after⟩ client := by
  have hwithin : operation.Within Entity.Handles := by
    cases operation <;> first | exact trivial | exact horderly | exact absurd trivial hunskilled
  have hfollows := ((h.bounded Entity.bound_handles).respond_ensures hplain hwithin
    fun _ => h.talks).result _ hresult
  have hledger : after.ledger.changed = true ↔
      before.ledger.changed = true ∨ (Moment.mk before operation answer after).SetsPoints := by
    by_cases hspends : operation.Spends
    · exact h.changed_iff hspends hresult
    · rw [hfollows.ledger.resolve_left hspends]
      exact (or_iff_left (Moment.not_setsPoints hspends)).symm
  by_cases hscripted : operation.Scripted
  · obtain ⟨deeds, hhandled⟩ := hfollows.entity.2 h.complete
    exact ⟨h.follows hfollows, hfollows.dirty, hledger,
      ⟨deeds, fun _ => hhandled, fun hnot => absurd hscripted hnot⟩,
      fun deeds hdoes => hdoes.scripted hscripted⟩
  · have hspared : operation.Within Entity.Spares := by
      cases operation <;>
        first | exact trivial | exact absurd trivial hscripted | exact absurd trivial hunskilled
    have hentity := ((h.bounded Entity.bound_spares).respond_ensures hplain hspared
      fun heq => absurd (heq ▸ trivial) hscripted).result _ hresult |>.entity
    have hidle : (Moment.mk before operation answer after).ownDeeds = [] := by
      cases operation <;> first | rfl | exact absurd trivial hunskilled
    refine ⟨h.follows hfollows, hfollows.dirty, hledger,
      ⟨_, (Moment.does_iff hscripted).2 rfl⟩, fun deeds hdoes => ?_⟩
    rw [(Moment.does_iff hscripted).1 hdoes, hidle]
    exact hentity.handled h.complete

/-- An operation that takes no note of changes does what its answer and its scripts say. -/
theorem Poised.unfolds (h : before.Poised client) (hplain : operation.Plain)
    (horderly : operation.Orderly)
    (hresult : (before.respond operation).result = .ok (after, answer)) :
    Moment.Unfolds ⟨before, operation, answer, after⟩ client := by
  by_cases hskilled : operation.Skilled
  · exact h.unfolds_skilled hskilled hresult
  · exact h.unfolds_unskilled hplain horderly hskilled hresult

/-- What is marked, or will be when the character takes note of changes, is what is untold. -/
structure Owes (constructed : Prop) (character start : Character) (annals : Annals) :
    Prop where
  abilities : ∀ held, character.entity.abilities? = some held → ∀ id,
    (id ∈ character.dirty.abilities ∨ .changed id ∈ held.signals) ↔ annals.AbilityUntold start id
  cooldown : ∀ held, character.entity.abilities? = some held →
    (character.dirty.cooldown = true ∨ .cooldownStarted ∈ held.signals ↔ annals.CooldownUntold)
  points : character.dirty.points = true ∨ character.ledger.changed = true ↔
    annals.PointsUntold constructed

variable {start : Character} {annals : Annals} {constructed : Prop} {deeds : List AbilityDeed}
  {being : Being}

theorem Owes.unfolds (h : before.Owes constructed start annals)
    (hunfolds : Moment.Unfolds ⟨before, operation, answer, after⟩ client)
    (hplain : operation.Plain)
    (hdoes : Moment.Does ⟨before, operation, answer, after⟩ deeds) :
    after.Owes constructed start (annals ++ [(⟨before, operation, answer, after⟩, deeds)]) := by
  have hnot : ¬ (Moment.mk before operation answer after).Flushes := by
    rintro ⟨rfl, -⟩
    exact hplain
  obtain ⟨-, -, first, last, hfirst, hlast, hacts⟩ := hunfolds.handled deeds hdoes
  have hdirty : after.dirty = before.dirty := hunfolds.dirty
  refine ⟨fun held hheld id => ?_, fun held hheld => ?_, ?_⟩
  · cases hlast.symm.trans hheld
    rw [Annals.abilityUntold_concat hnot, ← h.abilities first hfirst, hdirty, hacts.signals,
      List.mem_append, AbilityDeed.changed_mem_signals, or_assoc]
  · cases hlast.symm.trans hheld
    rw [Annals.cooldownUntold_concat hnot, ← h.cooldown first hfirst, hdirty, hacts.signals,
      List.mem_append, AbilityDeed.cooldownStarted_mem_signals, or_assoc]
  · rw [Annals.pointsUntold_concat hnot, ← h.points, hdirty, or_assoc]
    exact or_congr_right hunfolds.ledger

/-- The marks of a character that has taken note of changes. -/
theorem status_absorbed :
    (∀ id, id ∈ (before.absorbed being held).dirty.abilities ↔
      id ∈ before.dirty.abilities ∨ .changed id ∈ held.signals) ∧
    ((before.absorbed being held).dirty.cooldown = true ↔
      before.dirty.cooldown = true ∨ .cooldownStarted ∈ held.signals) ∧
    ((before.absorbed being held).dirty.points = true ↔
      before.dirty.points = true ∨ before.ledger.changed = true) := by
  obtain ⟨habilities, hcooldown, hpoints⟩ :=
    before.dirty.status_foldl_markAttribute being.changed.toList
  obtain ⟨hids, hstarted, hsame⟩ :=
    (being.changed.toList.foldl .markAttribute before.dirty).status_foldl_markSignal held.signals
  rw [habilities] at hids
  rw [hcooldown] at hstarted
  rw [hpoints] at hsame
  dsimp only [absorbed]
  cases hledger : before.ledger.changed with
  | true => simpa [DirtySets.markPoints] using ⟨hids, hstarted⟩
  | false => simpa [hsame] using ⟨hids, hstarted⟩

theorem Poised.drained {channels : SyncChannels} (h : before.Poised client) :
    (before.drained being held channels).Poised client :=
  ⟨(h.complete.setBeing _).setAbilities _, h.callbacks, h.client, h.talks⟩

/-- The channels that are sent leave the marks as they are, unless the character is alive and updates
its client. -/
theorem status_clear_flushes (dirty : DirtySets) (hbeing : before.entity.being? = some being)
    (hnot : ¬ (operation = .update ∧ before.Lives)) :
    (dirty.clear (operation.flushes being.isDead)).abilities = dirty.abilities ∧
      (dirty.clear (operation.flushes being.isDead)).cooldown = dirty.cooldown ∧
      (dirty.clear (operation.flushes being.isDead)).points = dirty.points := by
  have hnone : (dirty.clear ⟨0⟩).abilities = dirty.abilities ∧
      (dirty.clear ⟨0⟩).cooldown = dirty.cooldown ∧ (dirty.clear ⟨0⟩).points = dirty.points := by
    rw [DirtySets.clear_none]
    exact ⟨rfl, rfl, rfl⟩
  cases operation with
  | update =>
    have hdead : being.isDead = true := by
      rw [← Bool.not_eq_false]
      exact fun halive => hnot ⟨rfl, being, hbeing, halive⟩
    rw [Operation.flushes, if_pos hdead]
    exact hnone
  | sendStatus => exact DirtySets.clear_attributes
  | _ => exact hnone

theorem flushes_of_lives (hbeing : before.entity.being? = some being) (hlives : before.Lives) :
    Operation.update.flushes being.isDead = .characterStatus := by
  have halive : being.isDead = false := by
    rw [← Bool.not_eq_true, ← dead_iff hbeing]
    exact hlives.not_dead
  rw [Operation.flushes, halive, if_neg Bool.false_ne_true]

/-- Taking note of changes alters nothing that is untold, unless the character is alive and updates
its client, which tells everything. -/
theorem Owes.drains (h : before.Owes constructed start annals)
    (hdrains : operation.Drains) (hbeing : before.entity.being? = some being)
    (habilities : before.entity.abilities? = some held)
    (hafter : after = before.drained being held (operation.flushes being.isDead))
    (hdoes : Moment.Does ⟨before, operation, answer, after⟩ deeds) :
    after.Owes constructed start (annals ++ [(⟨before, operation, answer, after⟩, deeds)]) := by
  have hscripted : ¬ operation.Scripted := fun hscript => by cases hdrains <;> exact hscript
  have hspends : ¬ operation.Spends := fun hspend => by cases hdrains <;> exact hspend
  obtain rfl : deeds = [] := by
    rw [(Moment.does_iff hscripted).1 hdoes]
    cases hdrains <;> rfl
  have hsets : ¬ (Moment.mk before operation answer after).SetsPoints := Moment.not_setsPoints hspends
  have hledger : after.ledger.changed = false := hafter ▸ rfl
  have hsignals : after.entity.abilities? = some held.clearSignals := hafter ▸ rfl
  have hempty : held.clearSignals.signals = [] := rfl
  have hdirty : after.dirty =
      (before.absorbed being held).dirty.clear (operation.flushes being.isDead) := hafter ▸ rfl
  by_cases hflushes : operation = .update ∧ before.Lives
  · obtain ⟨rfl, hlives⟩ := hflushes
    obtain ⟨hnone, hready, hset⟩ :=
      @Annals.not_untold_of_flushes annals (⟨before, .update, answer, after⟩, []) start constructed
        ⟨rfl, hlives⟩ rfl hsets
    rw [flushes_of_lives hbeing hlives] at hdirty
    obtain ⟨hids, hcooldown, hpoints⟩ :=
      (before.absorbed being held).dirty.clear_characterStatus
    rw [← hdirty] at hids hcooldown hpoints
    refine ⟨fun last hlast id => iff_of_false ?_ (hnone id),
      fun last hlast => iff_of_false ?_ hready, iff_of_false ?_ hset⟩
    · cases hsignals.symm.trans hlast
      rw [hids, hempty]
      simp
    · cases hsignals.symm.trans hlast
      rw [hcooldown, hempty]
      simp
    · rw [hpoints, hledger]
      simp
  · have hquiet : ¬ (Moment.mk before operation answer after).Flushes := hflushes
    obtain ⟨hids, hcooldown, hpoints⟩ := @status_absorbed before held being
    obtain ⟨hsameIds, hsameCooldown, hsamePoints⟩ :=
      status_clear_flushes (before.absorbed being held).dirty hbeing hflushes
    rw [← hdirty] at hsameIds hsameCooldown hsamePoints
    refine ⟨fun last hlast id => ?_, fun last hlast => ?_, ?_⟩
    · cases hsignals.symm.trans hlast
      rw [Annals.abilityUntold_concat hquiet, ← h.abilities held habilities, hsameIds, hids, hempty]
      simp
    · cases hsignals.symm.trans hlast
      rw [Annals.cooldownUntold_concat hquiet, ← h.cooldown held habilities, hsameCooldown,
        hcooldown, hempty]
      simp
    · rw [Annals.pointsUntold_concat hquiet, ← h.points, hsamePoints, hpoints, hledger]
      simp [hsets]

theorem Owes.resynced (h : before.Owes constructed start annals)
    (hdoes : Moment.Does ⟨before, .modifiedAllAttributes, answer, before.resynced being⟩ deeds) :
    (before.resynced being).Owes constructed start
      (annals ++ [(⟨before, .modifiedAllAttributes, answer, before.resynced being⟩, deeds)]) := by
  obtain rfl : deeds = [] := hdoes.own fun hscript => hscript
  have hquiet : ¬ (Moment.mk before .modifiedAllAttributes answer
      (before.resynced being)).Flushes := fun hflushes => by cases hflushes.1
  obtain ⟨hids, hcooldown, hpoints⟩ :=
    before.dirty.status_foldl_markAttribute being.attributes.ids
  have hsame : (before.resynced being).entity.abilities? = before.entity.abilities? := rfl
  have hledger : (before.resynced being).ledger = before.ledger := rfl
  refine ⟨fun held hheld other => ?_, fun held hheld => ?_, ?_⟩
  · rw [Annals.abilityUntold_concat hquiet, ← h.abilities held (hsame ▸ hheld), ← hids]
    exact (or_iff_left (by simp)).symm
  · rw [Annals.cooldownUntold_concat hquiet, ← h.cooldown held (hsame ▸ hheld), ← hcooldown]
    exact (or_iff_left (by simp)).symm
  · rw [Annals.pointsUntold_concat hquiet, ← h.points, ← hpoints, hledger]
    exact (or_iff_left fun hsets => hsets).symm

theorem Operation.Orderly.kinds (h : operation.Orderly) :
    operation.Plain ∨ operation.Drains ∨ operation = .modifiedAllAttributes :=
  Operation.kinds fun _ heq => by subst heq; exact h

/-- What one operation of a run does to what is left to be told. -/
theorem Poised.attends (h : before.Poised client) (horderly : operation.Orderly)
    (hresult : (before.respond operation).result = .ok (after, answer)) :
    after.Poised client ∧ (∃ deeds, Moment.Does ⟨before, operation, answer, after⟩ deeds) ∧
      ∀ annals deeds, before.Owes constructed start annals →
        Moment.Does ⟨before, operation, answer, after⟩ deeds →
        after.Owes constructed start
          (annals ++ [(⟨before, operation, answer, after⟩, deeds)]) := by
  obtain ⟨being, hbeing⟩ := h.complete.being
  obtain ⟨held, hheld⟩ := h.complete.abilities
  have hperform : (before.perform operation).result = .ok after := by
    rw [perform_eq, Step.bind_of_ok hresult]
    rfl
  rcases horderly.kinds with hplain | hdrains | rfl
  · have hunfolds := h.unfolds hplain horderly hresult
    exact ⟨hunfolds.poised, hunfolds.deeds,
      fun annals deeds howes hdoes => howes.unfolds hunfolds hplain hdoes⟩
  · rw [perform_of_drains hdrains hbeing hheld] at hperform
    have hafter := (Except.ok.inj hperform).symm
    have hscripted : ¬ operation.Scripted := fun hscript => by cases hdrains <;> exact hscript
    exact ⟨hafter ▸ h.drained, ⟨_, (Moment.does_iff hscripted).2 rfl⟩,
      fun annals deeds howes hdoes => howes.drains hdrains hbeing hheld hafter hdoes⟩
  · rw [perform, modifiedAllAttributes_eq hbeing] at hperform
    cases hperform
    exact ⟨⟨h.complete.setBeing _, h.callbacks, h.client, h.talks⟩,
      ⟨[], fun hscript => False.elim hscript, fun _ => rfl⟩,
      fun annals deeds howes hdoes => howes.resynced hdoes⟩

/-! ### Runs -/

/-- The annals are of these moments, and every deed in them was done. -/
def Annals.Recounts (annals : Annals) (moments : List Moment) : Prop :=
  annals.map Prod.fst = moments ∧ ∀ entry ∈ annals, entry.1.Does entry.2

theorem Annals.recounts_nil : annals.Recounts [] ↔ annals = [] := by
  constructor
  · exact fun h => List.map_eq_nil_iff.1 h.1
  · rintro rfl
    exact ⟨rfl, fun _ hmem => by cases hmem⟩

theorem Annals.recounts_concat {moments : List Moment} {moment : Moment} :
    annals.Recounts (moments ++ [moment]) ↔ ∃ earlier deeds, annals = earlier ++ [(moment, deeds)] ∧
      Annals.Recounts earlier moments ∧ moment.Does deeds := by
  constructor
  · rintro ⟨hmoments, hdoes⟩
    obtain ⟨earlier, last, rfl, hearlier, hlast⟩ := List.map_eq_append_iff.1 hmoments
    obtain ⟨⟨met, deeds⟩, rfl, rfl⟩ := List.map_eq_singleton_iff.1 hlast
    refine ⟨earlier, deeds, rfl, ⟨hearlier, fun entry hmem => ?_⟩, hdoes _ (by simp)⟩
    exact hdoes entry (List.mem_append_left _ hmem)
  · rintro ⟨earlier, deeds, rfl, ⟨rfl, hearlier⟩, hdoes⟩
    refine ⟨by simp, fun entry hmem => ?_⟩
    rcases List.mem_append.1 hmem with hmem | hmem
    · exact hearlier entry hmem
    · rw [List.mem_singleton.1 hmem]
      exact hdoes

variable {operations : List Operation} {moments : List Moment}

/-- After a run what is marked, or will be, is what is untold. -/
theorem Poised.attend (h : start.Poised client) (howes : start.Owes constructed start [])
    (horderly : ∀ operation ∈ operations, operation.Orderly)
    (hrun : (start.attend operations).result = .ok (before, moments)) :
    before.Poised client ∧ (∃ annals : Annals, annals.Recounts moments) ∧
      ∀ annals : Annals, annals.Recounts moments → before.Owes constructed start annals := by
  refine attend_induction (motive := fun moments now => now.Poised client ∧
    (∃ annals : Annals, annals.Recounts moments) ∧
      ∀ annals : Annals, annals.Recounts moments → now.Owes constructed start annals) ?_ ?_ hrun
  · refine ⟨h, ⟨[], Annals.recounts_nil.2 rfl⟩, fun annals hannals => ?_⟩
    rw [Annals.recounts_nil.1 hannals]
    exact howes
  · rintro moments moment hmem hresult ⟨hpoised, ⟨annals, hannals⟩, hall⟩
    obtain ⟨hnext, ⟨deeds, hdeeds⟩, hstep⟩ :=
      @Poised.attends client _ _ _ _ start constructed hpoised (horderly _ hmem) hresult
    refine ⟨hnext, ⟨_, Annals.recounts_concat.2 ⟨annals, deeds, rfl, hannals, hdeeds⟩⟩, ?_⟩
    intro longer hlonger
    obtain ⟨earlier, done, rfl, hearlier, hdone⟩ := Annals.recounts_concat.1 hlonger
    exact hstep earlier done (hall earlier hearlier) hdone

/-- The format, reading what follows the header of the message, set a balance of points. -/
def BornWithPoints (context : CharacterContext) (format : Load Unit) (message : Cursor) : Prop :=
  ∃ databaseId name cursor state,
    (readHeader.run message).run = (.ok (databaseId, name), cursor) ∧
    (format.run ⟨.initial context name, cursor⟩).run = (.ok (), state) ∧
    (CharacterData.initial context name).Pointed state.data

variable {entity : EntityId} {context : CharacterContext} {format : Load Unit}
  {message rest : Cursor}

/-- Of a newborn character every ability that it possesses is to be told, and its points are if the
format set them. -/
theorem owes_newborn (hformat : format.Proper)
    (hborn : (ofMessage entity context format (some client) message).result = .ok (.ok start, rest)) :
    start.Owes (BornWithPoints context format message) start [] := by
  obtain ⟨databaseId, name, cursor, state, hheader, hread, rfl⟩ :=
    ofMessage_ensures.result _ hborn _ rfl
  have hcalls := hformat ⟨.initial context name, cursor⟩
  rw [hread] at hcalls
  have hpointed : BornWithPoints context format message ↔
      (CharacterData.initial context name).Pointed state.data := by
    constructor
    · rintro ⟨otherId, otherName, otherCursor, other, hother, hstate, hpointed⟩
      cases hheader.symm.trans hother
      cases hread.symm.trans hstate
      exact hpointed
    · exact fun hpointed => ⟨databaseId, name, cursor, state, hheader, hread, hpointed⟩
  obtain ⟨hids, hcooldown, hpoints⟩ :=
    @status_newborn entity context (some client) databaseId state.data
  have hlearned : (newborn entity context (some client) databaseId state.data).entity.abilities? =
      some state.data.abilities.clearSignals := rfl
  refine ⟨fun held hheld id => ?_, fun held hheld => ?_, ?_⟩
  · cases hlearned.symm.trans hheld
    rw [hids, Annals.AbilityUntold, hlearned]
    simp [Abilities.clearSignals, Abilities.ids]
  · cases hlearned.symm.trans hheld
    rw [hcooldown, Annals.CooldownUntold]
    simp [Abilities.clearSignals]
  · have hledger : (newborn entity context (some client) databaseId state.data).ledger =
        state.data.ledger := rfl
    rw [hpoints, hledger, Annals.PointsUntold, hpointed, ← hcalls.changed_iff rfl]
    simp

theorem poised_newborn {databaseId : Int32} {data : CharacterData}
    (hnone : context.callbacks = {}) :
    (newborn entity context (some client) databaseId data).Poised client where
  complete := ⟨⟨_, rfl⟩, ⟨_, rfl⟩, ⟨_, rfl⟩⟩
  callbacks := hnone
  client := rfl
  talks _ hnone := by cases hnone

/-- What a character sends when it takes note of changes: an update tells of the abilities, the
cooldown and points that are untold, and what it says of them are the values of the moment; or it tells
of nothing while the character is dead. The other two tell nothing of them. -/
structure Tells (client : ClientId) (start : Character) (constructed : Prop) (before : Character)
    (annals : Annals) : Prop where
  lives : before.Lives → ∃ ids cooldown points after, before.update.result = .ok after ∧
    Effect.sentTo client before.update.effects =
      DirtySets.statusMessages before.syncSource ids cooldown points ∧
    (∀ message ∈ Effect.sentTo client before.update.effects,
      DirtySets.StatesStatus before.syncSource ids message) ∧
    (ids.isEmpty = false ↔ ∃ id, annals.AbilityUntold start id) ∧
    (∀ id, id ∈ ids ↔ annals.AbilityUntold start id) ∧
    (cooldown = true ↔ annals.CooldownUntold) ∧
    (points = true ↔ annals.PointsUntold constructed)
  dead : before.Dead → ∃ after, before.update.result = .ok after ∧
    Effect.sentTo client before.update.effects = []
  sendStatus : ∃ after, before.sendStatus.result = .ok after ∧
    ∀ message ∈ Effect.sentTo client before.sendStatus.effects,
      message.id = .playerAttributeChange
  pendingSync : ∃ result, before.pendingSync.result = .ok result ∧
    Effect.sentTo client before.pendingSync.effects = []

theorem sentTo_perform (hclient : before.client = some client) (hdrains : operation.Drains)
    (hbeing : before.entity.being? = some being) (hheld : before.entity.abilities? = some held) :
    Effect.sentTo client (before.perform operation).effects =
      (before.absorbed being held).dirty.messages before.syncSource
        (operation.flushes being.isDead) := by
  rw [perform_of_drains hdrains hbeing hheld, sentTo_drainEffects hclient,
    syncSource_absorbed hbeing hheld]

theorem Owes.tells (howes : before.Owes constructed start annals)
    (h : before.Poised client) : Tells client start constructed before annals := by
  obtain ⟨being, hbeing⟩ := h.complete.being
  obtain ⟨held, hheld⟩ := h.complete.abilities
  obtain ⟨hids, hcooldown, hpoints⟩ := @status_absorbed before held being
  have hreturns : ∀ {operation : Operation}, operation.Drains →
      ∃ after, (before.perform operation).result = .ok after := fun hdrains =>
    ⟨_, congrArg Step.result (perform_of_drains hdrains hbeing hheld)⟩
  refine ⟨fun hlives => ?_, fun hdead => ?_, ?_, ?_⟩
  · obtain ⟨after, hafter⟩ := hreturns .update
    have huntold : ∀ id, id ∈ (before.absorbed being held).dirty.abilities ↔
        annals.AbilityUntold start id := fun id =>
      (hids id).trans (howes.abilities held hheld id)
    have hsent : Effect.sentTo client before.update.effects =
        DirtySets.statusMessages before.syncSource (before.absorbed being held).dirty.abilities
          (before.absorbed being held).dirty.cooldown (before.absorbed being held).dirty.points := by
      rw [← DirtySets.messages_characterStatus, ← flushes_of_lives hbeing hlives]
      exact sentTo_perform h.client .update hbeing hheld
    refine ⟨(before.absorbed being held).dirty.abilities, (before.absorbed being held).dirty.cooldown,
      (before.absorbed being held).dirty.points, after, hafter, hsent, ?_,
      SortedSet.isEmpty_eq_false_iff.trans (exists_congr huntold), huntold,
      hcooldown.trans (howes.cooldown held hheld), hpoints.trans howes.points⟩
    rw [hsent]
    exact fun message => DirtySets.statesStatus_of_mem_statusMessages
  · obtain ⟨after, hafter⟩ := hreturns .update
    refine ⟨after, hafter, (sentTo_perform h.client .update hbeing hheld).trans ?_⟩
    rw [Operation.flushes, if_pos ((dead_iff hbeing).1 hdead), DirtySets.messages_none]
  · obtain ⟨after, hafter⟩ := hreturns .sendStatus
    refine ⟨after, hafter, fun message hmem => ?_⟩
    have hsent := sentTo_perform h.client .sendStatus hbeing hheld
    rw [perform] at hsent
    rw [hsent] at hmem
    exact DirtySets.id_of_mem_messages_attributes hmem
  · obtain ⟨after, hafter⟩ := hreturns .pendingSync
    have hsent := sentTo_perform h.client .pendingSync hbeing hheld
    rw [show Operation.flushes being.isDead .pendingSync = ⟨0⟩ from rfl, DirtySets.messages_none]
      at hsent
    obtain ⟨result, hresult, -, heffects⟩ := Step.bind_eq_ok hafter
    refine ⟨result, hresult, ?_⟩
    rw [← hsent, perform, heffects, Step.effects_pure, List.append_nil]

/-- An update of a character that is alive tells of abilities, the cooldown and points if and only if
something was done to them since the last such update, whatever else was done meanwhile: neither
updates while the character was dead nor other flushes lose any of it. -/
theorem tells_what_is_untold
    (hborn : (ofMessage entity context format (some client) message).result = .ok (.ok start, rest))
    (hnone : context.callbacks = {}) (hformat : format.Proper)
    (horderly : ∀ operation ∈ operations, operation.Orderly)
    (hrun : (start.attend operations).result = .ok (before, moments)) :
    (before.Lives ∨ before.Dead) ∧ (∃ annals : Annals, annals.Recounts moments) ∧
      ∀ annals : Annals, annals.Recounts moments →
        Tells client start (BornWithPoints context format message) before annals := by
  have howes : start.Owes (BornWithPoints context format message) start [] :=
    owes_newborn hformat hborn
  obtain ⟨databaseId, name, cursor, state, -, -, hstart⟩ := ofMessage_ensures.result _ hborn _ rfl
  have hpoised : start.Poised client := hstart ▸ poised_newborn hnone
  obtain ⟨hbefore, hannals, hall⟩ := hpoised.attend howes horderly hrun
  exact ⟨lives_or_dead hbefore.complete, hannals,
    fun annals hrecounts => (hall annals hrecounts).tells hbefore⟩

/-- Points that are set between two flushes of other channels are told by the next update. -/
theorem tells_of_sample : ∃ start rest before moments,
    (sampleBirth {}).result = .ok (.ok start, rest) ∧
    (start.attend [.update, .setAttributePoints 3, .sendStatus]).result = .ok (before, moments) ∧
    before.Lives ∧ ∃ annals : Annals, annals.Recounts moments ∧
      Tells ⟨0⟩ start
        (BornWithPoints { registry := .sample } Load.standard (.ofBytes sampleLogin)) before
        annals := by
  have halive : ((born? (sampleBirth {})).bind fun start =>
      (start.attend [.update, .setAttributePoints 3, .sendStatus]).result.toOption.bind
        fun final => final.1.entity.being?.map Being.isDead) = some false := by decide +kernel
  obtain ⟨start, hstart, halive⟩ := Option.bind_eq_some_iff.1 halive
  obtain ⟨⟨before, moments⟩, hrun, halive⟩ := Option.bind_eq_some_iff.1 halive
  obtain ⟨being, hbeing, halive⟩ := Option.map_eq_some_iff.1 halive
  obtain ⟨rest, hborn⟩ := exists_of_born hstart
  have hresult : (start.attend [.update, .setAttributePoints 3, .sendStatus]).result =
      .ok (before, moments) := by
    revert hrun
    cases (start.attend [.update, .setAttributePoints 3, .sendStatus]).result <;>
      simp [Except.toOption]
  have horderly : ∀ operation ∈ [Operation.update, .setAttributePoints 3, .sendStatus],
      operation.Orderly := by simp [Operation.Orderly]
  obtain ⟨-, ⟨annals, hannals⟩, htells⟩ :=
    tells_what_is_untold hborn rfl Load.proper_standard horderly hresult
  exact ⟨start, rest, before, moments, hborn, hresult, ⟨being, hbeing, halive⟩, annals, hannals,
    htells annals hannals⟩

end Character

end CharacterSim
