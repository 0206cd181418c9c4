import CharacterSim.Proofs.Character.StatusChannels
import CharacterSim.Proofs.Message.Entries

/-! What the client of a character can tell of its abilities. A message lists the marked abilities
that are possessed, and a lost one is left out of it, so that a loss alone does not name what was
lost. All else the messages tell: what was listed is possessed unless it was lost since. -/

namespace CharacterSim

namespace DirtySets

/-- The messages of an update list the marked abilities that are possessed. -/
theorem mem_listed_statusMessages {source : SyncSource} {ids : SortedSet AbilityId}
    {cooldown points : Bool} {id : AbilityId} :
    (∃ message ∈ statusMessages source ids cooldown points, id ∈ message.listed) ↔
      id ∈ ids ∧ (source.remaining? id).isSome = true := by
  have hcooldown : (cooldownMessage source).listed = [] := rfl
  have hpoints : (pointsMessage source).listed = [] := rfl
  constructor
  · rintro ⟨message, hmem, hlisted⟩
    simp only [statusMessages, List.mem_append] at hmem
    rcases hmem with (hmem | hmem) | hmem
    · split at hmem
      · cases hmem
      · rw [List.mem_singleton.1 hmem, mem_listed_abilityMessage, SortedSet.mem_toList_iff]
          at hlisted
        exact hlisted
    · split at hmem
      · rw [List.mem_singleton.1 hmem, hcooldown] at hlisted
        cases hlisted
      · cases hmem
    · split at hmem
      · rw [List.mem_singleton.1 hmem, hpoints] at hlisted
        cases hlisted
      · cases hmem
  · rintro ⟨hmem, hheld⟩
    have hsome : ids.isEmpty = false := SortedSet.isEmpty_eq_false_iff.2 ⟨id, hmem⟩
    refine ⟨abilityMessage source ids.toList, by simp [statusMessages, hsome], ?_⟩
    exact mem_listed_abilityMessage.2 ⟨SortedSet.mem_toList_iff.2 hmem, hheld⟩

end DirtySets

namespace Character

/-- The entity of the character possesses the ability. -/
def Possesses (character : Character) (id : AbilityId) : Prop :=
  ∃ held, character.entity.abilities? = some held ∧ held.has id = true

/-- A change of the ability is marked, or will be. -/
def Unsettled (character : Character) (id : AbilityId) : Prop :=
  id ∈ character.dirty.abilities ∨
    ∃ held, character.entity.abilities? = some held ∧ .changed id ∈ held.signals

variable {client : ClientId} {moments : List Moment} {moment : Moment} {id : AbilityId}
  {character before after start : Character} {operation : Operation} {answer : Answer}
  {being : Being} {held : Abilities}

theorem possesses_iff (h : character.entity.abilities? = some held) :
    character.Possesses id ↔ held.has id = true := by
  constructor
  · rintro ⟨other, hother, hhas⟩
    rwa [Option.some.inj (h.symm.trans hother)]
  · exact fun hhas => ⟨held, h, hhas⟩

theorem unsettled_iff (h : character.entity.abilities? = some held) :
    character.Unsettled id ↔ id ∈ character.dirty.abilities ∨ .changed id ∈ held.signals := by
  refine or_congr_right ⟨?_, fun hsignal => ⟨held, h, hsignal⟩⟩
  rintro ⟨other, hother, hsignal⟩
  rwa [Option.some.inj (h.symm.trans hother)]

/-- The client is told in a moment that the ability is possessed. -/
def Moment.Lists (client : ClientId) (moment : Moment) (id : AbilityId) : Prop :=
  ∃ message ∈ moment.messages client, id ∈ message.listed

/-- The ability was lost, and no message listed it since. -/
def LostSinceListed (client : ClientId) (moments : List Moment) (id : AbilityId) : Prop :=
  Since (fun moment => .lost id ∈ moment.ownDeeds) (fun moment => moment.Lists client id) moments

/-- The ability was listed, and was not lost since. -/
def Known (client : ClientId) (moments : List Moment) (id : AbilityId) : Prop :=
  (∃ moment ∈ moments, moment.Lists client id) ∧ ¬ LostSinceListed client moments id

theorem known_concat_of_lists (h : moment.Lists client id) (hkept : .lost id ∉ moment.ownDeeds) :
    Known client (moments ++ [moment]) id := by
  refine ⟨⟨moment, by simp, h⟩, fun hlost => ?_⟩
  rcases since_concat.1 hlost with hlost | ⟨-, hnot⟩
  · exact hkept hlost
  · exact hnot h

theorem known_concat (h : ¬ moment.Lists client id) : Known client (moments ++ [moment]) id ↔
    Known client moments id ∧ .lost id ∉ moment.ownDeeds := by
  rw [Known, Known, LostSinceListed, since_concat, and_iff_left h, not_or, LostSinceListed]
  simp only [List.mem_append, List.mem_singleton, or_and_right, exists_or, exists_eq_left,
    or_iff_left h]
  tauto

/-- What the client knows, in the course of a run of a character that is alive: what it knows to be
possessed is, and what is possessed it knows, unless a change of it is still to be told. -/
structure Accountable (client : ClientId) (moments : List Moment) (now : Character) : Prop where
  complete : now.entity.Complete
  attached : now.client = some client
  lives : now.Lives
  kept : ∀ id, Known client moments id → now.Possesses id
  shown : ∀ id, now.Possesses id → now.Unsettled id ∨ Known client moments id

theorem Accountable.skilled (h : Accountable client moments before) (hskilled : operation.Skilled) :
    ∃ after answer, (before.respond operation).result = .ok (after, answer) ∧
      Accountable client (moments ++ [⟨before, operation, answer, after⟩]) after := by
  obtain ⟨after, answer, held, next, hresult, hsent, hheld, hdoes, hafter⟩ :=
    hskilled.responds h.complete client
  refine ⟨after, answer, hresult, ?_⟩
  have hquiet : ∀ id, ¬ (Moment.mk before operation answer after).Lists client id := by
    rintro id ⟨message, hmem, -⟩
    rw [Moment.messages, hsent] at hmem
    cases hmem
  have hnext : after.entity.abilities? = some next := by
    rcases hafter with rfl | ⟨rfl, rfl⟩
    · rfl
    · exact hheld
  have hsame : after.entity.Complete ∧ after.client = before.client ∧
      after.entity.being? = before.entity.being? ∧ after.dirty = before.dirty := by
    rcases hafter with rfl | ⟨rfl, -⟩
    · exact ⟨h.complete.setAbilities next, rfl, rfl, rfl⟩
    · exact ⟨h.complete, rfl, rfl, rfl⟩
  obtain ⟨hcomplete, hclient, hbeing, hdirty⟩ := hsame
  refine ⟨hcomplete, hclient.trans h.attached, ?_, fun id hknown => ?_, fun id hhas => ?_⟩
  · obtain ⟨being, hold, halive⟩ := h.lives
    exact ⟨being, hbeing.trans hold, halive⟩
  · obtain ⟨hknown, hkept⟩ := (known_concat (hquiet id)).1 hknown
    rw [possesses_iff hnext]
    exact hdoes.has_of_not_lost hkept ((possesses_iff hheld).1 (h.kept id hknown))
  · rw [possesses_iff hnext] at hhas
    rw [unsettled_iff hnext, hdirty, hdoes.signals, List.mem_append,
      AbilityDeed.changed_mem_signals, known_concat (hquiet id)]
    by_cases htouched : ∃ deed ∈ (Moment.mk before operation answer after).ownDeeds, deed.id = id
    · exact .inl (.inr (.inr htouched))
    · rw [hdoes.has_eq fun deed hmem heq => htouched ⟨deed, hmem, heq⟩] at hhas
      rcases h.shown id ((possesses_iff hheld).2 hhas) with hunsettled | hknown
      · rw [unsettled_iff hheld] at hunsettled
        exact .inl (hunsettled.imp_right .inl)
      · exact .inr ⟨hknown, fun hlost => htouched ⟨_, hlost, rfl⟩⟩

/-- An update leaves nothing to be told. -/
theorem Accountable.updated (h : Accountable client moments before) :
    ∃ after, (before.respond .update).result = .ok (after, .done) ∧
      Accountable client (moments ++ [⟨before, .update, .done, after⟩]) after ∧
      ∀ id, ¬ after.Unsettled id := by
  obtain ⟨being, hbeing⟩ := h.complete.being
  obtain ⟨held, hheld⟩ := h.complete.abilities
  have hperform := perform_of_drains .update hbeing hheld
  have hsent := sentTo_perform h.attached .update hbeing hheld
  rw [flushes_of_lives hbeing h.lives] at hperform hsent
  rw [effects_perform, DirtySets.messages_characterStatus] at hsent
  obtain ⟨hmarked, -, -⟩ := @status_absorbed before held being
  have hresult : (before.respond .update).result =
      .ok (before.drained being held .characterStatus, .done) := by
    have hupdate : before.update = _ := hperform
    rw [respond, hupdate]
    rfl
  refine ⟨_, hresult, ?_⟩
  generalize hafter : before.drained being held .characterStatus = after
  have hlists : ∀ id, (Moment.mk before .update .done after).Lists client id ↔
      before.Unsettled id ∧ before.Possesses id := by
    intro id
    have hremaining : (before.syncSource.remaining? id).isSome = held.has id := by
      dsimp only [syncSource]
      rw [hheld]
      rfl
    rw [Moment.Lists, Moment.messages, hsent, DirtySets.mem_listed_statusMessages, hmarked,
      hremaining, unsettled_iff hheld, possesses_iff hheld]
  have hnext : after.entity.abilities? = some held.clearSignals := hafter ▸ rfl
  have hhas : ∀ id, after.Possesses id ↔ before.Possesses id := fun id => by
    rw [possesses_iff hnext, possesses_iff hheld]
    rfl
  have hdirty : after.dirty.abilities = .empty :=
    hafter ▸ (before.absorbed being held).dirty.clear_characterStatus.1
  refine ⟨⟨hafter ▸ (h.complete.setBeing _).setAbilities _, hafter ▸ h.attached, ?_,
    fun id hknown => ?_, fun id hpossessed => ?_⟩, fun id => ?_⟩
  · obtain ⟨other, hother, halive⟩ := h.lives
    cases hbeing.symm.trans hother
    exact ⟨being.clearChanged, hafter ▸ rfl, halive⟩
  · by_cases hlisted : (Moment.mk before .update .done after).Lists client id
    · exact (hhas id).2 ((hlists id).1 hlisted).2
    · exact (hhas id).2 (h.kept id ((known_concat hlisted).1 hknown).1)
  · right
    have hbefore := (hhas id).1 hpossessed
    by_cases hunsettled : before.Unsettled id
    · exact known_concat_of_lists ((hlists id).2 ⟨hunsettled, hbefore⟩) (by simp [Moment.ownDeeds])
    · refine (known_concat fun hlisted => hunsettled ((hlists id).1 hlisted).1).2 ⟨?_, ?_⟩
      · exact (h.shown id hbefore).resolve_left hunsettled
      · simp [Moment.ownDeeds]
  · rw [unsettled_iff hnext, hdirty]
    simp [Abilities.clearSignals]

variable {operations : List Operation}

theorem Accountable.attend (h : Accountable client [] start)
    (hoperations : ∀ operation ∈ operations, operation.Skilled ∨ operation = .update) :
    ∃ final moments, (start.attend operations).result = .ok (final, moments) ∧
      Accountable client moments final := by
  induction operations using List.reverseRecOn with
  | nil => exact ⟨start, [], rfl, h⟩
  | append_singleton earlier operation ih =>
    obtain ⟨before, moments, hbefore, haccounts⟩ :=
      ih fun other hmem => hoperations other (List.mem_append_left _ hmem)
    obtain ⟨after, answer, hafter, hnext⟩ : ∃ after answer,
        (before.respond operation).result = .ok (after, answer) ∧
        Accountable client (moments ++ [⟨before, operation, answer, after⟩]) after := by
      rcases hoperations operation (by simp) with hskilled | rfl
      · exact haccounts.skilled hskilled
      · obtain ⟨after, hafter, hnext, -⟩ := haccounts.updated
        exact ⟨after, .done, hafter, hnext⟩
    exact ⟨after, moments ++ [⟨before, operation, answer, after⟩],
      attend_concat_of_ok hbefore hafter, hnext⟩

/-- After an update the character possesses what its client knows it to. -/
theorem Accountable.possesses_iff (h : Accountable client [] start)
    (hoperations : ∀ operation ∈ operations, operation.Skilled ∨ operation = .update) :
    ∃ final moments, (start.attend (operations ++ [Operation.update])).result = .ok (final, moments) ∧
      final.Lives ∧ ∀ id, final.Possesses id ↔
        (∃ message ∈ Effect.sentTo client (start.attend (operations ++ [Operation.update])).effects,
          id ∈ message.listed) ∧ ¬ LostSinceListed client moments id := by
  obtain ⟨before, moments, hbefore, haccounts⟩ := h.attend hoperations
  obtain ⟨final, hfinal, hlast, hsettled⟩ := haccounts.updated
  have hrun := attend_concat_of_ok hbefore hfinal
  refine ⟨final, _, hrun, hlast.lives, fun id => ?_⟩
  rw [sentTo_attend hrun]
  have hknown : final.Possesses id ↔ Known client (moments ++ [⟨before, .update, .done, final⟩]) id :=
    ⟨fun hhas => (hlast.shown id hhas).resolve_left (hsettled id), hlast.kept id⟩
  rw [hknown, Known]
  refine and_congr_left fun _ => ?_
  simp only [Moment.Lists, List.mem_flatMap]
  tauto

theorem accountable_newborn {entity : EntityId} {context : CharacterContext} {format : Load Unit}
    {message rest : Cursor} (hformat : format.Proper)
    (hborn : (ofMessage entity context format (some client) message).result =
      .ok (.ok start, rest)) : Accountable client [] start := by
  obtain ⟨databaseId, name, cursor, state, -, hread, rfl⟩ := ofMessage_ensures.result _ hborn _ rfl
  refine ⟨⟨⟨_, rfl⟩, ⟨_, rfl⟩, ⟨_, rfl⟩⟩, rfl, lives_newborn hformat hread, ?_, fun id hhas => ?_⟩
  · rintro id ⟨⟨moment, hmem, -⟩, -⟩
    cases hmem
  · obtain ⟨held, hheld, hhas⟩ := hhas
    cases hheld
    exact .inl (.inl ((status_newborn.1 id).2 (SortedMap.contains_iff_mem_keys.1 hhas)))

/-- After an update a character possesses the abilities that its client was told of, but for those
that were lost since the last message that listed them. So of two runs that send the same messages
the end is the same if and only if, of the abilities that the messages list, the same were lost. -/
theorem same_possession_iff {entity : EntityId} {context : CharacterContext} {format : Load Unit}
    {message rest : Cursor} {first second : List Operation} (hformat : format.Proper)
    (hborn : (ofMessage entity context format (some client) message).result = .ok (.ok start, rest))
    (hfirst : ∀ operation ∈ first, operation.Skilled ∨ operation = .update)
    (hsecond : ∀ operation ∈ second, operation.Skilled ∨ operation = .update)
    (hsame : Effect.sentTo client (start.attend (first ++ [Operation.update])).effects =
      Effect.sentTo client (start.attend (second ++ [Operation.update])).effects) :
    ∃ one oneMoments two twoMoments,
      (start.attend (first ++ [Operation.update])).result = .ok (one, oneMoments) ∧
      (start.attend (second ++ [Operation.update])).result = .ok (two, twoMoments) ∧
      one.Lives ∧ two.Lives ∧
      (∀ id, one.Possesses id ↔
        (∃ message ∈ Effect.sentTo client (start.attend (first ++ [Operation.update])).effects,
          id ∈ message.listed) ∧ ¬ LostSinceListed client oneMoments id) ∧
      (∀ id, two.Possesses id ↔
        (∃ message ∈ Effect.sentTo client (start.attend (first ++ [Operation.update])).effects,
          id ∈ message.listed) ∧ ¬ LostSinceListed client twoMoments id) ∧
      ((∀ id, one.Possesses id ↔ two.Possesses id) ↔
        ∀ message ∈ Effect.sentTo client (start.attend (first ++ [Operation.update])).effects,
          ∀ id ∈ message.listed,
            (LostSinceListed client oneMoments id ↔ LostSinceListed client twoMoments id)) := by
  have haccounts := accountable_newborn hformat hborn
  obtain ⟨one, oneMoments, hone, honeLives, honeKnown⟩ := haccounts.possesses_iff hfirst
  obtain ⟨two, twoMoments, htwo, htwoLives, htwoKnown⟩ := haccounts.possesses_iff hsecond
  rw [← hsame] at htwoKnown
  refine ⟨one, oneMoments, two, twoMoments, hone, htwo, honeLives, htwoLives, honeKnown, htwoKnown,
    fun hpossessed message hmem id hlisted => ?_, fun hlost id => ?_⟩
  · have hlists : ∃ message ∈
        Effect.sentTo client (start.attend (first ++ [Operation.update])).effects,
          id ∈ message.listed := ⟨message, hmem, hlisted⟩
    have hboth := hpossessed id
    rw [honeKnown, htwoKnown, and_iff_right hlists, and_iff_right hlists] at hboth
    exact not_iff_not.1 hboth
  · rw [honeKnown, htwoKnown]
    refine and_congr_right ?_
    rintro ⟨message, hmem, hlisted⟩
    exact not_congr (hlost message hmem id hlisted)

/-! ### Two losses that look the same -/

/-- A login with abilities 1 and 2. -/
def skilledBirth : Step (Except ConstructionError Character × Cursor) :=
  ofMessage ⟨1⟩
    { registry := .sample
      abilities := .ofList [⟨⟨1⟩, "slash", .ofMillis 500⟩, ⟨⟨2⟩, "dash", .ofMillis 800⟩] }
    Load.standard (some ⟨0⟩) (.ofBytes (sampleLogin.take 20 ++ [0, 2, 1, 2]))

/-- The run in which an ability is lost after the client was told of all. -/
def losing (id : AbilityId) : List Operation := [.update, .takeAbility id]

/-- Whether a character possesses an ability after such a run, if it gets there. -/
def keeps? (start : Character) (lost id : AbilityId) : Option Bool :=
  (start.attend (losing lost ++ [Operation.update])).result.toOption.bind fun final =>
    final.1.entity.abilities?.map (·.has id)

theorem exists_of_keeps {lost : AbilityId} {kept : Bool} (h : start.keeps? lost id = some kept) :
    ∃ final moments, (start.attend (losing lost ++ [Operation.update])).result = .ok (final, moments) ∧
      (final.Possesses id ↔ kept = true) := by
  obtain ⟨⟨final, moments⟩, hrun, hkeeps⟩ := Option.bind_eq_some_iff.1 h
  obtain ⟨held, hheld, rfl⟩ := Option.map_eq_some_iff.1 hkeeps
  refine ⟨final, moments, ?_, possesses_iff hheld⟩
  cases hresult : (start.attend (losing lost ++ [Operation.update])).result with
  | error fault => simp [hresult, Except.toOption] at hrun
  | ok value => simpa [hresult, Except.toOption] using hrun

/-- Whichever of the two abilities is lost, the client hears the same. -/
theorem skilledBirth_losing : ∃ start rest, skilledBirth.result = .ok (.ok start, rest) ∧
    Effect.sentTo ⟨0⟩ (start.attend (losing ⟨1⟩ ++ [Operation.update])).effects =
      Effect.sentTo ⟨0⟩ (start.attend (losing ⟨2⟩ ++ [Operation.update])).effects ∧
    start.keeps? ⟨1⟩ ⟨1⟩ = some false ∧ start.keeps? ⟨2⟩ ⟨1⟩ = some true := by
  have hall : (born? skilledBirth).map (fun start => decide
      (Effect.sentTo ⟨0⟩ (start.attend (losing ⟨1⟩ ++ [Operation.update])).effects =
          Effect.sentTo ⟨0⟩ (start.attend (losing ⟨2⟩ ++ [Operation.update])).effects ∧
        start.keeps? ⟨1⟩ ⟨1⟩ = some false ∧ start.keeps? ⟨2⟩ ⟨1⟩ = some true)) = some true := by
    decide +kernel
  obtain ⟨start, hstart, hall⟩ := Option.map_eq_some_iff.1 hall
  obtain ⟨rest, hborn⟩ := exists_of_born hstart
  exact ⟨start, rest, hborn, of_decide_eq_true hall⟩

theorem losing_skilled {lost : AbilityId} :
    ∀ operation ∈ losing lost, operation.Skilled ∨ operation = .update := by
  simp [losing, Operation.Skilled]

/-- The messages alone do not determine what is possessed: both runs are of the operations in
question, end with an update, and send the same. -/
theorem possession_differs_of_losing : ∃ start rest one oneMoments two twoMoments,
    skilledBirth.result = .ok (.ok start, rest) ∧ start.Lives ∧
    (∀ operation ∈ losing ⟨1⟩ ++ losing ⟨2⟩, operation.Skilled ∨ operation = .update) ∧
    (start.attend (losing ⟨1⟩ ++ [Operation.update])).result = .ok (one, oneMoments) ∧
    (start.attend (losing ⟨2⟩ ++ [Operation.update])).result = .ok (two, twoMoments) ∧
    one.Lives ∧ two.Lives ∧
    Effect.sentTo ⟨0⟩ (start.attend (losing ⟨1⟩ ++ [Operation.update])).effects =
      Effect.sentTo ⟨0⟩ (start.attend (losing ⟨2⟩ ++ [Operation.update])).effects ∧
    ¬ (∀ id, one.Possesses id ↔ two.Possesses id) := by
  obtain ⟨start, rest, hborn, hsame, hone, htwo⟩ := skilledBirth_losing
  obtain ⟨one, oneMoments, honeRun, honeLost⟩ := exists_of_keeps hone
  obtain ⟨two, twoMoments, htwoRun, htwoKept⟩ := exists_of_keeps htwo
  have haccounts := accountable_newborn Load.proper_standard hborn
  obtain ⟨other, otherMoments, hother, honeLives, -⟩ := haccounts.possesses_iff losing_skilled
  cases honeRun.symm.trans hother
  obtain ⟨other, otherMoments, hother, htwoLives, -⟩ := haccounts.possesses_iff losing_skilled
  cases htwoRun.symm.trans hother
  refine ⟨start, rest, one, oneMoments, two, twoMoments, hborn, haccounts.lives, ?_, honeRun, htwoRun,
    honeLives, htwoLives, hsame, fun hboth => ?_⟩
  · intro operation hmem
    exact (List.mem_append.1 hmem).elim (losing_skilled operation) (losing_skilled operation)
  · exact absurd (honeLost.1 ((hboth ⟨1⟩).2 (htwoKept.2 rfl))) Bool.false_ne_true

/-- In the two runs that send the same, different abilities were lost. -/
theorem losses_differ_of_losing : ∃ start rest one oneMoments two twoMoments,
    skilledBirth.result = .ok (.ok start, rest) ∧
    (start.attend (losing ⟨1⟩ ++ [Operation.update])).result = .ok (one, oneMoments) ∧
    (start.attend (losing ⟨2⟩ ++ [Operation.update])).result = .ok (two, twoMoments) ∧
    ¬ ∀ message ∈ Effect.sentTo ⟨0⟩ (start.attend (losing ⟨1⟩ ++ [Operation.update])).effects,
      ∀ id ∈ message.listed,
        (LostSinceListed ⟨0⟩ oneMoments id ↔ LostSinceListed ⟨0⟩ twoMoments id) := by
  obtain ⟨start, rest, hborn, hsame, hone, htwo⟩ := skilledBirth_losing
  obtain ⟨one, oneMoments, two, twoMoments, honeRun, htwoRun, -, -, -, -, hboth⟩ :=
    same_possession_iff Load.proper_standard hborn losing_skilled losing_skilled hsame
  refine ⟨start, rest, one, oneMoments, two, twoMoments, hborn, honeRun, htwoRun, fun hlost => ?_⟩
  obtain ⟨final, moments, hrun, hkept⟩ := exists_of_keeps hone
  cases honeRun.symm.trans hrun
  obtain ⟨final, moments, hrun, hkeeps⟩ := exists_of_keeps htwo
  cases htwoRun.symm.trans hrun
  exact absurd (hkept.1 ((hboth.2 hlost ⟨1⟩).2 (hkeeps.2 rfl))) Bool.false_ne_true

end Character

end CharacterSim
