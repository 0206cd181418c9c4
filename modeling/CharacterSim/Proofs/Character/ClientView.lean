import CharacterSim.Proofs.Character.Construction
import CharacterSim.Proofs.Message.Entries

/-! What a client knows of the attributes of its character. It replays the messages on changed
attributes, a later entry replacing an earlier one. An attribute that it does not know the values of is
among the changes of the being or marked for the next flush. -/

namespace CharacterSim

open Message (AttributeEntry attributeEntries)

/-- The entries that a message states. -/
def Message.told (message : Message) : List AttributeEntry :=
  if message.id = .playerAttributeChange then attributeEntries message.payload else []

namespace Effect

/-- The entries that a client is told by an effect. -/
def told (client : ClientId) : Effect → List AttributeEntry
  | sent receiver message => if receiver = client then message.told else []
  | _ => []

/-- The entries that a client is told, in order. -/
def toldAll (client : ClientId) (effects : List Effect) : List AttributeEntry :=
  effects.flatMap (told client)

/-- What a client that replays its messages knows of an attribute. -/
def replay (client : ClientId) (effects : List Effect) : AttributeId → Option (Int32 × Int32) :=
  latest (toldAll client effects)

variable {client : ClientId} {effects : List Effect}

theorem toldAll_append (more : List Effect) :
    toldAll client (effects ++ more) = toldAll client effects ++ toldAll client more :=
  List.flatMap_append

theorem toldAll_of_quiet (h : ∀ effect ∈ effects, effect.Quiet) : toldAll client effects = [] := by
  refine List.flatMap_eq_nil_iff.2 fun effect hmem => ?_
  have hquiet := h effect hmem
  cases effect with
  | sent receiver message =>
    rw [told, Message.told, if_neg hquiet]
    split <;> rfl
  | _ => rfl

theorem toldAll_map_delivery (messages : List Message) :
    toldAll client (messages.map (Character.delivery (some client))) =
      messages.flatMap Message.told := by
  rw [toldAll, List.flatMap_map]
  congr 1
  funext message
  rw [Character.delivery, told, if_pos rfl]

theorem toldAll_updates (databaseId : Int32) (being : Being) (ids : List AttributeId) :
    toldAll client (Character.updates databaseId being ids) = [] := by
  refine List.flatMap_eq_nil_iff.2 fun effect hmem => ?_
  obtain ⟨id, -, heffect⟩ := List.mem_filterMap.1 hmem
  obtain ⟨record, -, rfl⟩ := Option.map_eq_some_iff.1 heffect
  rfl

end Effect

namespace DirtySets

theorem id_abilityMessage (source : SyncSource) (ids : List AbilityId) :
    (abilityMessage source ids).id = .abilityStatus := by
  unfold abilityMessage
  refine List.foldlRecOn (motive := fun message : Message => message.id = .abilityStatus) ids _ rfl
    fun message hmessage id _ => ?_
  split
  · exact hmessage
  · exact hmessage

/-- A flush states the values of the marked attributes, if it includes their channel. -/
theorem flatMap_told_messages (dirty : DirtySets) (source : SyncSource) (channels : SyncChannels) :
    (dirty.messages source channels).flatMap Message.told =
      if channels.contains .attributes then source.entries dirty.attributes.toList else [] := by
  have habilities : (abilityMessage source dirty.abilities.toList).told = [] := by
    rw [Message.told, id_abilityMessage, if_neg (by decide)]
  have hattributes : ([attributeMessage source dirty.attributes.toList].filter
      (!·.isEmpty)).flatMap Message.told = source.entries dirty.attributes.toList := by
    have hread := Message.attributeEntries_flatMap (source.entries dirty.attributes.toList)
    rw [attributeMessage_eq]
    generalize (source.entries dirty.attributes.toList).flatMap Message.encodeEntry = payload
      at hread ⊢
    rw [← hread]
    cases payload with
    | nil => rfl
    | cons byte rest => simp [Message.isEmpty, Message.told]
  have hcooldown : (cooldownMessage source).told = [] := rfl
  have hpoints : (pointsMessage source).told = [] := rfl
  simp only [messages, List.flatMap_append, apply_ite (List.flatMap Message.told), hattributes]
  simp [habilities, hcooldown, hpoints]

end DirtySets

namespace Character

variable {character before after : Character} {being : Being} {abilities : Abilities}
  {channels : SyncChannels} {client : ClientId} {told : List AttributeEntry}
  {operation : Operation}

theorem wire?_syncSource (h : character.entity.being? = some being) (id : AttributeId) :
    character.syncSource.wire? id = (being.attributes.get? id).map AttributeRecord.wire := by
  have hvalues : character.syncSource.values? id =
      (being.attributes.get? id).map fun record => (record.base, record.modified) := by
    change (character.entity.being?.bind fun being => (being.attributes.get? id).bind fun record =>
      some (record.base, record.modified)) = _
    rw [h, Option.bind_some]
    cases being.attributes.get? id <;> rfl
  rw [SyncSource.wire?, hvalues, Option.map_map]
  rfl

theorem latest_entries (h : character.entity.being? = some being) (ids : List AttributeId)
    (id : AttributeId) : latest (character.syncSource.entries ids) id =
      if id ∈ ids then (being.attributes.get? id).map AttributeRecord.wire else none := by
  rw [SyncSource.entries, latest_filterMap, wire?_syncSource h]

theorem toldAll_drainEffects (h : character.client = some client) :
    Effect.toldAll client (character.drainEffects being abilities channels) =
      if channels.contains .attributes then
        (character.absorbed being abilities).syncSource.entries
          (character.absorbed being abilities).dirty.attributes.toList
      else [] := by
  rw [drainEffects, Effect.toldAll_append, Effect.toldAll_updates, List.nil_append, h,
    Effect.toldAll_map_delivery, DirtySets.flatMap_told_messages]

/-- Of every attribute the client knows the values, unless they are still to be sent. -/
def Covered (character : Character) (told : List AttributeEntry) : Prop :=
  ∀ being, character.entity.being? = some being →
    ∀ id record, being.attributes.get? id = some record →
      id ∈ being.changed ∨ id ∈ character.dirty.attributes ∨ latest told id = some record.wire

theorem Covered.edited (h : before.Covered told) (hintact : before.Intact)
    (hedited : before.Edited after) : after.Covered told := by
  intro next hnext id record hrecord
  obtain ⟨being, hbeing⟩ := hintact.complete.being
  obtain ⟨other, hother, hedits⟩ := hedited.edits.being hbeing
  obtain rfl := Option.some.inj (hother.symm.trans hnext)
  by_cases hmem : id ∈ other.changed
  · exact .inl hmem
  · have hwire := hedits.wire_eq hmem
    rw [hrecord, Option.map_some] at hwire
    obtain ⟨held, hheld, hsame⟩ := Option.map_eq_some_iff.1 hwire.symm
    rcases h being hbeing id held hheld with hchanged | hdirty | hknown
    · exact absurd (hedits.mem_changed hchanged) hmem
    · exact .inr (.inl (hedited.dirty ▸ hdirty))
    · exact .inr (.inr (hsame ▸ hknown))

theorem Covered.drained (h : before.Covered told) (hclient : before.client = some client)
    (hbeing : before.entity.being? = some being) :
    (before.drained being abilities channels).Covered
      (told ++ Effect.toldAll client (before.drainEffects being abilities channels)) := by
  rintro _ ⟨⟩ id record hrecord
  have hheld := h being hbeing id record hrecord
  rw [toldAll_drainEffects hclient, mem_dirty_drained, latest_append]
  cases hselected : channels.contains .attributes with
  | false =>
    rcases hheld with hchanged | hdirty | hknown
    · exact .inr (.inl ⟨rfl, .inl hchanged⟩)
    · exact .inr (.inl ⟨rfl, .inr hdirty⟩)
    · exact .inr (.inr (by simpa using hknown))
  | true =>
    -- the flush states what was changed or marked; of the rest the client knew already
    refine .inr (.inr ?_)
    have hsource : (before.absorbed being abilities).entity.being? = some being.clearChanged := rfl
    rw [if_pos rfl, latest_entries hsource, hrecord]
    split
    · rfl
    · next hquiet =>
      rw [SortedSet.mem_toList_iff, mem_dirty_absorbed] at hquiet
      rw [Option.none_or]
      rcases hheld with hchanged | hdirty | hknown
      · exact absurd (.inl hchanged) hquiet
      · exact absurd (.inr hdirty) hquiet
      · exact hknown

theorem covered_resynced : (before.resynced being).Covered told := by
  rintro _ ⟨⟩ id record hrecord
  rw [Being.attributes_clearChanged, attributes_foldl_recalculate,
    AttributeStore.get?_recalculateEach] at hrecord
  refine .inr (.inl (mem_dirty_resynced.2 (.inl (AttributeStore.mem_ids_iff.2 ?_))))
  split at hrecord
  · obtain ⟨held, hheld, -⟩ := Option.map_eq_some_iff.1 hrecord
    exact ⟨held, hheld⟩
  · exact ⟨record, hrecord⟩

theorem Covered.perform (h : before.Covered told) (hintact : before.Intact)
    (hclient : before.client = some client) (hgentle : operation.Gentle)
    (hafter : (before.perform operation).result = .ok after) : after.client = some client ∧
      after.Covered (told ++ Effect.toldAll client (before.perform operation).effects) := by
  obtain ⟨being, hbeing⟩ := hintact.complete.being
  obtain ⟨abilities, habilities⟩ := hintact.complete.abilities
  rcases hgentle.kinds with hplain | hdrains | rfl
  · have hensures := hintact.perform_ensures hplain hgentle
    have hedited := hensures.result after hafter
    rw [Effect.toldAll_of_quiet hensures.effects, List.append_nil]
    exact ⟨hedited.client.trans hclient, h.edited hintact hedited⟩
  · rw [perform_of_drains hdrains hbeing habilities] at hafter ⊢
    cases hafter
    exact ⟨hclient, h.drained hclient hbeing⟩
  · rw [Character.perform, modifiedAllAttributes_eq hbeing] at hafter
    cases hafter
    exact ⟨hclient, covered_resynced⟩

theorem covered_newborn {entity : EntityId} {context : CharacterContext}
    {receiver : Option ClientId} {databaseId : Int32} {data : CharacterData} :
    (newborn entity context receiver databaseId data).Covered told := by
  rintro _ ⟨⟩ id record hrecord
  rw [Being.attributes_clearChanged, attributes_foldl_recalculate,
    AttributeStore.get?_recalculateEach] at hrecord
  refine .inr (.inl (mem_dirty_newborn.2 (AttributeStore.mem_ids_iff.2 ?_)))
  split at hrecord
  · obtain ⟨held, hheld, -⟩ := Option.map_eq_some_iff.1 hrecord
    exact ⟨held, hheld⟩
  · exact ⟨record, hrecord⟩

/-- In a run the client misses nothing. -/
theorem Covered.performAll {birth : List Effect} {start final : Character}
    {operations : List Operation} (h : start.Covered (Effect.toldAll client birth))
    (hintact : start.Intact) (hclient : start.client = some client)
    (hgentle : ∀ operation ∈ operations, operation.Gentle)
    (hfinal : (start.performAll operations).result = .ok final) :
    final.client = some client ∧
      final.Covered (Effect.toldAll client (birth ++ (start.performAll operations).effects)) := by
  have hconcat : ∀ earlier operation before after,
      (start.performAll earlier).result = .ok before → before.Intact → operation.Gentle →
      (before.perform operation).result = .ok after →
      (before.client = some client ∧ before.Covered
        (Effect.toldAll client (birth ++ (start.performAll earlier).effects))) →
      after.client = some client ∧ after.Covered
        (Effect.toldAll client (birth ++ (start.performAll (earlier ++ [operation])).effects)) := by
    rintro earlier operation before after hearlier hbefore hoperation hafter ⟨hheld, hcovered⟩
    have hstep := hcovered.perform hbefore hheld hoperation hafter
    rwa [performAll_concat_of_ok hearlier, ← List.append_assoc, Effect.toldAll_append]
  have hstart : start.Covered
      (Effect.toldAll client (birth ++ (start.performAll []).effects)) := by
    rwa [Character.performAll, List.foldlM_nil, Step.effects_pure, List.append_nil]
  exact (hintact.performAll_induction ⟨hclient, hstart⟩ hconcat hgentle hfinal).2

/-- Once its attributes were sent nothing is left to be sent. -/
theorem Covered.latest_eq (h : before.Covered told) (hclient : before.client = some client)
    (hbeing : before.entity.being? = some being) {id : AttributeId} {record : AttributeRecord}
    (hrecord : being.attributes.get? id = some record) :
    latest (told ++ Effect.toldAll client (before.drainEffects being abilities .attributes)) id =
      some record.wire := by
  have hdrained : (before.drained being abilities .attributes).Covered _ :=
    h.drained hclient hbeing
  rcases hdrained _ rfl id record hrecord with hchanged | hdirty | hknown
  · exact absurd hchanged Being.not_mem_changed_clearChanged
  · obtain ⟨hselected, -⟩ := mem_dirty_drained.1 hdirty
    cases hselected
  · exact hknown

/-- After its status was sent the client of a character knows every attribute as it is, whatever was
done to the character before. -/
theorem replay_after_sendStatus {entity : EntityId} {context : CharacterContext}
    {format : Load Unit} {message rest : Cursor} {start : Character} {operations : List Operation}
    (hborn : (ofMessage entity context format (some client) message).result = .ok (.ok start, rest))
    (hcallbacks : context.callbacks.Gentle) (hgentle : ∀ operation ∈ operations, operation.Gentle) :
    (∃ final being, (start.performAll (operations ++ [.sendStatus])).result = .ok final ∧
      final.entity.being? = some being ∧
      ∀ id record, being.attributes.get? id = some record →
        Effect.replay client ((ofMessage entity context format (some client) message).effects ++
          (start.performAll (operations ++ [.sendStatus])).effects) id =
          some (Amount.toFixedPoint record.base, Amount.toFixedPoint record.modified)) ∨
    ∃ operation ∈ operations, ∃ fault, operation.MayFail fault ∧
      (start.performAll (operations ++ [.sendStatus])).result = .error fault := by
  obtain ⟨databaseId, name, cursor, state, -, -, hstart⟩ := ofMessage_ensures.result _ hborn _ rfl
  have hintact : start.Intact := hstart ▸ intact_newborn hcallbacks
  generalize (ofMessage entity context format (some client) message).effects = birth
  refine (hintact.performAll_drain hgentle .sendStatus).imp_left ?_
  rintro ⟨before, being, abilities, hbefore, hbeing, hrun⟩
  have hattached : start.client = some client := hstart ▸ rfl
  have hcovers : start.Covered (Effect.toldAll client birth) := hstart ▸ covered_newborn
  obtain ⟨hclient, hcovered⟩ := hcovers.performAll hintact hattached hgentle hbefore
  rw [hrun, ← List.append_assoc]
  refine ⟨_, being.clearChanged, rfl, rfl, fun id record hrecord => ?_⟩
  rw [Effect.replay, Effect.toldAll_append]
  exact hcovered.latest_eq hclient hbeing hrecord

/-- A script that changes strength when the character dies. -/
def sampleCallbacks : ScriptCallbacks :=
  .ofActions (some [.setAttribute ⟨1⟩ 9.0]) none none false

theorem sampleCallbacks_gentle : sampleCallbacks.Gentle := by
  refine ScriptCallbacks.gentle_ofActions (fun actions hactions list hlist action hmem => ?_) false
  rcases hactions with rfl | rfl | rfl
  · cases hlist
    obtain rfl := List.mem_singleton.1 hmem
    trivial
  · cases hlist
  · cases hlist

/-- The client is up to date after the character died, came back and had points to report. -/
theorem replay_of_sample : ∃ start rest final being,
    (sampleBirth sampleCallbacks).result = .ok (.ok start, rest) ∧
    (start.performAll ([.setBase ⟨1⟩ 7.0, .applyDamage 1000.0, .update, .respawn] ++
      [.sendStatus])).result = .ok final ∧ final.entity.being? = some being ∧
    ∀ id record, being.attributes.get? id = some record →
      Effect.replay ⟨0⟩ ((sampleBirth sampleCallbacks).effects ++
        (start.performAll ([.setBase ⟨1⟩ 7.0, .applyDamage 1000.0, .update, .respawn] ++
          [.sendStatus])).effects) id =
        some (Amount.toFixedPoint record.base, Amount.toFixedPoint record.modified) := by
  have hsome : (born? (sampleBirth sampleCallbacks)).isSome := by decide +kernel
  obtain ⟨start, hstart⟩ := Option.isSome_iff_exists.1 hsome
  obtain ⟨rest, hborn⟩ := exists_of_born hstart
  have hgentle : ∀ operation ∈ [Operation.setBase ⟨1⟩ 7.0, .applyDamage 1000.0, .update, .respawn],
      operation.Gentle := by simp [Operation.Gentle]
  rcases replay_after_sendStatus hborn sampleCallbacks_gentle hgentle with
    ⟨final, being, hfinal⟩ | ⟨operation, hmem, fault, hfails, -⟩
  · exact ⟨start, rest, final, being, hborn, hfinal⟩
  · simp only [List.mem_cons, List.not_mem_nil, or_false] at hmem
    rcases hmem with rfl | rfl | rfl | rfl <;> cases hfails

end Character

end CharacterSim
