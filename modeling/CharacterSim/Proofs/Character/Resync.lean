import CharacterSim.Proofs.Character.ClientView
import CharacterSim.Proofs.Character.LoginCodec
import CharacterSim.Proofs.Character.Moments
import CharacterSim.Proofs.Numeric.FixedPoint

/-! The first status of a character after its login. The client is told of every attribute in one
message, and the bases are the counts that the login message gave, whatever becomes of them on the
way through amounts. -/

namespace CharacterSim

open Message (AttributeEntry)

theorem AttributeStore.mem_ids_iff_base? {store : AttributeStore} {id : AttributeId} :
    id ∈ store.ids ↔ (store.base? id).isSome = true := by
  rw [mem_ids_iff, base?, Option.isSome_map, Option.isSome_iff_exists]

/-- Two listings of the same keys in ascending order are the same. -/
theorem SortedSet.toList_eq_keys {κ α : Type} [Ranked κ] {set : SortedSet κ} {map : SortedMap κ α}
    (h : ∀ key, key ∈ set ↔ key ∈ map.keys) : set.toList = map.keys :=
  SortedMap.keys_eq_of_mem_iff fun key => mem_toList_iff.trans (h key)

namespace SyncSource

variable {source : SyncSource} {ids : List AttributeId}

/-- There is one entry for each attribute, in their order, if all of them exist. -/
theorem map_fst_entries (h : ∀ id ∈ ids, (source.wire? id).isSome = true) :
    (source.entries ids).map Prod.fst = ids := by
  induction ids with
  | nil => rfl
  | cons first rest ih =>
    obtain ⟨hfirst, hrest⟩ := List.forall_mem_cons.1 h
    obtain ⟨values, hvalues⟩ := Option.isSome_iff_exists.1 hfirst
    have hcons : source.entries (first :: rest) = (first, values) :: source.entries rest := by
      rw [entries, List.filterMap_cons, hvalues]
      rfl
    rw [hcons, List.map_cons, ih hrest]

end SyncSource

namespace Character

variable {id : EntityId} {context : CharacterContext} {client : Option ClientId}
  {databaseId : Int32} {data : CharacterData} {character : Character} {being : Being}
  {abilities : Abilities} {message rest : Cursor}

/-- A status on attributes none of which changed is a flush of what is marked. -/
theorem sendStatus_of_unchanged (hbeing : character.entity.being? = some being)
    (habilities : character.entity.abilities? = some abilities)
    (hunchanged : being.changed = .empty) :
    let marked := (character.absorbed being abilities).dirty.attributes.toList
    let entries := character.syncSource.entries marked
    character.sendStatus =
      ⟨if entries = [] then []
        else [delivery character.client
          ⟨.playerAttributeChange, entries.flatMap Message.encodeEntry⟩],
        .ok (character.drained being abilities .attributes)⟩ := by
  have hupdates : updates character.databaseId being being.changed.toList = [] := by
    rw [hunchanged]
    rfl
  have hperform := perform_of_drains .sendStatus hbeing habilities
  rw [Operation.flushes, drainEffects, hupdates, List.nil_append,
    DirtySets.messages_attributes, syncSource_absorbed hbeing habilities] at hperform
  refine hperform.trans ?_
  split <;> rfl

/-- A newborn character has marked what it carries, and nothing else. -/
theorem mem_ids_newborn {other : AttributeId} (hbeing :
    (newborn id context client databaseId data).entity.being? = some being) :
    other ∈ being.attributes.ids ↔
      other ∈ (newborn id context client databaseId data).dirty.attributes := by
  rw [being?_newborn] at hbeing
  cases hbeing
  rw [mem_dirty_newborn, AttributeStore.mem_ids_iff_base?, AttributeStore.mem_ids_iff_base?,
    Being.attributes_clearChanged, attributes_foldl_recalculate, Being.attributes_clearChanged,
    AttributeStore.base?_recalculateEach]

/-- The first status of a newborn character states every attribute that it carries. -/
theorem sendStatus_newborn (hmade : character = newborn id context client databaseId data)
    (hbeing : character.entity.being? = some being) :
    ∃ entries after, character.sendStatus =
        ⟨if entries = [] then []
          else [delivery client ⟨.playerAttributeChange, entries.flatMap Message.encodeEntry⟩],
          .ok after⟩ ∧
      entries.map Prod.fst = being.attributes.ids ∧
      ∀ other record, being.attributes.get? other = some record →
        (other, record.wire) ∈ entries := by
  subst hmade
  have hunchanged : being.changed = .empty := by
    rw [being?_newborn] at hbeing
    cases hbeing
    rfl
  have hmarked : ∀ other, other ∈ ((newborn id context client databaseId data).absorbed
      being data.abilities.clearSignals).dirty.attributes ↔ other ∈ being.attributes.ids := by
    intro other
    rw [mem_dirty_absorbed, hunchanged, mem_ids_newborn hbeing]
    simp
  have hlisted := SortedSet.toList_eq_keys hmarked
  have hwire := wire?_syncSource hbeing
  have hstatus := sendStatus_of_unchanged hbeing rfl hunchanged
  dsimp only at hstatus
  rw [hlisted] at hstatus
  refine ⟨_, _, hstatus, SyncSource.map_fst_entries fun other hmem => ?_,
    fun other record hrecord => SyncSource.mem_entries_iff.2 ⟨?_, ?_⟩⟩
  · obtain ⟨record, hrecord⟩ := AttributeStore.mem_ids_iff.1 hmem
    rw [hwire, hrecord]
    rfl
  · exact AttributeStore.mem_ids_iff.2 ⟨record, hrecord⟩
  · rw [hwire, hrecord, Option.map_some]

/-- A base that a login gives is the base of an attribute that characters carry. -/
theorem exists_scoped_of_latest {login : LoginMessage} (hlogin : login.Admissible context)
    {other : AttributeId} {count : Int32} (h : latest login.bases other = some count) :
    ∃ info, context.registry.scoped? .character other = some info := by
  cases hscoped : context.registry.scoped? .character other with
  | some info => exact ⟨info, rfl⟩
  | none =>
    have hunlisted : latest login.bases other = none := by
      refine latest_eq_none_iff.2 fun pair hmem heq => ?_
      obtain ⟨entry, hentry, rfl⟩ := List.mem_map.1 hmem
      obtain ⟨-, hknown⟩ := hlogin.attributes.2 entry hentry
      rw [← heq] at hscoped
      rw [hscoped] at hknown
      cases hknown
    cases hunlisted.symm.trans h

/-- Whatever spells the message that a login took is what its character is like. -/
theorem describes_of_logIn {login : LoginMessage} (h : context.registry.Accepted)
    (haccepted : logIn id context client message = .ok (.ok character, rest))
    (hlogin : login.Admissible context) (hspells : message.Spells login.bytes rest) :
    login.Describes context character := by
  cases haccepted.symm.trans (logIn_of_spells id client h hlogin hspells)
  exact describes_ofLogin h.coherent hlogin

/-- The first status after a login states the attributes that the character carries, each once and
in ascending order. The last count that the login message gave for one is its base in 256ths, and is
also the count that the status states. -/
theorem first_status_states_login (id : EntityId) (context : CharacterContext)
    (client : Option ClientId) (message rest : Cursor) (character : Character)
    (h : context.registry.Accepted)
    (haccepted : logIn id context client message = .ok (.ok character, rest)) :
    ∃ being after entries, character.entity.being? = some being ∧
      character.sendStatus =
        ⟨if entries = [] then []
          else [delivery client ⟨.playerAttributeChange, entries.flatMap Message.encodeEntry⟩],
          .ok after⟩ ∧
      entries.map Prod.fst = being.attributes.ids ∧
      being.attributes.ids.Pairwise (fun lower upper => lower.val < upper.val) ∧
      (∀ other, other ∈ being.attributes.ids ↔
        (context.registry.scoped? .character other).isSome = true) ∧
      (∃ login : LoginMessage, login.Admissible context ∧ message.Spells login.bytes rest) ∧
      ∀ login : LoginMessage, login.Admissible context → message.Spells login.bytes rest →
        ∀ other count, latest login.bases other = some count →
          ∃ record, being.attributes.get? other = some record ∧
            Amount.value? record.base = some (count.toInt / 256 : ℚ) ∧
            (other, count, Amount.toFixedPoint record.modified) ∈ entries := by
  obtain ⟨login, hlogin, hspells, hmade⟩ := (ofMessage_ok_iff h.coherent).1 haccepted
  obtain ⟨being, hbeing, -, -, -, -, hbase⟩ :=
    (describes_of_logIn h haccepted hlogin hspells).being
  obtain ⟨entries, after, hstatus, hkeys, hentries⟩ := sendStatus_newborn hmade hbeing
  refine ⟨being, after, entries, hbeing, hstatus, hkeys, ?_, fun other => ?_,
    ⟨login, hlogin, hspells⟩, fun said hsaid hspells' other count hcount => ?_⟩
  · exact being.attributes.records.keys_ascending.imp fun hlt => UInt16.lt_iff_toNat_lt.2 hlt
  · have hcarried := congrArg Option.isSome (hbase other)
    rw [Option.isSome_map] at hcarried
    rw [AttributeStore.mem_ids_iff_base?, ← hcarried]
    rfl
  · obtain ⟨_, hbeing', -, -, -, -, hbase'⟩ :=
      (describes_of_logIn h haccepted hsaid hspells').being
    cases hbeing.symm.trans hbeing'
    obtain ⟨info, hinfo⟩ := exists_scoped_of_latest hsaid hcount
    have hgiven := hbase' other
    rw [hinfo, hcount] at hgiven
    obtain ⟨record, hrecord, hamount⟩ := Option.map_eq_some_iff.1 hgiven
    have hentry := hentries other record hrecord
    dsimp only [Option.map_some, Option.getD_some] at hamount
    rw [AttributeRecord.wire, hamount, Amount.toFixedPoint_ofFixedPoint] at hentry
    exact ⟨record, hrecord, hamount ▸ Amount.value?_ofFixedPoint count, hentry⟩

/-- The status after the revised message states the second base that it gives strength. -/
theorem first_status_of_revisedMessage :
    ∃ character after modified, ∃ entries : List AttributeEntry,
      logIn ⟨1⟩ { registry := .sample } (some ⟨0⟩) (.ofBytes revisedMessage.bytes) =
          .ok (.ok character, ⟨40, []⟩) ∧
        character.sendStatus =
          ⟨[.sent ⟨0⟩ ⟨.playerAttributeChange, entries.flatMap Message.encodeEntry⟩], .ok after⟩ ∧
        (⟨1⟩, -257, modified) ∈ entries := by
  have hspells : (Cursor.ofBytes revisedMessage.bytes).Spells revisedMessage.bytes ⟨40, []⟩ :=
    ⟨(List.append_nil _).symm, by decide⟩
  have haccepted := logIn_of_spells ⟨1⟩ (some ⟨0⟩) AttributeRegistry.sample_accepted
    admissible_revisedMessage hspells
  obtain ⟨being, after, entries, -, hstatus, -, -, -, -, hbases⟩ :=
    first_status_states_login ⟨1⟩ { registry := .sample } (some ⟨0⟩) _ _ _
      AttributeRegistry.sample_accepted haccepted
  obtain ⟨record, -, -, hentry⟩ :=
    hbases revisedMessage admissible_revisedMessage hspells ⟨1⟩ (-257) (by decide)
  have hsome : entries ≠ [] := List.ne_nil_of_mem hentry
  rw [if_neg hsome] at hstatus
  exact ⟨_, after, _, entries, haccepted, hstatus, hentry⟩

end Character

end CharacterSim
