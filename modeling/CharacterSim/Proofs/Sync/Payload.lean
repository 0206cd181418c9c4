import CharacterSim.Proofs.Numeric.Truncation
import CharacterSim.Proofs.Sync.Delivery

/-! What the messages of a flush say to one who decodes them. Ids of all 8 or 16 bits are read back, each
once and in ascending order, and next to each what the source holds, where that is too large the
largest number that can be written. -/

namespace CharacterSim

namespace Message

/-- Entries of one width are read where they were written. -/
theorem length_flatMap_of_width {α : Type} {encode : α → List UInt8} {width : Nat}
    (h : ∀ entry, (encode entry).length = width) (entries : List α) :
    (entries.flatMap encode).length = width * entries.length := by
  induction entries with
  | nil => rfl
  | cons entry rest ih =>
    rw [List.flatMap_cons, List.length_append, ih, h, List.length_cons, Nat.mul_succ, Nat.add_comm]

/-- The keys that have an entry stand in the order of all. -/
theorem pairwise_filterMap {κ α : Type} {keys : List κ} {before : κ → κ → Prop}
    (h : keys.Pairwise before) (value? : κ → Option α) :
    (keys.filterMap fun key => (value? key).map (key, ·)).Pairwise
      fun lower upper => before lower.1 upper.1 := by
  rw [List.pairwise_filterMap]
  refine h.imp ?_
  intro lower upper hbefore entry hentry other hother
  obtain ⟨_, -, rfl⟩ := Option.map_eq_some_iff.1 hentry
  obtain ⟨_, -, rfl⟩ := Option.map_eq_some_iff.1 hother
  exact hbefore

end Message

namespace DirtySets

open Message

variable {dirty : DirtySets} {source : SyncSource} {payload : List UInt8}

theorem toInt_saturateInt16 (count : Nat) : (saturateInt16 count).toInt = (min count 32767 : Nat) := by
  unfold saturateInt16
  split
  · rw [Int16.toInt_ofNat_of_lt (by omega)]
    omega
  · have hmost : Int16.toInt 32767 = 32767 := rfl
    omega

theorem toInt_saturateInt32 (count : Nat) :
    (saturateInt32 count).toInt = (min count 2147483647 : Nat) := by
  unfold saturateInt32
  split
  · rw [Int32.toInt_ofNat_of_lt (by omega)]
    omega
  · have hmost : Int32.toInt 2147483647 = 2147483647 := rfl
    omega

/-! ### What each payload says -/

/-- A payload lists the marked abilities that are possessed, each in five bytes with the whole
milliseconds of recharge left. -/
structure StatesAbilities (dirty : DirtySets) (source : SyncSource) (payload : List UInt8) :
    Prop where
  length_eq : payload.length = 5 * (abilityEntries payload).length
  ascending : (abilityEntries payload).Pairwise fun lower upper => lower.1.val < upper.1.val
  mem_iff : ∀ id count, (id, count) ∈ abilityEntries payload ↔ id ∈ dirty.abilities ∧
    ∃ remaining, source.remaining? id = some remaining ∧
      count.toInt = (min remaining.wholeMillis 2147483647 : Nat)

/-- A payload is the whole milliseconds of the global cooldown, in two bytes. -/
def StatesCooldown (source : SyncSource) (payload : List UInt8) : Prop :=
  payload.length = 2 ∧
    (decodeInt16 payload).toInt = (min source.globalCooldown.wholeMillis 32767 : Nat)

/-- A payload is the points of both kinds, in two bytes each. -/
def StatesPoints (source : SyncSource) (payload : List UInt8) : Prop :=
  payload.length = 4 ∧
    (decodeInt16 (payload.take 2)).toInt = (min source.attributePoints.toNat 32767 : Nat) ∧
    (decodeInt16 (payload.drop 2)).toInt = (min source.correctionPoints.toNat 32767 : Nat)

/-- A payload lists the marked attributes that exist, each in ten bytes with the 256ths of its base and
of its modified value. -/
structure StatesAttributes (dirty : DirtySets) (source : SyncSource) (payload : List UInt8) :
    Prop where
  length_eq : payload.length = 10 * (attributeEntries payload).length
  ascending : (attributeEntries payload).Pairwise fun lower upper => lower.1.val < upper.1.val
  mem_iff : ∀ id first second, (id, first, second) ∈ attributeEntries payload ↔
    id ∈ dirty.attributes ∧ ∃ base modified, source.values? id = some (base, modified) ∧
      first.toInt = Amount.count256 base ∧ second.toInt = Amount.count256 modified

theorem states_abilityMessage (dirty : DirtySets) (source : SyncSource) :
    dirty.StatesAbilities source (abilityMessage source dirty.abilities.toList).payload := by
  have hentries : abilityEntries (abilityMessage source dirty.abilities.toList).payload =
      source.recharges dirty.abilities.toList := by
    rw [abilityMessage_eq, abilityEntries_flatMap]
  refine ⟨?_, ?_, fun id count => ?_⟩
  · have hwidth : ∀ entry, (encodeAbility entry).length = 5 := fun _ => rfl
    rw [hentries, abilityMessage_eq]
    exact length_flatMap_of_width hwidth _
  · rw [hentries]
    exact (pairwise_filterMap dirty.abilities.toMap.keys_ascending source.recharge?).imp
      UInt8.lt_iff_toNat_lt.2
  · rw [hentries, SyncSource.mem_recharges_iff, SortedSet.mem_toList_iff,
      SyncSource.recharge?, Option.map_eq_some_iff]
    refine and_congr_right' (exists_congr fun remaining => and_congr_right' ?_)
    rw [← toInt_saturateInt32, Int32.toInt_inj, eq_comm]

theorem states_attributeMessage (dirty : DirtySets) (source : SyncSource) :
    dirty.StatesAttributes source (attributeMessage source dirty.attributes.toList).payload := by
  have hentries : attributeEntries (attributeMessage source dirty.attributes.toList).payload =
      source.entries dirty.attributes.toList := by
    rw [attributeMessage_eq, attributeEntries_flatMap]
  refine ⟨?_, ?_, fun id first second => ?_⟩
  · have hwidth : ∀ entry, (encodeEntry entry).length = 10 := fun _ => rfl
    rw [hentries, attributeMessage_eq]
    exact length_flatMap_of_width hwidth _
  · rw [hentries]
    exact (pairwise_filterMap dirty.attributes.toMap.keys_ascending source.wire?).imp
      UInt16.lt_iff_toNat_lt.2
  · rw [hentries, SyncSource.mem_entries_iff, SortedSet.mem_toList_iff,
      SyncSource.wire?, Option.map_eq_some_iff, Prod.exists]
    refine and_congr_right' (exists₂_congr fun base modified => and_congr_right' ?_)
    rw [← Amount.toInt_toFixedPoint, ← Amount.toInt_toFixedPoint, Int32.toInt_inj, Int32.toInt_inj,
      Prod.mk.injEq, eq_comm, @eq_comm _ second]

theorem states_cooldownMessage (source : SyncSource) :
    StatesCooldown source (cooldownMessage source).payload := by
  have hpayload : (cooldownMessage source).payload =
      encodeInt16 (saturateInt16 source.globalCooldown.wholeMillis) := rfl
  rw [StatesCooldown, hpayload, decodeInt16_encodeInt16]
  exact ⟨rfl, toInt_saturateInt16 _⟩

theorem states_pointsMessage (source : SyncSource) :
    StatesPoints source (pointsMessage source).payload := by
  have hfirst : (pointsMessage source).payload.take 2 =
      encodeInt16 (saturateInt16 source.attributePoints.toNat) := rfl
  have hsecond : (pointsMessage source).payload.drop 2 =
      encodeInt16 (saturateInt16 source.correctionPoints.toNat) := rfl
  rw [StatesPoints, hfirst, hsecond, decodeInt16_encodeInt16, decodeInt16_encodeInt16]
  exact ⟨rfl, toInt_saturateInt16 _, toInt_saturateInt16 _⟩

/-! ### Flushes -/

/-- What the payload of a message on a channel says. -/
def States (dirty : DirtySets) (source : SyncSource) (payload : List UInt8) : SyncChannel → Prop
  | .abilities => dirty.StatesAbilities source payload
  | .abilityCooldown => StatesCooldown source payload
  | .pointsStatus => StatesPoints source payload
  | .attributes => dirty.StatesAttributes source payload

theorem states_message (dirty : DirtySets) (source : SyncSource) (channel : SyncChannel) :
    dirty.States source (dirty.message source channel).payload channel := by
  cases channel with
  | abilities => exact states_abilityMessage dirty source
  | abilityCooldown => exact states_cooldownMessage source
  | pointsStatus => exact states_pointsMessage source
  | attributes => exact states_attributeMessage dirty source

/-- A message says what the source holds of the listed abilities, of the cooldown or of points. -/
def StatesStatus (source : SyncSource) (ids : SortedSet AbilityId) (message : Message) : Prop :=
  ∃ channel : SyncChannel, channel ≠ .attributes ∧ message.id = channel.messageId ∧
    ({ abilities := ids } : DirtySets).States source message.payload channel

theorem statesStatus_abilityMessage (source : SyncSource) (ids : SortedSet AbilityId) :
    StatesStatus source ids (abilityMessage source ids.toList) :=
  ⟨.abilities, nofun, congrArg Message.id (abilityMessage_eq source _),
    states_abilityMessage { abilities := ids } source⟩

theorem statesStatus_cooldownMessage (source : SyncSource) (ids : SortedSet AbilityId) :
    StatesStatus source ids (cooldownMessage source) :=
  ⟨.abilityCooldown, nofun, rfl, states_cooldownMessage source⟩

theorem statesStatus_pointsMessage (source : SyncSource) (ids : SortedSet AbilityId) :
    StatesStatus source ids (pointsMessage source) :=
  ⟨.pointsStatus, nofun, rfl, states_pointsMessage source⟩

/-- No two channels have one kind of message. -/
theorem messageId_inj {first second : SyncChannel} (h : first.messageId = second.messageId) :
    first = second := by
  cases first <;> cases second <;> first | rfl | cases h

theorem mem_flush_iff {channels : SyncChannels} {message : Message} :
    message ∈ (dirty.flush source channels).1 ↔ ∃ channel : SyncChannel,
      channels.contains channel.alone = true ∧ dirty.tells source channel = true ∧
        dirty.message source channel = message := by
  have hlisted : ∀ channel, channel ∈ SyncChannel.inOrder := by
    intro channel
    cases channel <;> decide
  rw [flush, messages_eq, List.mem_map]
  simp only [List.mem_filter, hlisted, true_and, Bool.and_eq_true, and_assoc]

theorem nodup_ids_flush (dirty : DirtySets) (source : SyncSource) (channels : SyncChannels) :
    ((dirty.flush source channels).1.map Message.id).Nodup := by
  have hids : Message.id ∘ dirty.message source = SyncChannel.messageId := by
    funext channel
    exact id_message dirty source channel
  have hall : (SyncChannel.inOrder.map SyncChannel.messageId).Nodup := by decide
  rw [flush, messages_eq, List.map_map, hids]
  exact hall.sublist (List.filter_sublist.map _)

/-- Decoded, the payloads of a flush are the current values of what was marked and is there, and
nothing else. There is at most one message of each kind, and there is one where its channel is selected
and a change is marked of which there is something to tell. -/
theorem flush_states_current_values (dirty : DirtySets) (source : SyncSource)
    (channels : SyncChannels) :
    (∀ message ∈ (dirty.flush source channels).1,
      (message.id = .abilityStatus → dirty.StatesAbilities source message.payload) ∧
      (message.id = .playerAttributeChange → dirty.StatesAttributes source message.payload) ∧
      (message.id = .abilityCooldown → StatesCooldown source message.payload) ∧
      (message.id = .attributePointsStatus → StatesPoints source message.payload)) ∧
    ((dirty.flush source channels).1.map Message.id).Nodup ∧
    ∀ channel : SyncChannel,
      (∃ message ∈ (dirty.flush source channels).1, message.id = channel.messageId) ↔
        channels.contains channel.alone = true ∧ ∃ change : SyncMark,
          change.channel = channel ∧ change.Tellable source ∧ dirty.Holds change := by
  refine ⟨fun message hmem => ?_, nodup_ids_flush dirty source channels, fun channel => ?_⟩
  · obtain ⟨channel, -, -, rfl⟩ := mem_flush_iff.1 hmem
    have hstates : ∀ other : SyncChannel, (dirty.message source channel).id = other.messageId →
        dirty.States source (dirty.message source channel).payload other := by
      intro other hid
      rw [id_message] at hid
      rw [← messageId_inj hid]
      exact states_message dirty source channel
    exact ⟨hstates .abilities, hstates .attributes, hstates .abilityCooldown,
      hstates .pointsStatus⟩
  · rw [← tells_iff]
    constructor
    · rintro ⟨message, hmem, hid⟩
      obtain ⟨other, hselected, htells, rfl⟩ := mem_flush_iff.1 hmem
      rw [id_message] at hid
      rw [← messageId_inj hid]
      exact ⟨hselected, htells⟩
    · rintro ⟨hselected, htells⟩
      exact ⟨_, mem_flush_iff.2 ⟨channel, hselected, htells, rfl⟩, id_message ..⟩

/-- An attribute whose number has all 16 bits in use, infinite and just below zero. -/
example : ((empty.markAttribute ⟨40000⟩).flush
    (SyncSource.empty.setValues ⟨40000⟩ (some (1.0 / 0.0, -0.0001))) .attributes).1.map
      (fun message => attributeEntries message.payload) = [[(⟨40000⟩, 2147483647, 0)]] := by
  decide +kernel

end DirtySets

end CharacterSim
