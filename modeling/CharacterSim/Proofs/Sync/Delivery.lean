import CharacterSim.Proofs.Collections.Latest
import CharacterSim.Proofs.Message.Entries
import Mathlib.Data.List.Induction

/-! What becomes of a mark. It stays until the next flush that selects its channel, which tells of
it if there is something to tell; so along any run the marks that are held are those made since. -/

namespace CharacterSim

/-- One outbound channel. -/
inductive SyncChannel where
  | abilities
  | abilityCooldown
  | pointsStatus
  | attributes
  deriving DecidableEq

namespace SyncChannel

/-- The set of nothing but the channel. -/
def alone : SyncChannel → SyncChannels
  | abilities => .abilities
  | abilityCooldown => .abilityCooldown
  | pointsStatus => .pointsStatus
  | attributes => .attributes

/-- The kind of the messages on a channel. -/
def messageId : SyncChannel → MessageId
  | abilities => .abilityStatus
  | abilityCooldown => .abilityCooldown
  | pointsStatus => .attributePointsStatus
  | attributes => .playerAttributeChange

/-- The channels in the order of a flush. -/
def inOrder : List SyncChannel := [abilities, abilityCooldown, pointsStatus, attributes]

end SyncChannel

/-- What can be marked as changed. -/
inductive SyncMark where
  | ofAttribute (id : AttributeId)
  | ofAbility (id : AbilityId)
  | ofCooldown
  | ofPoints

namespace SyncMark

/-- The channel on which the change is told. -/
def channel : SyncMark → SyncChannel
  | ofAttribute _ => .attributes
  | ofAbility _ => .abilities
  | ofCooldown => .abilityCooldown
  | ofPoints => .pointsStatus

/-- Whether a message is due to the change. The loss of an ability is told, that of an attribute is
not. -/
def Tellable (source : SyncSource) : SyncMark → Prop
  | ofAttribute id => (source.values? id).isSome = true
  | _ => True

end SyncMark

/-- What can be done with marks. -/
inductive SyncEvent where
  | mark (mark : SyncMark)
  | flush (source : SyncSource) (channels : SyncChannels)

/-- The event is a flush of the channel, among others. -/
def SyncEvent.Flushes (channel : SyncChannel) : SyncEvent → Prop
  | mark _ => False
  | flush _ channels => channels.contains channel.alone = true

/-- The mark was made since the last flush of its channel. -/
def SyncMark.Outstanding (events : List SyncEvent) (mark : SyncMark) : Prop :=
  Since (· = .mark mark) (SyncEvent.Flushes mark.channel) events

namespace DirtySets

/-- Marks a change. -/
def mark (dirty : DirtySets) : SyncMark → DirtySets
  | .ofAttribute id => dirty.markAttribute id
  | .ofAbility id => dirty.markAbility id
  | .ofCooldown => dirty.markCooldown
  | .ofPoints => dirty.markPoints

/-- Whether a change is marked. -/
def Holds (dirty : DirtySets) : SyncMark → Prop
  | .ofAttribute id => id ∈ dirty.attributes
  | .ofAbility id => id ∈ dirty.abilities
  | .ofCooldown => dirty.cooldown = true
  | .ofPoints => dirty.points = true

/-- The marks after an event. -/
def after (dirty : DirtySets) : SyncEvent → DirtySets
  | .mark change => dirty.mark change
  | .flush source channels => (dirty.flush source channels).2

/-- The marks after a run that starts with none. -/
def run (events : List SyncEvent) : DirtySets := events.foldl after .empty

/-- What a channel would send. -/
def message (dirty : DirtySets) (source : SyncSource) : SyncChannel → Message
  | .abilities => abilityMessage source dirty.abilities.toList
  | .abilityCooldown => cooldownMessage source
  | .pointsStatus => pointsMessage source
  | .attributes => attributeMessage source dirty.attributes.toList

/-- Whether it would send that. -/
def tells (dirty : DirtySets) (source : SyncSource) : SyncChannel → Bool
  | .abilities => !dirty.abilities.isEmpty
  | .abilityCooldown => dirty.cooldown
  | .pointsStatus => dirty.points
  | .attributes => !(dirty.message source .attributes).isEmpty

variable {dirty : DirtySets} {source : SyncSource} {channels : SyncChannels} {channel : SyncChannel}
  {change other : SyncMark} {event : SyncEvent} {events : List SyncEvent}

/-! ### Marks -/

theorem holds_mark : (dirty.mark other).Holds change ↔ change = other ∨ dirty.Holds change := by
  cases other <;> cases change <;>
    simp [mark, Holds, markAttribute, markAbility, markCooldown, markPoints]

theorem holds_clear : (dirty.clear channels).Holds change ↔
    dirty.Holds change ∧ channels.contains change.channel.alone = false := by
  cases change with
  | ofAttribute id =>
    simp only [clear, Holds, SyncMark.channel, SyncChannel.alone]
    cases channels.contains .attributes <;> simp
  | ofAbility id =>
    simp only [clear, Holds, SyncMark.channel, SyncChannel.alone]
    cases channels.contains .abilities <;> simp
  | ofCooldown => simp [clear, Holds, SyncMark.channel, SyncChannel.alone]
  | ofPoints => simp [clear, Holds, SyncMark.channel, SyncChannel.alone]

theorem holds_after : (dirty.after event).Holds change ↔
    event = .mark change ∨ dirty.Holds change ∧ ¬ event.Flushes change.channel := by
  cases event with
  | mark other =>
    rw [after, holds_mark]
    simp [SyncEvent.Flushes, eq_comm]
  | flush source channels =>
    show (dirty.clear channels).Holds change ↔ _
    rw [holds_clear]
    simp [SyncEvent.Flushes]

theorem run_concat (events : List SyncEvent) (event : SyncEvent) :
    run (events ++ [event]) = (run events).after event :=
  List.foldl_append

/-- The marks that are held are those that were made since the last flush of their channel. -/
theorem holds_run : (run events).Holds change ↔ change.Outstanding events := by
  induction events using List.reverseRecOn with
  | nil =>
    have hnone : ¬ empty.Holds change := by cases change <;> simp [empty, Holds]
    exact iff_of_false hnone not_since_nil
  | append_singleton earlier event ih =>
    rw [run_concat, holds_after, SyncMark.Outstanding, since_concat]
    exact or_congr_right (and_congr_left' ih)

/-! ### Channels -/

/-- The marks of a channel, channel by channel. -/
theorem exists_mark_iff {property : SyncMark → Prop} :
    (∃ change, change.channel = channel ∧ property change) ↔
      match channel with
      | .abilities => ∃ id, property (.ofAbility id)
      | .abilityCooldown => property .ofCooldown
      | .pointsStatus => property .ofPoints
      | .attributes => ∃ id, property (.ofAttribute id) := by
  constructor
  · rintro ⟨change, rfl, hproperty⟩
    cases change with
    | ofAttribute id => exact ⟨id, hproperty⟩
    | ofAbility id => exact ⟨id, hproperty⟩
    | ofCooldown => exact hproperty
    | ofPoints => exact hproperty
  · intro hproperty
    cases channel with
    | abilities => exact hproperty.imp' .ofAbility fun _ hid => ⟨rfl, hid⟩
    | abilityCooldown => exact ⟨_, rfl, hproperty⟩
    | pointsStatus => exact ⟨_, rfl, hproperty⟩
    | attributes => exact hproperty.imp' .ofAttribute fun _ hid => ⟨rfl, hid⟩

/-- A message on attributes has an entry for each marked one that exists. -/
theorem isEmpty_attributeMessage {ids : List AttributeId} :
    (attributeMessage source ids).isEmpty = false ↔
      ∃ id ∈ ids, (source.values? id).isSome = true := by
  have hentry : ∀ entry, Message.encodeEntry entry ≠ [] := fun entry => by
    simp [Message.encodeEntry, Message.encodeInt16, Bytes.bigEndian]
  rw [attributeMessage_eq]
  simp [Message.isEmpty, hentry, SyncSource.entries, SyncSource.wire?, Option.isSome_iff_exists]

/-- A channel tells of the marks it has, if of any of them there is something to tell. -/
theorem tells_iff : dirty.tells source channel = true ↔
    ∃ change : SyncMark, change.channel = channel ∧ change.Tellable source ∧
      dirty.Holds change := by
  rw [exists_mark_iff]
  cases channel with
  | abilities => simp [tells, SyncMark.Tellable, Holds, SortedSet.isEmpty_eq_false_iff]
  | abilityCooldown => simp [tells, SyncMark.Tellable, Holds]
  | pointsStatus => simp [tells, SyncMark.Tellable, Holds]
  | attributes =>
    simp [tells, message, SyncMark.Tellable, Holds, isEmpty_attributeMessage,
      SortedSet.mem_toList_iff, and_comm]

/-- Each channel has its bit, and no other is ever set. -/
theorem pending_bits : dirty.pending.contains .abilities = !dirty.abilities.isEmpty ∧
    dirty.pending.contains .abilityCooldown = dirty.cooldown ∧
    dirty.pending.contains .pointsStatus = dirty.points ∧
    dirty.pending.contains .attributes = !dirty.attributes.isEmpty ∧ dirty.pending.bits < 16 := by
  rw [pending]
  generalize dirty.abilities.isEmpty = abilities, dirty.cooldown = cooldown, dirty.points = points,
    dirty.attributes.isEmpty = attributes
  revert abilities cooldown points attributes
  decide

theorem contains_pending_iff : dirty.pending.contains channel.alone = true ↔
    ∃ change : SyncMark, change.channel = channel ∧ dirty.Holds change := by
  obtain ⟨habilities, hcooldown, hpoints, hattributes, -⟩ := dirty.pending_bits
  rw [exists_mark_iff]
  cases channel with
  | abilities => simp [SyncChannel.alone, habilities, Holds, SortedSet.isEmpty_eq_false_iff]
  | abilityCooldown => simp [SyncChannel.alone, hcooldown, Holds]
  | pointsStatus => simp [SyncChannel.alone, hpoints, Holds]
  | attributes => simp [SyncChannel.alone, hattributes, Holds, SortedSet.isEmpty_eq_false_iff]

/-- A flush asks one channel after the other. -/
theorem messages_eq (dirty : DirtySets) (source : SyncSource) (channels : SyncChannels) :
    dirty.messages source channels = (SyncChannel.inOrder.filter fun channel =>
      channels.contains channel.alone && dirty.tells source channel).map
        (dirty.message source) := by
  generalize hasked : (fun channel : SyncChannel =>
    channels.contains channel.alone && dirty.tells source channel) = asked
  have horder : SyncChannel.inOrder.filter asked = [.abilities].filter asked ++
      [.abilityCooldown].filter asked ++ [.pointsStatus].filter asked ++
        [.attributes].filter asked := by
    rw [← List.filter_append, ← List.filter_append, ← List.filter_append]
    rfl
  have hone : ∀ channel, ([channel].filter asked).map (dirty.message source) =
      if channels.contains channel.alone && dirty.tells source channel then
        [dirty.message source channel] else [] := by
    intro channel
    rw [List.filter_cons, List.filter_nil, ← hasked]
    split <;> rfl
  have hattributes : (if channels.contains .attributes then
        [attributeMessage source dirty.attributes.toList].filter (!·.isEmpty) else []) =
      if channels.contains .attributes && dirty.tells source .attributes then
        [dirty.message source .attributes] else [] := by
    rw [List.filter_cons, List.filter_nil]
    cases channels.contains .attributes <;> rfl
  rw [messages, hattributes, horder, List.map_append, List.map_append, List.map_append, hone, hone,
    hone, hone]
  rfl

theorem id_message (dirty : DirtySets) (source : SyncSource) (channel : SyncChannel) :
    (dirty.message source channel).id = channel.messageId := by
  cases channel with
  | abilities => exact congrArg Message.id (abilityMessage_eq source _)
  | abilityCooldown => rfl
  | pointsStatus => rfl
  | attributes => exact congrArg Message.id (attributeMessage_eq source _)

/-- Along every run each mark is delivered once. A flush sends at most one message on each channel,
in their order: on those that are selected and have a mark since the last flush that selected them,
which for attributes has to be of one that exists. Whatever it sent, the marks of these channels are
gone, and all others stay. -/
theorem each_mark_delivered_once (events : List SyncEvent) (source : SyncSource)
    (channels : SyncChannels) :
    (∃ told : List SyncChannel, told.Sublist SyncChannel.inOrder ∧
      ((run events).flush source channels).1 = told.map ((run events).message source) ∧
      ((run events).flush source channels).1.map Message.id = told.map SyncChannel.messageId ∧
      ∀ channel, channel ∈ told ↔ channels.contains channel.alone = true ∧
        ∃ change : SyncMark, change.channel = channel ∧ change.Tellable source ∧
          change.Outstanding events) ∧
    (∀ change, (run events).Holds change ↔ change.Outstanding events) ∧
    (∀ change, ((run events).flush source channels).2.Holds change ↔
      (run events).Holds change ∧ channels.contains change.channel.alone = false) ∧
    (∀ channel : SyncChannel, (run events).pending.contains channel.alone = true ↔
      ∃ change : SyncMark, change.channel = channel ∧ change.Outstanding events) ∧
    (∀ channel : SyncChannel,
      ((run events).flush source channels).2.pending.contains channel.alone = true ↔
        (run events).pending.contains channel.alone = true ∧
          channels.contains channel.alone = false) ∧
    (run events).pending.bits < 16 := by
  refine ⟨⟨_, List.filter_sublist, messages_eq _ source channels, ?_, fun channel => ?_⟩,
    fun change => holds_run, fun change => holds_clear, fun channel => ?_, fun channel => ?_,
    (run events).pending_bits.2.2.2.2⟩
  · rw [flush, messages_eq, List.map_map]
    exact List.map_congr_left fun channel _ => id_message _ source channel
  · have hlisted : channel ∈ SyncChannel.inOrder := by cases channel <;> decide
    rw [List.mem_filter, and_iff_right hlisted, Bool.and_eq_true, tells_iff]
    simp only [holds_run]
  · simp only [contains_pending_iff, holds_run]
  · show ((run events).clear channels).pending.contains channel.alone = true ↔ _
    simp only [contains_pending_iff, holds_clear]
    constructor
    · rintro ⟨change, rfl, hholds, hunselected⟩
      exact ⟨⟨change, rfl, hholds⟩, hunselected⟩
    · rintro ⟨⟨change, rfl, hholds⟩, hunselected⟩
      exact ⟨change, rfl, hholds, hunselected⟩

end DirtySets

end CharacterSim
