import CharacterSim.Ability.Catalog
import CharacterSim.Attribute.Basic
import CharacterSim.Message.Basic

/-! What a client has not been told yet. Changes are marked as they happen and turned into messages
channel by channel, with the values of the moment of the flush. -/

namespace CharacterSim

/-- A set of outbound channels, a bit for each; other bits are kept and mean nothing. -/
structure SyncChannels where
  bits : UInt8
  deriving DecidableEq, Inhabited

namespace SyncChannels

def abilities : SyncChannels := ⟨1⟩

def abilityCooldown : SyncChannels := ⟨2⟩

def pointsStatus : SyncChannels := ⟨4⟩

def attributes : SyncChannels := ⟨8⟩

/-- The channels flushed by the update of a character. -/
def characterStatus : SyncChannels := ⟨7⟩

/-- Whether every channel of the second set is in the first. -/
def contains (channels other : SyncChannels) : Bool := channels.bits &&& other.bits == other.bits

end SyncChannels

/-- The values a flush reads. -/
structure SyncSource where
  /-- Base and modified value of an attribute that exists. -/
  values? : AttributeId → Option (Float × Float)
  /-- The recharge left of an ability that is possessed. -/
  remaining? : AbilityId → Option Duration
  globalCooldown : Duration
  attributePoints : UInt32
  correctionPoints : UInt32

namespace SyncSource

/-- The source in which nothing exists. -/
def empty : SyncSource := ⟨fun _ => none, fun _ => none, .zero, 0, 0⟩

/-- The source in which an attribute has other values, or does not exist any more. -/
def setValues (source : SyncSource) (id : AttributeId) (values : Option (Float × Float)) :
    SyncSource :=
  { source with values? := fun other => if other = id then values else source.values? other }

/-- The source in which an ability has another recharge left, or is not possessed any more. -/
def setRemaining (source : SyncSource) (id : AbilityId) (remaining : Option Duration) :
    SyncSource :=
  { source with
    remaining? := fun other => if other = id then remaining else source.remaining? other }

end SyncSource

/-- The changes that await a flush. -/
structure DirtySets where
  attributes : SortedSet AttributeId := .empty
  abilities : SortedSet AbilityId := .empty
  cooldown : Bool := false
  points : Bool := false

namespace DirtySets

def empty : DirtySets := {}

instance : Inhabited DirtySets := ⟨empty⟩

def markAttribute (dirty : DirtySets) (id : AttributeId) : DirtySets :=
  { dirty with attributes := dirty.attributes.insert id }

def markAbility (dirty : DirtySets) (id : AbilityId) : DirtySets :=
  { dirty with abilities := dirty.abilities.insert id }

def markCooldown (dirty : DirtySets) : DirtySets := { dirty with cooldown := true }

def markPoints (dirty : DirtySets) : DirtySets := { dirty with points := true }

/-- The channels that hold something to send. -/
def pending (dirty : DirtySets) : SyncChannels :=
  ⟨(if dirty.abilities.isEmpty then 0 else 1) ||| (if dirty.cooldown then 2 else 0)
    ||| (if dirty.points then 4 else 0) ||| (if dirty.attributes.isEmpty then 0 else 8)⟩

def isEmpty (dirty : DirtySets) : Bool := dirty.pending.bits == 0

/-- A count held within 16 signed bits. -/
def saturateInt16 (count : Nat) : Int16 := if count ≤ 32767 then .ofNat count else 32767

/-- A count held within 32 signed bits. -/
def saturateInt32 (count : Nat) : Int32 := if count ≤ 2147483647 then .ofNat count else 2147483647

/-- The marked abilities that are still possessed. One that was lost is left out, which is how the
client learns of it. -/
def abilityMessage (source : SyncSource) (ids : List AbilityId) : Message :=
  ids.foldl (fun message id =>
    match source.remaining? id with
    | some remaining =>
      (message.writeInt8 id.val.toInt8).writeInt32 (saturateInt32 remaining.wholeMillis)
    | none => message) { id := .abilityStatus }

def cooldownMessage (source : SyncSource) : Message :=
  Message.writeInt16 { id := .abilityCooldown } (saturateInt16 source.globalCooldown.wholeMillis)

def pointsMessage (source : SyncSource) : Message :=
  (Message.writeInt16 { id := .attributePointsStatus }
    (saturateInt16 source.attributePoints.toNat)).writeInt16
    (saturateInt16 source.correctionPoints.toNat)

/-- The marked attributes that still exist. -/
def attributeMessage (source : SyncSource) (ids : List AttributeId) : Message :=
  ids.foldl (fun message id =>
    match source.values? id with
    | some (base, modified) =>
      ((message.writeInt16 id.val.toInt16).writeInt32 (Amount.toFixedPoint base)).writeInt32
        (Amount.toFixedPoint modified)
    | none => message) { id := .playerAttributeChange }

/-- The messages of the selected channels that hold something, abilities before the cooldown before
points before attributes. An attribute message without an entry is not sent. -/
def messages (dirty : DirtySets) (source : SyncSource) (channels : SyncChannels) : List Message :=
  (if channels.contains .abilities && !dirty.abilities.isEmpty then
    [abilityMessage source dirty.abilities.toList] else [])
    ++ (if channels.contains .abilityCooldown && dirty.cooldown then
      [cooldownMessage source] else [])
    ++ (if channels.contains .pointsStatus && dirty.points then [pointsMessage source] else [])
    ++ (if channels.contains .attributes then
      [attributeMessage source dirty.attributes.toList].filter (!·.isEmpty) else [])

/-- The marks of the channels that are not selected. -/
def clear (dirty : DirtySets) (channels : SyncChannels) : DirtySets where
  abilities := if channels.contains .abilities then .empty else dirty.abilities
  cooldown := dirty.cooldown && !channels.contains .abilityCooldown
  points := dirty.points && !channels.contains .pointsStatus
  attributes := if channels.contains .attributes then .empty else dirty.attributes

/-- Sends and clears the selected channels. -/
def flush (dirty : DirtySets) (source : SyncSource) (channels : SyncChannels) :
    List Message × DirtySets :=
  (dirty.messages source channels, dirty.clear channels)

end DirtySets

end CharacterSim
