import CharacterSim.Proofs.Collections.Latest
import CharacterSim.Proofs.Message.Reading
import CharacterSim.Sync.DirtySets

/-! What a client reads from messages that are lists of entries. On changed attributes these are of ten
bytes, an attribute with its base and its modified value in fixed point; on abilities they are of five,
an ability with the milliseconds of recharge left. -/

namespace CharacterSim

namespace Message

/-- The values of attributes as a message states them. -/
abbrev AttributeEntry := AttributeId × Int32 × Int32

/-- The entries of a payload. -/
def attributeEntries : List UInt8 → List AttributeEntry
  | i₁ :: i₂ :: b₁ :: b₂ :: b₃ :: b₄ :: m₁ :: m₂ :: m₃ :: m₄ :: rest =>
    (⟨.ofNat (Bytes.toNat [i₁, i₂])⟩, decodeInt32 [b₁, b₂, b₃, b₄], decodeInt32 [m₁, m₂, m₃, m₄])
      :: attributeEntries rest
  | _ => []

/-- How an entry is written. -/
def encodeEntry (entry : AttributeEntry) : List UInt8 :=
  encodeInt16 entry.1.val.toInt16 ++ encodeInt32 entry.2.1 ++ encodeInt32 entry.2.2

theorem attributeEntries_encodeEntry_append (entry : AttributeEntry) (rest : List UInt8) :
    attributeEntries (encodeEntry entry ++ rest) = entry :: attributeEntries rest := by
  obtain ⟨⟨id⟩, base, modified⟩ := entry
  have hid : Bytes.toNat (Bytes.bigEndian 2 id.toNat) = id.toNat :=
    Bytes.toNat_bigEndian id.toNat_lt
  have hentry : attributeEntries (encodeEntry (⟨id⟩, base, modified) ++ rest) =
      (⟨.ofNat (Bytes.toNat (Bytes.bigEndian 2 id.toNat))⟩, decodeInt32 (encodeInt32 base),
        decodeInt32 (encodeInt32 modified)) :: attributeEntries rest := rfl
  rw [hentry, hid, UInt16.ofNat_toNat, decodeInt32_encodeInt32, decodeInt32_encodeInt32]

theorem attributeEntries_flatMap (entries : List AttributeEntry) :
    attributeEntries (entries.flatMap encodeEntry) = entries := by
  induction entries with
  | nil => rfl
  | cons entry rest ih => rw [List.flatMap_cons, attributeEntries_encodeEntry_append, ih]

/-- An ability and its recharge as a message states them. -/
abbrev AbilityEntry := AbilityId × Int32

/-- The entries of a payload. -/
def abilityEntries : List UInt8 → List AbilityEntry
  | id :: r₁ :: r₂ :: r₃ :: r₄ :: rest =>
    (⟨id⟩, decodeInt32 [r₁, r₂, r₃, r₄]) :: abilityEntries rest
  | _ => []

/-- How an entry is written. -/
def encodeAbility (entry : AbilityEntry) : List UInt8 :=
  encodeInt8 entry.1.val.toInt8 ++ encodeInt32 entry.2

theorem abilityEntries_encodeAbility_append (entry : AbilityEntry) (rest : List UInt8) :
    abilityEntries (encodeAbility entry ++ rest) = entry :: abilityEntries rest := by
  obtain ⟨⟨id⟩, recharge⟩ := entry
  have hentry : abilityEntries (encodeAbility (⟨id⟩, recharge) ++ rest) =
      (⟨.ofNat id.toNat⟩, decodeInt32 (encodeInt32 recharge)) :: abilityEntries rest := rfl
  rw [hentry, UInt8.ofNat_toNat, decodeInt32_encodeInt32]

theorem abilityEntries_flatMap (entries : List AbilityEntry) :
    abilityEntries (entries.flatMap encodeAbility) = entries := by
  induction entries with
  | nil => rfl
  | cons entry rest ih => rw [List.flatMap_cons, abilityEntries_encodeAbility_append, ih]

/-- The abilities that a message lists. -/
def listed (message : Message) : List AbilityId :=
  if message.id = .abilityStatus then (abilityEntries message.payload).map Prod.fst else []

/-- An entry is appended for each key that has one. -/
theorem foldl_append_eq {κ α : Type} {write : Message → κ → Message} {value? : κ → Option α}
    {encode : α → List UInt8} (h : ∀ message key, write message key =
      message.append (((value? key).map encode).getD [])) (keys : List κ) (message : Message) :
    keys.foldl write message = message.append ((keys.filterMap value?).flatMap encode) := by
  induction keys generalizing message with
  | nil => simp [append]
  | cons key keys ih =>
    rw [List.foldl_cons, ih, h]
    cases hentry : value? key <;> simp [hentry, append]

end Message

namespace SyncSource

/-- The values of an attribute as a message states them. -/
def wire? (source : SyncSource) (id : AttributeId) : Option (Int32 × Int32) :=
  (source.values? id).map fun values =>
    (Amount.toFixedPoint values.1, Amount.toFixedPoint values.2)

/-- The entries for those of some attributes that exist. -/
def entries (source : SyncSource) (ids : List AttributeId) : List Message.AttributeEntry :=
  ids.filterMap fun id => (source.wire? id).map (id, ·)

/-- The recharge of a possessed ability as a message states it. -/
def recharge? (source : SyncSource) (id : AbilityId) : Option Int32 :=
  (source.remaining? id).map fun remaining => DirtySets.saturateInt32 remaining.wholeMillis

/-- The entries for those of some abilities that are possessed. -/
def recharges (source : SyncSource) (ids : List AbilityId) : List Message.AbilityEntry :=
  ids.filterMap fun id => (source.recharge? id).map (id, ·)

theorem mem_entries_iff {source : SyncSource} {ids : List AttributeId} {id : AttributeId}
    {values : Int32 × Int32} :
    (id, values) ∈ source.entries ids ↔ id ∈ ids ∧ source.wire? id = some values := by
  simp [entries]

theorem mem_recharges_iff {source : SyncSource} {ids : List AbilityId} {id : AbilityId}
    {count : Int32} :
    (id, count) ∈ source.recharges ids ↔ id ∈ ids ∧ source.recharge? id = some count := by
  simp [recharges]

end SyncSource

namespace DirtySets

open Message

theorem attributeMessage_eq (source : SyncSource) (ids : List AttributeId) :
    attributeMessage source ids =
      ⟨.playerAttributeChange, (source.entries ids).flatMap encodeEntry⟩ := by
  refine foldl_append_eq (fun message id => ?_) ids { id := .playerAttributeChange }
  cases hvalues : source.values? id with
  | none => simp [SyncSource.wire?, hvalues, append]
  | some values =>
    simp [SyncSource.wire?, hvalues, append, writeInt16, writeInt32, encodeEntry]

/-- A flush of attributes is one message on the marked ones that exist, unless there is none. -/
theorem messages_attributes (dirty : DirtySets) (source : SyncSource) :
    dirty.messages source .attributes =
      if source.entries dirty.attributes.toList = [] then []
      else [⟨.playerAttributeChange,
        (source.entries dirty.attributes.toList).flatMap encodeEntry⟩] := by
  have hselected : SyncChannels.attributes.contains .abilities = false ∧
      SyncChannels.attributes.contains .abilityCooldown = false ∧
      SyncChannels.attributes.contains .pointsStatus = false ∧
      SyncChannels.attributes.contains .attributes = true := by decide
  obtain ⟨habilities, hcooldown, hpoints, hattributes⟩ := hselected
  rw [messages, habilities, hcooldown, hpoints, hattributes, attributeMessage_eq]
  cases source.entries dirty.attributes.toList with
  | nil => rfl
  | cons entry rest => rfl

theorem abilityMessage_eq (source : SyncSource) (ids : List AbilityId) :
    abilityMessage source ids = ⟨.abilityStatus, (source.recharges ids).flatMap encodeAbility⟩ := by
  refine foldl_append_eq (fun message id => ?_) ids { id := .abilityStatus }
  cases hremaining : source.remaining? id with
  | none => simp [SyncSource.recharge?, hremaining, append]
  | some remaining =>
    simp [SyncSource.recharge?, hremaining, append, writeInt8, writeInt32, encodeAbility]

/-- A message on abilities lists those of the marked ones that are possessed. -/
theorem mem_listed_abilityMessage {source : SyncSource} {ids : List AbilityId} {id : AbilityId} :
    id ∈ (abilityMessage source ids).listed ↔ id ∈ ids ∧ (source.remaining? id).isSome = true := by
  rw [abilityMessage_eq, listed, if_pos rfl, abilityEntries_flatMap]
  simp only [SyncSource.recharges, SyncSource.recharge?, List.map_filterMap, List.mem_filterMap,
    Option.map_eq_some_iff, Option.isSome_iff_exists]
  constructor
  · rintro ⟨other, hmem, _, ⟨_, ⟨remaining, hremaining, -⟩, rfl⟩, rfl⟩
    exact ⟨hmem, remaining, hremaining⟩
  · rintro ⟨hmem, remaining, hremaining⟩
    exact ⟨id, hmem, _, ⟨_, ⟨remaining, hremaining, rfl⟩, rfl⟩, rfl⟩

end DirtySets

end CharacterSim
