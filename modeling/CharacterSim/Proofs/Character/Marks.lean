import CharacterSim.Proofs.Character.Construction
import CharacterSim.Proofs.Sync.Payload

/-! Marks of what the client of a character was not told yet: what leaves them, which messages they
come to, and what remains of them after a flush. -/

namespace CharacterSim

namespace DirtySets

variable {dirty : DirtySets}

theorem status_foldl_markAttribute (dirty : DirtySets) (ids : List AttributeId) :
    (ids.foldl markAttribute dirty).abilities = dirty.abilities ∧
      (ids.foldl markAttribute dirty).cooldown = dirty.cooldown ∧
      (ids.foldl markAttribute dirty).points = dirty.points := by
  induction ids generalizing dirty with
  | nil => exact ⟨rfl, rfl, rfl⟩
  | cons id ids ih => exact ih _

theorem status_foldl_markAbility (dirty : DirtySets) (ids : List AbilityId) :
    (∀ id, id ∈ (ids.foldl markAbility dirty).abilities ↔ id ∈ dirty.abilities ∨ id ∈ ids) ∧
      (ids.foldl markAbility dirty).cooldown = dirty.cooldown ∧
      (ids.foldl markAbility dirty).points = dirty.points := by
  induction ids generalizing dirty with
  | nil => simp
  | cons id ids ih =>
    obtain ⟨habilities, hrest⟩ := ih (dirty.markAbility id)
    refine ⟨fun other => (habilities other).trans ?_, hrest⟩
    simp only [markAbility, SortedSet.mem_insert_iff, List.mem_cons]
    tauto

/-- Signals mark what they tell of. -/
theorem status_foldl_markSignal (dirty : DirtySets) (signals : List AbilitySignal) :
    (∀ id, id ∈ (signals.foldl Character.markSignal dirty).abilities ↔
      id ∈ dirty.abilities ∨ .changed id ∈ signals) ∧
    ((signals.foldl Character.markSignal dirty).cooldown = true ↔
      dirty.cooldown = true ∨ .cooldownStarted ∈ signals) ∧
    (signals.foldl Character.markSignal dirty).points = dirty.points := by
  induction signals generalizing dirty with
  | nil => simp
  | cons signal signals ih =>
    obtain ⟨habilities, hcooldown, hpoints⟩ := ih (Character.markSignal dirty signal)
    cases signal with
    | changed other =>
      refine ⟨fun id => ?_, ?_, hpoints⟩
      · refine (habilities id).trans ?_
        simp only [Character.markSignal, markAbility, SortedSet.mem_insert_iff, List.mem_cons,
          AbilitySignal.changed.injEq]
        tauto
      · refine hcooldown.trans ?_
        simp [Character.markSignal, markAbility]
    | cooldownStarted =>
      refine ⟨fun id => ?_, ?_, hpoints⟩
      · refine (habilities id).trans ?_
        simp [Character.markSignal, markCooldown]
      · refine hcooldown.trans ?_
        simp [Character.markSignal, markCooldown]

/-- The messages on abilities, on the cooldown and on points, of those there are. -/
def statusMessages (source : SyncSource) (ids : SortedSet AbilityId) (cooldown points : Bool) :
    List Message :=
  (if ids.isEmpty then [] else [abilityMessage source ids.toList]) ++
    (if cooldown then [cooldownMessage source] else []) ++
    (if points then [pointsMessage source] else [])

theorem statesStatus_of_mem_statusMessages {source : SyncSource} {ids : SortedSet AbilityId}
    {cooldown points : Bool} {message : Message}
    (h : message ∈ statusMessages source ids cooldown points) : StatesStatus source ids message := by
  simp only [statusMessages, List.mem_append] at h
  rcases h with (h | h) | h
  · split at h
    · cases h
    · obtain rfl := List.mem_singleton.1 h
      exact statesStatus_abilityMessage source ids
  · split at h
    · obtain rfl := List.mem_singleton.1 h
      exact statesStatus_cooldownMessage source ids
    · cases h
  · split at h
    · obtain rfl := List.mem_singleton.1 h
      exact statesStatus_pointsMessage source ids
    · cases h

theorem messages_characterStatus (source : SyncSource) :
    dirty.messages source .characterStatus =
      statusMessages source dirty.abilities dirty.cooldown dirty.points := by
  have hselected : SyncChannels.characterStatus.contains .abilities = true ∧
      SyncChannels.characterStatus.contains .abilityCooldown = true ∧
      SyncChannels.characterStatus.contains .pointsStatus = true ∧
      SyncChannels.characterStatus.contains .attributes = false := by decide
  obtain ⟨habilities, hcooldown, hpoints, hattributes⟩ := hselected
  rw [messages, statusMessages, habilities, hcooldown, hpoints, hattributes]
  cases dirty.abilities.isEmpty <;> simp

theorem id_of_mem_messages_attributes {source : SyncSource} {message : Message}
    (h : message ∈ dirty.messages source .attributes) : message.id = .playerAttributeChange := by
  rw [messages_attributes] at h
  split at h
  · cases h
  · rw [List.mem_singleton.1 h]

theorem clear_characterStatus :
    (dirty.clear .characterStatus).abilities = .empty ∧
      (dirty.clear .characterStatus).cooldown = false ∧
      (dirty.clear .characterStatus).points = false := by
  simp [clear, show SyncChannels.characterStatus.contains .abilities = true by decide,
    show SyncChannels.characterStatus.contains .abilityCooldown = true by decide,
    show SyncChannels.characterStatus.contains .pointsStatus = true by decide]

theorem clear_attributes :
    (dirty.clear .attributes).abilities = dirty.abilities ∧
      (dirty.clear .attributes).cooldown = dirty.cooldown ∧
      (dirty.clear .attributes).points = dirty.points := by
  simp [clear, show SyncChannels.attributes.contains .abilities = false by decide,
    show SyncChannels.attributes.contains .abilityCooldown = false by decide,
    show SyncChannels.attributes.contains .pointsStatus = false by decide]

end DirtySets

/-! ### What construction does to points -/

namespace CharacterData

/-- A balance of points is set. -/
inductive SetsPoints : CharacterData → CharacterData → Prop where
  | attribute (data : CharacterData) (points : UInt32) :
    SetsPoints data { data with ledger := data.ledger.setAttributePoints points }
  | correction (data : CharacterData) (points : UInt32) :
    SetsPoints data { data with ledger := data.ledger.setCorrectionPoints points }

/-- Among the calls from some data to others a balance of points is set. -/
def Pointed (before after : CharacterData) : Prop :=
  ∃ first second, before.Calls first ∧ first.SetsPoints second ∧ second.Calls after

variable {before after : CharacterData}

theorem Calls.changed (h : Calls before after) (hchanged : before.ledger.changed = true) :
    after.ledger.changed = true := by
  induction h with
  | refl => exact hchanged
  | tail _ hcall ih =>
    cases hcall with
    | setAttributePoints points => rfl
    | setCorrectionPoints points => rfl
    | _ => exact ih

theorem Calls.changed_iff (h : Calls before after) (hunchanged : before.ledger.changed = false) :
    after.ledger.changed = true ↔ before.Pointed after := by
  constructor
  · intro hchanged
    induction h with
    | refl =>
      rw [hunchanged] at hchanged
      cases hchanged
    | @tail middle last hmiddle hcall ih =>
      have hmore : middle.Pointed last ∨ middle.ledger.changed = true := by
        cases hcall with
        | setAttributePoints points =>
          exact .inl ⟨_, _, .refl, .attribute _ points, .refl⟩
        | setCorrectionPoints points =>
          exact .inl ⟨_, _, .refl, .correction _ points, .refl⟩
        | _ => exact .inr hchanged
      rcases hmore with ⟨first, second, hfirst, hsets, hsecond⟩ | hbefore
      · exact ⟨first, second, hmiddle.trans hfirst, hsets, hsecond⟩
      · obtain ⟨first, second, hfirst, hsets, hsecond⟩ := ih hbefore
        exact ⟨first, second, hfirst, hsets, hsecond.tail hcall⟩
  · rintro ⟨first, second, -, hsets, hsecond⟩
    refine hsecond.changed ?_
    cases hsets <;> rfl

end CharacterData

namespace ProgressionLedger

variable (ledger : ProgressionLedger) (being : Being) (id : AttributeId)

theorem changed_usePoint : (ledger.usePoint being id).1.changed = true ↔
    ledger.changed = true ∨ (ledger.usePoint being id).2.2 = .ok := by
  unfold usePoint
  split
  · simp
  · split
    · simp
    · simp [setAttributePoints]

theorem changed_useCorrection : (ledger.useCorrection being id).1.changed = true ↔
    ledger.changed = true ∨ (ledger.useCorrection being id).2.2 = .ok := by
  unfold useCorrection
  split
  · simp
  · split
    · simp
    · split
      · simp
      · split
        · simp
        · simp [setAttributePoints]

end ProgressionLedger

/-! ### What is marked from the first -/

namespace Character

variable {id : EntityId} {context : CharacterContext} {client : Option ClientId}
  {databaseId : Int32} {data : CharacterData}

/-- Of a newborn character the abilities are marked, but not the cooldown or points. -/
theorem status_newborn :
    (∀ other, other ∈ (newborn id context client databaseId data).dirty.abilities ↔
      other ∈ data.abilities.ids) ∧
    (newborn id context client databaseId data).dirty.cooldown = false ∧
    (newborn id context client databaseId data).dirty.points = false := by
  let unmarked : DirtySets := data.being.clearChanged.attributes.ids.foldl .markAttribute {}
  have hdirty : (newborn id context client databaseId data).dirty =
      data.abilities.ids.foldl .markAbility unmarked := rfl
  obtain ⟨hids, hcooldown, hpoints⟩ :=
    ({} : DirtySets).status_foldl_markAttribute data.being.clearChanged.attributes.ids
  obtain ⟨hmarked, hsameCooldown, hsamePoints⟩ :=
    unmarked.status_foldl_markAbility data.abilities.ids
  rw [hdirty]
  refine ⟨fun other => (hmarked other).trans (or_iff_right ?_), hsameCooldown.trans hcooldown,
    hsamePoints.trans hpoints⟩
  rw [hids]
  exact SortedSet.not_mem_empty other

end Character

end CharacterSim
