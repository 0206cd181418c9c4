import CharacterSim.Ability.Possessed

/-! What is done to the abilities of an entity: some are gained, lost and used, and time passes. All
but the passing of time leaves signals, by which the owner learns of it later. -/

namespace CharacterSim

/-- Something done to abilities, successfully. -/
inductive AbilityDeed where
  | gained (id : AbilityId)
  | lost (id : AbilityId)
  | used (id : AbilityId)
  deriving DecidableEq

namespace AbilityDeed

/-- The ability that it was done to. -/
def id : AbilityDeed → AbilityId
  | gained id => id
  | lost id => id
  | used id => id

/-- What the owner is told of it. -/
def signals : AbilityDeed → List AbilitySignal
  | gained id => [.changed id]
  | lost id => [.changed id]
  | used id => [.changed id, .cooldownStarted]

variable {deeds : List AbilityDeed}

theorem changed_mem_signals {other : AbilityId} :
    .changed other ∈ deeds.flatMap signals ↔ ∃ deed ∈ deeds, deed.id = other := by
  rw [List.mem_flatMap]
  refine exists_congr fun deed => and_congr_right fun _ => ?_
  cases deed <;> simp [signals, id, eq_comm]

theorem cooldownStarted_mem_signals :
    .cooldownStarted ∈ deeds.flatMap signals ↔ ∃ other, used other ∈ deeds := by
  rw [List.mem_flatMap]
  constructor
  · rintro ⟨deed, hmem, hsignal⟩
    cases deed with
    | used other => exact ⟨other, hmem⟩
    | gained other => simp [signals] at hsignal
    | lost other => simp [signals] at hsignal
  · rintro ⟨other, hmem⟩
    exact ⟨_, hmem, by simp [signals]⟩

end AbilityDeed

namespace Abilities

/-- One act on abilities, and what it comes to. -/
inductive Act : Abilities → List AbilityDeed → Abilities → Prop where
  | give {before after : Abilities} {id : AbilityId} (h : before.give? id = some after) :
    Act before [.gained id] after
  | take {before after : Abilities} {id : AbilityId} (h : before.take? id = some after) :
    Act before [.lost id] after
  | use {before after : Abilities} {id : AbilityId} (h : before.activate id = .ok after) :
    Act before [.used id] after
  | wait (before : Abilities) (elapsed : Duration) : Act before [] (before.tick elapsed)

/-- One act after the other, and what they come to. -/
inductive Does : Abilities → List AbilityDeed → Abilities → Prop where
  | refl (abilities : Abilities) : Does abilities [] abilities
  | tail {first middle last : Abilities} {deeds more : List AbilityDeed}
    (h : Does first deeds middle) (hact : Act middle more last) : Does first (deeds ++ more) last

variable {before after : Abilities} {deeds : List AbilityDeed} {id : AbilityId}

theorem Act.does (h : Act before deeds after) : Does before deeds after := .tail (.refl before) h

theorem Does.trans {middle : Abilities} {more : List AbilityDeed} (h : Does before deeds middle)
    (hmore : Does middle more after) : Does before (deeds ++ more) after := by
  induction hmore with
  | refl => rwa [List.append_nil]
  | tail _ hact ih =>
    rw [← List.append_assoc]
    exact ih.tail hact

/-- An ability is granted when it is on offer and not possessed. -/
theorem give?_eq_some_iff : before.give? id = some after ↔
    before.catalog.contains id = true ∧ before.has id = false ∧
      after = { before with
        remaining := before.remaining.insert id .zero
        signals := before.signals ++ [.changed id] } := by
  unfold give?
  cases before.catalog.contains id <;> cases before.has id <;> simp [eq_comm]

/-- An ability is withdrawn when it is possessed. -/
theorem take?_eq_some_iff : before.take? id = some after ↔
    before.has id = true ∧
      after = { before with
        remaining := before.remaining.erase id
        signals := before.signals ++ [.changed id] } := by
  unfold take?
  cases before.has id <;> simp [eq_comm]

/-- An ability is used when it is possessed and neither timer runs. -/
theorem activate_eq_ok_iff : before.activate id = .ok after ↔
    before.globalCooldown.isZero = true ∧
      (∃ remaining, before.remaining? id = some remaining ∧ remaining.isZero = true) ∧
      after = { before with
        remaining := before.remaining.insert id (before.catalog.recharge id)
        globalCooldown := before.catalog.globalCooldown
        signals := before.signals ++ [.changed id, .cooldownStarted] } := by
  unfold activate
  cases before.globalCooldown.isZero with
  | false => simp
  | true =>
    cases hremaining : before.remaining? id with
    | none => simp
    | some remaining =>
      cases hzero : remaining.isZero with
      | false => simp [hzero]
      | true =>
        simp only [Bool.not_true, Bool.false_eq_true, if_false, Except.ok.injEq,
          Option.some.injEq, exists_eq_left', hzero, true_and]
        exact eq_comm

theorem give?_eq_some (h : before.give? id = some after) :
    after.signals = before.signals ++ [.changed id] ∧
      after.remaining = before.remaining.insert id .zero ∧
      before.has id = false := by
  obtain ⟨-, hnew, rfl⟩ := give?_eq_some_iff.1 h
  exact ⟨rfl, rfl, hnew⟩

theorem take?_eq_some (h : before.take? id = some after) :
    after.signals = before.signals ++ [.changed id] ∧
      after.remaining = before.remaining.erase id ∧ before.has id = true := by
  obtain ⟨hhas, rfl⟩ := take?_eq_some_iff.1 h
  exact ⟨rfl, rfl, hhas⟩

theorem activate_eq_ok (h : before.activate id = .ok after) :
    after.signals = before.signals ++ [.changed id, .cooldownStarted] ∧
      after.remaining = before.remaining.insert id (before.catalog.recharge id) ∧
      before.has id = true := by
  obtain ⟨-, ⟨remaining, hremaining, -⟩, rfl⟩ := activate_eq_ok_iff.1 h
  exact ⟨rfl, rfl, SortedMap.contains_iff.2 ⟨remaining, hremaining⟩⟩

theorem Act.signals (h : Act before deeds after) :
    after.signals = before.signals ++ deeds.flatMap AbilityDeed.signals := by
  cases h with
  | give h => exact (give?_eq_some h).1
  | take h => exact (take?_eq_some h).1
  | use h => exact (activate_eq_ok h).1
  | wait elapsed => exact (List.append_nil _).symm

/-- The owner is told of everything that was done. -/
theorem Does.signals (h : Does before deeds after) :
    after.signals = before.signals ++ deeds.flatMap AbilityDeed.signals := by
  induction h with
  | refl => exact (List.append_nil _).symm
  | tail _ hact ih => rw [hact.signals, ih, List.flatMap_append, List.append_assoc]

theorem Act.has_eq (h : Act before deeds after) (hother : ∀ deed ∈ deeds, deed.id ≠ id) :
    after.has id = before.has id := by
  cases h with
  | @give _ other h =>
    have hne : id ≠ other := (hother _ List.mem_cons_self).symm
    rw [has, (give?_eq_some h).2.1, SortedMap.contains, SortedMap.get?_insert_of_ne _ hne]
    rfl
  | @take _ other h =>
    have hne : id ≠ other := (hother _ List.mem_cons_self).symm
    rw [has, (take?_eq_some h).2.1, SortedMap.contains, SortedMap.get?_erase_of_ne _ hne]
    rfl
  | @use _ other h =>
    have hne : id ≠ other := (hother _ List.mem_cons_self).symm
    rw [has, (activate_eq_ok h).2.1, SortedMap.contains, SortedMap.get?_insert_of_ne _ hne]
    rfl
  | wait elapsed => simp [has, tick, SortedMap.contains, SortedMap.get?_mapValues]

/-- An ability that nothing is done to is possessed as before. -/
theorem Does.has_eq (h : Does before deeds after) (hother : ∀ deed ∈ deeds, deed.id ≠ id) :
    after.has id = before.has id := by
  induction h with
  | refl => rfl
  | tail _ hact ih =>
    rw [hact.has_eq fun deed hmem => hother deed (List.mem_append_right _ hmem)]
    exact ih fun deed hmem => hother deed (List.mem_append_left _ hmem)

theorem Act.has_of_not_lost (h : Act before deeds after) (hkept : .lost id ∉ deeds)
    (hhas : before.has id = true) : after.has id = true := by
  by_cases hother : ∀ deed ∈ deeds, deed.id ≠ id
  · rwa [h.has_eq hother]
  · obtain ⟨deed, hmem, rfl⟩ : ∃ deed ∈ deeds, deed.id = id := by simpa using hother
    cases h with
    | give h =>
      cases List.mem_singleton.1 hmem
      rw [has, (give?_eq_some h).2.1]
      exact SortedMap.contains_iff.2 ⟨_, SortedMap.get?_insert_self _ _ _⟩
    | take h =>
      cases List.mem_singleton.1 hmem
      exact absurd hmem hkept
    | use h =>
      cases List.mem_singleton.1 hmem
      rw [has, (activate_eq_ok h).2.1]
      exact SortedMap.contains_iff.2 ⟨_, SortedMap.get?_insert_self _ _ _⟩
    | wait elapsed => cases hmem

/-- What is possessed stays so unless it is lost. -/
theorem Does.has_of_not_lost (h : Does before deeds after) (hkept : .lost id ∉ deeds)
    (hhas : before.has id = true) : after.has id = true := by
  induction h with
  | refl => exact hhas
  | tail _ hact ih =>
    exact hact.has_of_not_lost (fun hmem => hkept (List.mem_append_right _ hmem))
      (ih fun hmem => hkept (List.mem_append_left _ hmem))

end Abilities

end CharacterSim
