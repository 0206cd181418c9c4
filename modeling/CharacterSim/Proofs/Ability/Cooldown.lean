import CharacterSim.Proofs.Ability.Deeds
import CharacterSim.Proofs.Collections.Latest

/-! When abilities can be used. A timer holds no more than the time that is left of it; over a whole
history of requests, granted or refused, and of time that passes in between, it has run down exactly
when enough time passed since the use that started it last. -/

namespace CharacterSim

/-- What abilities are asked for, and the time that passes for them. -/
inductive AbilityRequest where
  | give (id : AbilityId)
  | take (id : AbilityId)
  | activate (id : AbilityId)
  | tick (elapsed : Duration)

/-- What happens to abilities. A request that is refused is no event. -/
inductive AbilityEvent where
  | done (deed : AbilityDeed)
  | passed (elapsed : Duration)

namespace AbilityEvent

/-- How long an event takes. -/
def span : AbilityEvent → Duration
  | done _ => .zero
  | passed elapsed => elapsed

/-- The time that passes in the course of some events. -/
def elapsed (events : List AbilityEvent) : Duration :=
  events.foldl (fun time event => time + event.span) .zero

/-- What happened since the last use of any ability. -/
def SinceUse : List AbilityEvent → List AbilityEvent → Prop :=
  SinceLast (fun event => ∃ id, event = done (.used id)) fun _ => False

/-- What happened since the last use of an ability, where it was not gained anew after that. -/
def SinceUseOf (id : AbilityId) : List AbilityEvent → List AbilityEvent → Prop :=
  SinceLast (· = done (.used id)) (· = done (.gained id))

theorem elapsed_concat (events : List AbilityEvent) (event : AbilityEvent) :
    elapsed (events ++ [event]) = elapsed events + event.span := by
  rw [elapsed, List.foldl_append]
  rfl

/-- What is left of a timer is its whole time less the time since its last start, and nothing where
it was not started. -/
def Counts (total left : Duration) (since : List AbilityEvent → Prop) : Prop :=
  (∀ later, since later → left = total - elapsed later) ∧ ((∀ later, ¬ since later) → left = .zero)

variable {total left : Duration} {since : List AbilityEvent → Prop}
  {start reset : AbilityEvent → Prop} {history : List AbilityEvent} {event : AbilityEvent}

/-- A timer has run down when its whole time passed since its last start. -/
theorem Counts.isZero_iff (h : Counts total left since) :
    left.isZero = true ↔ ∀ later, since later → total ≤ elapsed later := by
  have hzero : left.isZero = true ↔ left.nanoseconds = 0 := beq_iff_eq
  rw [hzero]
  constructor
  · intro hleft later hlater
    have hnone : total.nanoseconds - (elapsed later).nanoseconds = 0 := by
      rw [← Duration.nanoseconds_sub, ← h.1 later hlater, hleft]
    exact Nat.sub_eq_zero_iff_le.1 hnone
  · intro hall
    by_cases hstarted : ∃ later, since later
    · obtain ⟨later, hlater⟩ := hstarted
      rw [h.1 later hlater, Duration.nanoseconds_sub]
      exact Nat.sub_eq_zero_of_le (hall later hlater)
    · rw [h.2 fun later hlater => hstarted ⟨later, hlater⟩]
      rfl

theorem Counts.le (h : Counts total left since) : left ≤ total := by
  by_cases hstarted : ∃ later, since later
  · obtain ⟨later, hlater⟩ := hstarted
    rw [h.1 later hlater]
    exact Nat.sub_le _ _
  · rw [h.2 fun later hlater => hstarted ⟨later, hlater⟩]
    exact Nat.zero_le _

theorem counts_nil : Counts total .zero (SinceLast start reset []) :=
  ⟨fun _ hlater => absurd hlater not_sinceLast_nil, fun _ => rfl⟩

/-- A timer that is started has its whole time left. -/
theorem counts_started (h : start event) :
    Counts total total (SinceLast start reset (history ++ [event])) := by
  refine ⟨fun later hlater => ?_, fun hnone =>
    absurd (sinceLast_concat.2 (.inl ⟨rfl, h⟩)) (hnone [])⟩
  rcases sinceLast_concat.1 hlater with ⟨rfl, -⟩ | ⟨rest, -, -, hnot, -⟩
  · rfl
  · exact absurd h hnot

/-- A timer that is reset has nothing left. -/
theorem counts_reset (h : reset event) (hnot : ¬ start event) :
    Counts total .zero (SinceLast start reset (history ++ [event])) := by
  refine ⟨fun later hlater => ?_, fun _ => rfl⟩
  rcases sinceLast_concat.1 hlater with ⟨-, hstart⟩ | ⟨rest, -, -, -, hkept⟩
  · exact absurd hstart hnot
  · exact absurd h hkept

/-- Any other event takes its time from what is left. -/
theorem Counts.concat (h : Counts total left (SinceLast start reset history))
    (hstart : ¬ start event) (hreset : ¬ reset event) :
    Counts total (left - event.span) (SinceLast start reset (history ++ [event])) := by
  constructor
  · intro later hlater
    rcases sinceLast_concat.1 hlater with ⟨-, hstarted⟩ | ⟨rest, rfl, hrest, -⟩
    · exact absurd hstarted hstart
    · rw [h.1 rest hrest, elapsed_concat, Duration.sub_sub]
  · intro hnone
    have hidle : left = .zero := h.2 fun rest hrest =>
      hnone _ (sinceLast_concat.2 (.inr ⟨rest, rfl, hrest, hstart, hreset⟩))
    rw [hidle]
    exact Duration.ext (Nat.zero_sub _)

end AbilityEvent

open AbilityEvent

namespace AbilityCatalog

/-- The global cooldown of the last use is over. -/
def CooldownOver (catalog : AbilityCatalog) (history : List AbilityEvent) : Prop :=
  ∀ later, SinceUse history later → catalog.globalCooldown ≤ elapsed later

/-- An ability has recharged since its last use, or was gained anew. -/
def Recharged (catalog : AbilityCatalog) (history : List AbilityEvent) (id : AbilityId) : Prop :=
  ∀ later, SinceUseOf id history later → catalog.recharge id ≤ elapsed later

end AbilityCatalog

namespace Abilities

/-- The abilities after a request, and what happened. -/
def attempt (abilities : Abilities) : AbilityRequest → Abilities × List AbilityEvent
  | .give id =>
    match abilities.give? id with
    | some after => (after, [.done (.gained id)])
    | none => (abilities, [])
  | .take id =>
    match abilities.take? id with
    | some after => (after, [.done (.lost id)])
    | none => (abilities, [])
  | .activate id =>
    match abilities.activate id with
    | .ok after => (after, [.done (.used id)])
    | .error _ => (abilities, [])
  | .tick elapsed => (abilities.tick elapsed, [.passed elapsed])

/-- The abilities after some requests, and their history. -/
def attemptAll (abilities : Abilities) (requests : List AbilityRequest) :
    Abilities × List AbilityEvent :=
  requests.foldl (fun state request =>
    let (after, events) := state.1.attempt request
    (after, state.2 ++ events)) (abilities, [])

/-- The timers, and what is possessed, follow from the history. -/
structure Remembers (catalog : AbilityCatalog) (now : Abilities) (history : List AbilityEvent) :
    Prop where
  offers : now.catalog = catalog
  possessed : ∀ id, now.has id = true ↔
    Since (· = .done (.gained id)) (· = .done (.lost id)) history
  offered : ∀ id, now.has id = true → catalog.contains id = true
  cooldown : Counts catalog.globalCooldown now.globalCooldown (SinceUse history)
  recharge : ∀ id left, now.remaining? id = some left →
    Counts (catalog.recharge id) left (SinceUseOf id history)

variable {catalog : AbilityCatalog} {before after now : Abilities} {history : List AbilityEvent}
  {id : AbilityId} {request : AbilityRequest}

theorem remembers_ofCatalog : (ofCatalog catalog).Remembers catalog [] where
  offers := rfl
  possessed id := iff_of_false Bool.false_ne_true not_since_nil
  offered _ hhas := by cases hhas
  cooldown := counts_nil
  recharge _ _ hleft := by cases hleft

/-- What is done to an ability sets its timer, and takes no time. -/
theorem Remembers.done (h : before.Remembers catalog history) {deed : AbilityDeed}
    {timer : Option Duration} (hcatalog : after.catalog = before.catalog)
    (htimer : after.remaining? deed.id = timer)
    (hothers : ∀ other, other ≠ deed.id → after.remaining? other = before.remaining? other)
    (hpossessed : timer.isSome = true ↔
      Since (· = .done (.gained deed.id)) (· = .done (.lost deed.id)) (history ++ [.done deed]))
    (hoffered : timer.isSome = true → catalog.contains deed.id = true)
    (hcooldown : Counts catalog.globalCooldown after.globalCooldown
      (SinceUse (history ++ [.done deed])))
    (hrecharge : ∀ left, timer = some left →
      Counts (catalog.recharge deed.id) left (SinceUseOf deed.id (history ++ [.done deed]))) :
    after.Remembers catalog (history ++ [.done deed]) := by
  subst htimer
  -- Nothing that is done to one ability is an event for another.
  have hapart : ∀ same : AbilityDeed, same.id ≠ deed.id →
      ¬ AbilityEvent.done deed = .done same := by
    intro same hne heq
    cases heq
    exact hne rfl
  have hsame : ∀ other, other ≠ deed.id → after.has other = before.has other :=
    fun other hother => congrArg Option.isSome (hothers other hother)
  refine ⟨hcatalog.trans h.offers, fun other => ?_, fun other hhas => ?_, hcooldown,
    fun other left hleft => ?_⟩
  · by_cases hother : other = deed.id
    · exact hother ▸ hpossessed
    · rw [hsame other hother, h.possessed other, since_concat,
        or_iff_right (hapart (.gained other) hother), and_iff_left (hapart (.lost other) hother)]
  · by_cases hother : other = deed.id
    · exact hother ▸ hoffered (hother ▸ hhas)
    · exact h.offered other (hsame other hother ▸ hhas)
  · by_cases hother : other = deed.id
    · subst hother
      exact hrecharge left hleft
    · rw [hothers other hother] at hleft
      exact (h.recharge other left hleft).concat (hapart (.used other) hother)
        (hapart (.gained other) hother)

theorem Remembers.give (h : before.Remembers catalog history)
    (hgive : before.give? id = some after) :
    after.Remembers catalog (history ++ [.done (.gained id)]) := by
  obtain ⟨hoffered, -, rfl⟩ := give?_eq_some_iff.1 hgive
  refine h.done rfl (SortedMap.get?_insert_self before.remaining id .zero)
    (fun other hother => SortedMap.get?_insert_of_ne _ hother _) ?_ ?_ ?_ ?_
  · rw [since_concat]
    exact iff_of_true rfl (.inl rfl)
  · exact fun _ => h.offers ▸ hoffered
  · exact h.cooldown.concat (by simp) not_false
  · rintro left ⟨⟩
    exact counts_reset rfl (by simp)

theorem Remembers.take (h : before.Remembers catalog history)
    (htake : before.take? id = some after) :
    after.Remembers catalog (history ++ [.done (.lost id)]) := by
  obtain ⟨-, rfl⟩ := take?_eq_some_iff.1 htake
  refine h.done rfl (SortedMap.get?_erase_self before.remaining id)
    (fun other hother => SortedMap.get?_erase_of_ne _ hother) ?_ ?_ ?_ ?_
  · rw [since_concat]
    simp [AbilityDeed.id]
  · exact fun hsome => by cases hsome
  · exact h.cooldown.concat (by simp) not_false
  · rintro left ⟨⟩

theorem Remembers.activate (h : before.Remembers catalog history)
    (hactivate : before.activate id = .ok after) :
    after.Remembers catalog (history ++ [.done (.used id)]) := by
  obtain ⟨-, ⟨remaining, hheld, -⟩, rfl⟩ := activate_eq_ok_iff.1 hactivate
  have hhas : before.has id = true := SortedMap.contains_iff.2 ⟨remaining, hheld⟩
  refine h.done rfl (SortedMap.get?_insert_self before.remaining id _)
    (fun other hother => SortedMap.get?_insert_of_ne _ hother _) ?_ ?_ ?_ ?_
  · rw [since_concat]
    exact iff_of_true rfl (.inr ⟨(h.possessed id).1 hhas, by simp⟩)
  · exact fun _ => h.offered id hhas
  · rw [← h.offers]
    exact counts_started ⟨id, rfl⟩
  · rintro left ⟨⟩
    rw [h.offers]
    exact counts_started rfl

theorem Remembers.tick (h : before.Remembers catalog history) (elapsed : Duration) :
    (before.tick elapsed).Remembers catalog (history ++ [.passed elapsed]) := by
  have hremaining : ∀ other, (before.tick elapsed).remaining? other =
      (before.remaining? other).map fun left => left - elapsed :=
    before.remaining?_tick elapsed
  have hsame : ∀ other, (before.tick elapsed).has other = before.has other := by
    intro other
    have hsome := congrArg Option.isSome (hremaining other)
    rwa [Option.isSome_map] at hsome
  refine ⟨h.offers, fun other => ?_, fun other hother => ?_, ?_, fun other left hleft => ?_⟩
  · rw [since_concat, ← h.possessed other, hsame]
    simp
  · exact h.offered other (hsame other ▸ hother)
  · exact h.cooldown.concat (by simp) not_false
  · rw [hremaining] at hleft
    obtain ⟨left, hheld, rfl⟩ := Option.map_eq_some_iff.1 hleft
    exact (h.recharge other left hheld).concat (by simp) (by simp)

theorem Remembers.attempt (h : before.Remembers catalog history) (request : AbilityRequest) :
    (before.attempt request).1.Remembers catalog (history ++ (before.attempt request).2) := by
  have hrefused : before.Remembers catalog (history ++ []) := (List.append_nil history).symm ▸ h
  cases request with
  | give id =>
    cases hgive : before.give? id with
    | some after => simpa only [Abilities.attempt, hgive] using h.give hgive
    | none => simpa only [Abilities.attempt, hgive] using hrefused
  | take id =>
    cases htake : before.take? id with
    | some after => simpa only [Abilities.attempt, htake] using h.take htake
    | none => simpa only [Abilities.attempt, htake] using hrefused
  | activate id =>
    cases hactivate : before.activate id with
    | ok after => simpa only [Abilities.attempt, hactivate] using h.activate hactivate
    | error denied => simpa only [Abilities.attempt, hactivate] using hrefused
  | tick elapsed => exact h.tick elapsed

theorem remembers_attemptAll (catalog : AbilityCatalog) (requests : List AbilityRequest) :
    ((ofCatalog catalog).attemptAll requests).1.Remembers catalog
      ((ofCatalog catalog).attemptAll requests).2 := by
  refine List.foldlRecOn (motive := fun state : Abilities × List AbilityEvent =>
    state.1.Remembers catalog state.2) requests _ remembers_ofCatalog ?_
  exact fun state hstate request _ => hstate.attempt request

/-- Which of its checks a use fails first. -/
theorem activate_cases (now : Abilities) (id : AbilityId) :
    (now.globalCooldown.isZero = false ∧ now.activate id = .error .globalCooldown) ∨
    (now.globalCooldown.isZero = true ∧ now.has id = false ∧
      now.activate id = .error (.unknownAbility id)) ∨
    (now.globalCooldown.isZero = true ∧ ∃ left, now.remaining? id = some left ∧
      ((left.isZero = false ∧ now.activate id = .error (.recharging id)) ∨
        (left.isZero = true ∧ ∃ after, now.activate id = .ok after))) := by
  unfold activate
  cases now.globalCooldown.isZero with
  | false => exact .inl ⟨rfl, rfl⟩
  | true =>
    cases hheld : now.remaining? id with
    | none =>
      refine .inr (.inl ⟨rfl, ?_, rfl⟩)
      rw [has, SortedMap.contains, show now.remaining.get? id = none from hheld]
      rfl
    | some left =>
      refine .inr (.inr ⟨rfl, left, rfl, ?_⟩)
      cases hzero : left.isZero with
      | false => exact .inl ⟨rfl, by simp [hzero]⟩
      | true => exact .inr ⟨rfl, _, by simp [hzero]; rfl⟩

/-- Whatever was asked of abilities before, one can be used exactly when it is possessed and enough
time passed since the last use of any and of its own. Otherwise the global cooldown is reported
before an unknown ability, and that before recharging, and all stays as it is. -/
theorem usable_iff_recharged (catalog : AbilityCatalog) (requests : List AbilityRequest) :
    let (now, history) := (ofCatalog catalog).attemptAll requests
    (∀ id,
      ((∃ after, now.activate id = .ok after) ↔ now.has id = true ∧
        catalog.CooldownOver history ∧ catalog.Recharged history id) ∧
      (now.activate id = .error .globalCooldown ↔ ¬ catalog.CooldownOver history) ∧
      (now.activate id = .error (.unknownAbility id) ↔
        catalog.CooldownOver history ∧ now.has id = false) ∧
      (now.activate id = .error (.recharging id) ↔ catalog.CooldownOver history ∧
        now.has id = true ∧ ¬ catalog.Recharged history id) ∧
      (∀ denied, now.activate id = .error denied → now.attempt (.activate id) = (now, []))) ∧
    (∀ id, now.has id = true ↔ Since (· = .done (.gained id)) (· = .done (.lost id)) history) ∧
    (∀ id, now.has id = true → catalog.contains id = true) ∧
    (∀ id left, now.remaining? id = some left → left ≤ catalog.recharge id) ∧
    now.globalCooldown ≤ catalog.globalCooldown := by
  have h := remembers_attemptAll catalog requests
  generalize (ofCatalog catalog).attemptAll requests = state at h ⊢
  obtain ⟨now, history⟩ := state
  dsimp only at h ⊢
  refine ⟨fun id => ?_, h.possessed, h.offered, fun id left hleft => (h.recharge id left hleft).le,
    h.cooldown.le⟩
  have hrefused : ∀ denied, now.activate id = .error denied →
      now.attempt (.activate id) = (now, []) := by
    intro denied hdenied
    rw [attempt, hdenied]
  have hcooldown : now.globalCooldown.isZero = true ↔ catalog.CooldownOver history :=
    h.cooldown.isZero_iff
  have hrecharge : ∀ left, now.remaining? id = some left →
      (left.isZero = true ↔ catalog.Recharged history id) :=
    fun left hleft => (h.recharge id left hleft).isZero_iff
  rcases activate_cases now id with ⟨hrunning, hresult⟩ | ⟨hover, hmissing, hresult⟩ |
    ⟨hover, left, hleft, hlast⟩
  · have hnot : ¬ catalog.CooldownOver history := by simp [← hcooldown, hrunning]
    simp [hresult, hnot, hrefused]
  · simp [hresult, hcooldown.1 hover, hmissing, hrefused]
  · have hhas : now.has id = true := SortedMap.contains_iff.2 ⟨left, hleft⟩
    rcases hlast with ⟨hrunning, hresult⟩ | ⟨hzero, after, hresult⟩
    · have hnot : ¬ catalog.Recharged history id := by simp [← hrecharge left hleft, hrunning]
      simp [hresult, hcooldown.1 hover, hhas, hnot, hrefused]
    · simp [hresult, hcooldown.1 hover, hhas, (hrecharge left hleft).1 hzero]

/-- An ability that recharges within the global cooldown, and one that takes longer. -/
def sampleCatalog : AbilityCatalog :=
  .ofList [⟨⟨1⟩, "strike", .ofMillis 500⟩, ⟨⟨2⟩, "heal", .ofMillis 5000⟩]

/-- The longer one is used, and the other refused before the global cooldown is over. -/
def sampleRequests : List AbilityRequest :=
  [.give ⟨1⟩, .give ⟨2⟩, .activate ⟨2⟩, .tick (.ofMillis 999), .activate ⟨1⟩, .tick (.ofMillis 1)]

/-- When the global cooldown is over, only one of them can be used. -/
theorem usable_of_sample :
    let (now, history) := (ofCatalog sampleCatalog).attemptAll sampleRequests
    (∃ after, now.activate ⟨1⟩ = .ok after) ∧ now.activate ⟨2⟩ = .error (.recharging ⟨2⟩) ∧
      sampleCatalog.CooldownOver history ∧ sampleCatalog.Recharged history ⟨1⟩ ∧
      ¬ sampleCatalog.Recharged history ⟨2⟩ := by
  obtain ⟨hids, -⟩ := usable_iff_recharged sampleCatalog sampleRequests
  obtain ⟨hstrike, -⟩ := hids ⟨1⟩
  obtain ⟨-, -, -, hheal, -⟩ := hids ⟨2⟩
  have hused : ∃ after, ((ofCatalog sampleCatalog).attemptAll sampleRequests).1.activate ⟨1⟩ =
      .ok after := ⟨_, rfl⟩
  have hrefused : ((ofCatalog sampleCatalog).attemptAll sampleRequests).1.activate ⟨2⟩ =
      .error (.recharging ⟨2⟩) := rfl
  obtain ⟨-, hover, hready⟩ := hstrike.1 hused
  exact ⟨hused, hrefused, hover, hready, (hheal.1 hrefused).2.2⟩

end Abilities

end CharacterSim
