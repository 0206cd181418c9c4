import CharacterSim.Proofs.Attribute.Rebasing
import CharacterSim.Proofs.Character.Course
import CharacterSim.Proofs.Numeric.Difference

/-! Damage. A hit lowers vitality or leaves it as it is, the first that leaves none is deadly, and the
dead feel no more. This holds of hits by any amount, also by one that is below zero, infinite or no
number, as nothing but the part above zero counts of what is taken and of what is left. -/

namespace CharacterSim

namespace Amount

/-- What is left of an amount when another is taken from it. -/
def remaining (amount taken : Float) : Float := positivePart (amount - positivePart taken)

theorem zero_le_remaining (amount taken : Float) : 0.0 ≤ remaining amount taken :=
  zero_le_positivePart _

variable {amount taken : Float}

theorem remaining_le (h : 0.0 ≤ amount) (taken : Float) : remaining amount taken ≤ amount :=
  positivePart_sub_le h taken

/-- Where nothing is taken, the same is left. -/
theorem remaining_beq_self (h : 0.0 ≤ amount) (htaken : taken.isNaN = true ∨ taken ≤ 0.0) :
    (remaining amount taken == amount) = true := by
  rw [remaining, positivePart_of_not_pos htaken, sub_zero]
  exact positivePart_beq_self h

end Amount

namespace Being

/-- A being of which so much vitality is left, and which is dead if this is none. -/
def wounded (being : Being) (left : Float) : Being :=
  { (being.setAttribute .hp left).1 with
    lifecycle := if left ≤ 0.0 then .dead else being.lifecycle }

variable {being : Being} {left : Float}

theorem lifecycle_wounded (h : being.lifecycle = .alive) :
    (being.wounded left).lifecycle = .dead ↔ left ≤ 0.0 := by
  show (if left ≤ 0.0 then LifecycleState.dead else being.lifecycle) = .dead ↔ _
  rw [h]
  split
  · next hnone => exact iff_of_true rfl hnone
  · next hsome => exact iff_of_false LifecycleState.noConfusion hsome

theorem base?_wounded (h : (being.base? .hp).isSome = true) :
    (being.wounded left).base? .hp = some left := by
  obtain ⟨hp, hhp⟩ := Option.isSome_iff_exists.1 h
  show (being.attributes.setBase .hp left).1.base? .hp = some left
  rw [AttributeStore.base?_setBase, if_pos rfl]
  exact congrArg (Option.map fun _ => left) hhp

theorem registry_wounded :
    (being.wounded left).attributes.registry = being.attributes.registry :=
  AttributeStore.registry_setBase left

/-- What does not derive from vitality is not touched. -/
theorem get?_wounded {id : AttributeId} (hne : id ≠ .hp)
    (h : id ∉ being.attributes.registry.dependents .hp) :
    (being.wounded left).attributes.get? id = being.attributes.get? id :=
  AttributeStore.get?_setBase_of_not_stirs (fun hstirs => hstirs.2.elim hne h) left

end Being

namespace Character

variable {start : Character} {origin being : Being} {amounts : List Float} {left : Float}
  {callback : ScriptHistory → Entity → Entity}

/-- The character with another being. If this is dead then the script of deaths was given it so. -/
def bearing (start : Character) (being : Being) : Character :=
  { start.withBeing being with
    scripted :=
      if being.lifecycle = .dead then (.death, start.entity.setBeing being) :: start.scripted
      else start.scripted }

theorem bearing_of_alive (h : being.lifecycle = .alive) :
    start.bearing being = start.withBeing being := by
  rw [bearing, h, if_neg LifecycleState.noConfusion]
  rfl

theorem bearing_of_dead (h : being.lifecycle = .dead) : start.bearing being =
    { start.withBeing being with
      scripted := (.death, start.entity.setBeing being) :: start.scripted } := by
  rw [bearing, if_pos h]

theorem withBeing_eq_self (h : start.entity.being? = some being) : start.withBeing being = start := by
  rw [withBeing, Entity.setBeing_eq_self h]

/-! ### A hit -/

theorem applyDamage_of_dead (h : being.lifecycle = .dead) (amount : Float) :
    (start.bearing being).applyDamage amount = pure (start.bearing being) := by
  have hbeing : (start.bearing being).entity.being? = some being := rfl
  rw [applyDamage, requireBeing_eq hbeing, pure_bind, Being.isDead, h]
  rfl

/-- Who lives is wounded, and the script of deaths, which leaves everything as it is, is called when no
vitality is left. -/
theorem applyDamage_of_alive (hdeath : start.context.callbacks.death = some callback)
    (hidle : ∀ history entity, callback history entity = entity) (halive : being.lifecycle = .alive)
    (hleft : being.base? .hp = some left) (amount : Float) :
    (start.bearing being).applyDamage amount =
      ⟨if (being.wounded (Amount.remaining left amount)).lifecycle = .dead
          then [.called .death start.id] else [],
        .ok (start.bearing (being.wounded (Amount.remaining left amount)))⟩ := by
  rw [bearing_of_alive halive]
  have hbeing : (start.withBeing being).entity.being? = some being := rfl
  have hremaining : Amount.positivePart (left - Amount.positivePart amount) =
      Amount.remaining left amount := rfl
  rw [applyDamage, requireBeing_eq hbeing, pure_bind, Being.isDead, halive, LifecycleState.isDead,
    if_neg Bool.false_ne_true, hleft]
  dsimp only
  rw [hremaining]
  generalize Amount.remaining left amount = less
  simp only [Being.lifecycle_wounded halive]
  by_cases hspent : less ≤ 0.0
  · have hhurt : ((start.withBeing being).withBeing (being.setAttribute .hp less).1).entity.being? =
        some (being.setAttribute .hp less).1 := rfl
    have hmourned : ∀ history entity, start.context.callbacks.mourned history entity = entity := by
      intro history entity
      rw [ScriptCallbacks.mourned, hdeath]
      exact hidle history entity
    have hrecorded : ∀ history entity, start.context.callbacks.recorded .death history entity =
        (.death, entity) :: history := by
      intro history entity
      rw [ScriptCallbacks.recorded, ScriptCallbacks.registers, hdeath]
      rfl
    have hdead : (being.wounded less).lifecycle = .dead := (Being.lifecycle_wounded halive).2 hspent
    have hcalled : start.context.callbacks.callOf .death start.id = [.called .death start.id] := by
      rw [ScriptCallbacks.callOf, ScriptCallbacks.due, ScriptCallbacks.registers, hdeath]
      rfl
    have hdies : ((start.withBeing being).withBeing (being.setAttribute .hp less).1).die =
        ⟨[.called .death start.id], .ok (start.bearing (being.wounded less), .ok ())⟩ := by
      refine (die_eq_of_alive hhurt halive).trans ?_
      show Step.mk (start.context.callbacks.callOf .death start.id) (.ok ({ start with
        entity := start.context.callbacks.mourned start.scripted (start.entity.setBeing
          { (being.setAttribute .hp less).1 with lifecycle := .dead })
        scripted := start.context.callbacks.recorded .death start.scripted (start.entity.setBeing
          { (being.setAttribute .hp less).1 with lifecycle := .dead }) }, Except.ok ())) = _
      rw [hcalled, hmourned, hrecorded, bearing_of_dead hdead, Being.wounded, if_pos hspent]
      rfl
    rw [if_pos hspent, if_pos hspent, hdies]
    rfl
  · have hlives : (being.wounded less).lifecycle = .alive := by
      rw [Being.wounded, if_neg hspent]
      exact halive
    rw [if_neg hspent, if_neg hspent, bearing_of_alive hlives, Being.wounded, if_neg hspent]
    rfl

/-! ### Hits one after the other -/

/-- The character after hits by the listed amounts. -/
def struck (start : Character) (amounts : List Float) : Step Character :=
  amounts.foldlM applyDamage start

theorem struck_concat (start : Character) (amounts : List Float) (amount : Float) :
    start.struck (amounts ++ [amount]) = start.struck amounts >>= (·.applyDamage amount) := by
  rw [struck, List.foldlM_append, ← struck]
  simp only [List.foldlM_cons, List.foldlM_nil, bind_pure]

/-- A character bears hits: its being becomes this one, of which so much vitality is left, nothing else
of it changes, and the script of deaths is called once if the being is dead and otherwise not. What the
script was given is the character as it is then. -/
structure Bears (start : Character) (amounts : List Float) (being : Being) (left : Float) : Prop where
  struck_eq : start.struck amounts =
    ⟨if being.lifecycle = .dead then [.called .death start.id] else [],
      .ok (start.bearing being)⟩
  base_eq : being.base? .hp = some left

/-- What hits bring about is determined. -/
theorem Bears.unique {other : Being} {less : Float} (h : start.Bears amounts being left)
    (hother : start.Bears amounts other less) : being = other ∧ left = less := by
  have hresult : (Except.ok (start.bearing being) : Except Fault Character) =
      .ok (start.bearing other) :=
    (congrArg Step.result h.struck_eq).symm.trans (congrArg Step.result hother.struck_eq)
  obtain rfl : being = other :=
    Option.some.inj (congrArg (fun character : Character => character.entity.being?)
      (Except.ok.inj hresult))
  exact ⟨rfl, Option.some.inj (h.base_eq.symm.trans hother.base_eq)⟩

/-- How the being of a character is after hits, compared to how it was. -/
structure Worn (start : Character) (origin : Being) (amounts : List Float) (being : Being)
    (left : Float) : Prop extends start.Bears amounts being left where
  nonneg : 0.0 ≤ left
  dead_iff : being.lifecycle = .dead ↔ amounts ≠ [] ∧ left ≤ 0.0
  registry : being.attributes.registry = origin.attributes.registry
  others : ∀ id, id ≠ .hp → id ∉ origin.attributes.registry.dependents .hp →
    being.attributes.get? id = origin.attributes.get? id

theorem worn_nil (hbeing : start.entity.being? = some origin) (halive : origin.lifecycle = .alive)
    (hleft : origin.base? .hp = some left) (hnonneg : 0.0 ≤ left) :
    start.Worn origin [] origin left where
  struck_eq := by
    rw [bearing_of_alive halive, halive, withBeing_eq_self hbeing]
    rfl
  base_eq := hleft
  nonneg := hnonneg
  dead_iff := by
    rw [halive]
    exact iff_of_false LifecycleState.noConfusion fun h => h.1 rfl
  registry := rfl
  others _ _ _ := rfl

/-- The dead feel no more. -/
theorem Worn.concat_of_dead (h : start.Worn origin amounts being left)
    (hdead : being.lifecycle = .dead) (amount : Float) :
    start.Worn origin (amounts ++ [amount]) being left where
  struck_eq := by
    rw [struck_concat, h.struck_eq, Step.bind_of_ok rfl, applyDamage_of_dead hdead,
      Step.effects_pure, List.append_nil]
    rfl
  base_eq := h.base_eq
  nonneg := h.nonneg
  dead_iff := iff_of_true hdead ⟨List.concat_ne_nil amount amounts, (h.dead_iff.1 hdead).2⟩
  registry := h.registry
  others := h.others

theorem Worn.append_of_dead (h : start.Worn origin amounts being left)
    (hdead : being.lifecycle = .dead) (more : List Float) :
    start.Worn origin (amounts ++ more) being left := by
  induction more using List.reverseRecOn with
  | nil => rwa [List.append_nil]
  | append_singleton more amount ih =>
    rw [← List.append_assoc]
    exact ih.concat_of_dead hdead amount

/-- Who lives is wounded by the next hit. -/
theorem Worn.concat_of_alive (h : start.Worn origin amounts being left)
    (hdeath : start.context.callbacks.death = some callback)
    (hidle : ∀ history entity, callback history entity = entity) (halive : being.lifecycle = .alive)
    (amount : Float) :
    start.Worn origin (amounts ++ [amount]) (being.wounded (Amount.remaining left amount))
      (Amount.remaining left amount) where
  struck_eq := by
    rw [struck_concat, h.struck_eq, Step.bind_of_ok rfl,
      applyDamage_of_alive hdeath hidle halive h.base_eq, halive]
    rfl
  base_eq := Being.base?_wounded (by rw [h.base_eq]; rfl)
  nonneg := Amount.zero_le_remaining left amount
  dead_iff := by
    rw [Being.lifecycle_wounded halive]
    exact (and_iff_right (List.concat_ne_nil amount amounts)).symm
  registry := Being.registry_wounded.trans h.registry
  others id hne hout := by
    rw [Being.get?_wounded hne (h.registry ▸ hout), h.others id hne hout]

theorem exists_worn (hdeath : start.context.callbacks.death = some callback)
    (hidle : ∀ history entity, callback history entity = entity)
    (hbeing : start.entity.being? = some origin) (halive : origin.lifecycle = .alive) {hp : Float}
    (hhp : origin.base? .hp = some hp) (hnonneg : 0.0 ≤ hp) (amounts : List Float) :
    ∃ being left, start.Worn origin amounts being left := by
  induction amounts using List.reverseRecOn with
  | nil => exact ⟨origin, hp, worn_nil hbeing halive hhp hnonneg⟩
  | append_singleton amounts amount ih =>
    obtain ⟨being, left, h⟩ := ih
    cases hlifecycle : being.lifecycle with
    | dead => exact ⟨being, left, h.concat_of_dead hlifecycle amount⟩
    | alive => exact ⟨_, _, h.concat_of_alive hdeath hidle hlifecycle amount⟩

/-- The next hit lowers vitality or leaves it as it is, the latter if it takes nothing, and of the dead
it leaves everything. -/
theorem Worn.exists_concat (h : start.Worn origin amounts being left)
    (hdeath : start.context.callbacks.death = some callback)
    (hidle : ∀ history entity, callback history entity = entity) (amount : Float) :
    ∃ later less, start.Bears (amounts ++ [amount]) later less ∧ less ≤ left ∧
      (amount.isNaN = true ∨ amount ≤ 0.0 → (less == left) = true) ∧
      (being.lifecycle = .alive → less = Amount.remaining left amount) ∧
      (being.lifecycle = .dead → later = being) := by
  cases hlifecycle : being.lifecycle with
  | dead =>
    have hnumber : left.isNaN = false := (Amount.isNaN_of_le h.nonneg).2
    exact ⟨being, left, (h.concat_of_dead hlifecycle amount).toBears, Amount.le_self hnumber,
      fun _ => Amount.beq_self hnumber, LifecycleState.noConfusion, fun _ => rfl⟩
  | alive =>
    exact ⟨_, _, (h.concat_of_alive hdeath hidle hlifecycle amount).toBears,
      Amount.remaining_le h.nonneg amount, Amount.remaining_beq_self h.nonneg, fun _ => rfl,
      LifecycleState.noConfusion⟩

/-- A being is dead from the first hit on that leaves no vitality. -/
theorem Worn.dead_iff_exists_prefix (h : start.Worn origin amounts being left)
    (hworn : ∀ hits, ∃ being left, start.Worn origin hits being left) :
    being.lifecycle = .dead ↔ ∃ hits, hits <+: amounts ∧ hits ≠ [] ∧
      ∃ wounded zero, start.Bears hits wounded zero ∧ (zero == 0.0) = true := by
  constructor
  · intro hdead
    obtain ⟨hne, hle⟩ := h.dead_iff.1 hdead
    exact ⟨amounts, List.prefix_refl amounts, hne, being, left, h.toBears,
      Amount.beq_of_le_of_le hle h.nonneg⟩
  · rintro ⟨hits, ⟨more, rfl⟩, hne, wounded, zero, hbears, hzero⟩
    obtain ⟨earlier, remains, hearlier⟩ := hworn hits
    obtain ⟨rfl, rfl⟩ := hearlier.unique hbears
    have hdead := hearlier.dead_iff.2 ⟨hne, Amount.le_of_beq hzero⟩
    obtain ⟨rfl, -⟩ := (hearlier.append_of_dead hdead more).unique h.toBears
    exact hdead

/-- Hits by any amounts, of a living character whose script of deaths leaves everything as it is, lower
its vitality by the part of the amount above zero, but not below zero. It is dead from the first hit on
after which vitality is zero, when the script is called once and for all, and from then on hits change
nothing. No record changes but that of vitality and what derives from it. -/
theorem damage_lowers_and_kills (hdeath : start.context.callbacks.death = some callback)
    (hidle : ∀ history entity, callback history entity = entity)
    (hbeing : start.entity.being? = some origin) (halive : origin.lifecycle = .alive) {hp : Float}
    (hhp : origin.base? .hp = some hp) (hnonneg : 0.0 ≤ hp)
    (haccepted : origin.attributes.registry.Accepted) (amounts : List Float) :
    ∃ being left, start.Bears amounts being left ∧ 0.0 ≤ left ∧
      (being.lifecycle = .dead ↔ ∃ hits, hits <+: amounts ∧ hits ≠ [] ∧
        ∃ wounded zero, start.Bears hits wounded zero ∧ (zero == 0.0) = true) ∧
      (∀ id, id ≠ .hp → ¬ Relation.TransGen origin.attributes.registry.Reads id .hp →
        being.attributes.get? id = origin.attributes.get? id) ∧
      ∀ amount, ∃ later less, start.Bears (amounts ++ [amount]) later less ∧ less ≤ left ∧
        (amount.isNaN = true ∨ amount ≤ 0.0 → (less == left) = true) ∧
        (being.lifecycle = .alive → less = Amount.remaining left amount) ∧
        (being.lifecycle = .dead → later = being) := by
  have hworn := exists_worn hdeath hidle hbeing halive hhp hnonneg
  obtain ⟨being, left, h⟩ := hworn amounts
  refine ⟨being, left, h.toBears, h.nonneg, h.dead_iff_exists_prefix hworn, ?_,
    h.exists_concat hdeath hidle⟩
  intro id hne hreads
  exact h.others id hne (mt haccepted.coherent.mem_dependents_iff.1 hreads)

/-- Hits that are survived, one by no number and one by less than nothing, and one that is not. -/
def sampleHits : List Float := [40.0, 0.0 / 0.0, -5.0, 1000.0]

/-- A newborn character dies of the fourth hit, and nothing that follows changes its being. -/
theorem damage_lowers_and_kills_of_sample : ∃ start rest being left,
    (sampleBirth { death := some fun _ entity => entity }).result = .ok (.ok start, rest) ∧
      start.Bears sampleHits being left ∧ being.lifecycle = .dead ∧ 0.0 ≤ left ∧
      ∀ amount, ∃ less, start.Bears (sampleHits ++ [amount]) being less := by
  have hview : (born? (sampleBirth { death := some fun _ entity => entity })).map (fun start =>
      (start.lifecycle?, (start.entity.being?.bind (·.base? .hp)).map fun hp => decide (0.0 ≤ hp),
        Effect.calls (start.struck sampleHits).effects)) =
          some (some .alive, some true, [(.death, ⟨1⟩)]) := by
    decide +kernel
  obtain ⟨start, hstart, hview⟩ := Option.map_eq_some_iff.1 hview
  obtain ⟨hlifecycle, hview⟩ := Prod.mk.inj hview
  obtain ⟨hvitality, hcalls⟩ := Prod.mk.inj hview
  obtain ⟨rest, hborn⟩ := exists_of_born hstart
  obtain ⟨origin, hbeing, halive⟩ := Option.map_eq_some_iff.1 hlifecycle
  obtain ⟨hp, hhp, hnonneg⟩ := Option.map_eq_some_iff.1 hvitality
  rw [hbeing] at hhp
  obtain ⟨_, _, _, _, -, hread, rfl⟩ := ofMessage_ensures.result _ hborn start rfl
  have hregistry : origin.attributes.registry = .sample :=
    (fresh_newborn Load.proper_standard AttributeRegistry.sample_accepted.coherent hread hbeing).1
  obtain ⟨being, left, hbears, hleft, -, -, hnext⟩ :=
    damage_lowers_and_kills rfl (fun _ _ => rfl) hbeing halive hhp (of_decide_eq_true hnonneg)
      (hregistry ▸ AttributeRegistry.sample_accepted) sampleHits
  have hdead : being.lifecycle = .dead := by
    cases hfinal : being.lifecycle with
    | dead => rfl
    | alive =>
      rw [hbears.struck_eq, hfinal] at hcalls
      cases hcalls
  refine ⟨_, rest, being, left, hborn, hbears, hdead, hleft, fun amount => ?_⟩
  obtain ⟨later, less, hlater, -, -, -, hsame⟩ := hnext amount
  exact ⟨less, hsame hdead ▸ hlater⟩

end Character

end CharacterSim
