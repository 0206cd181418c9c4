import CharacterSim.Proofs.Attribute.Freshness

/-! What a source of modifiers leaves behind when it is withdrawn. A store without stale values is
determined by its bases and modifiers, and an operation on attributes that are carried acts on each base
and on each stack of modifiers by itself, so a run can be followed one attribute at a time. -/

namespace CharacterSim

namespace ModifierStack

variable {stack : ModifierStack} {source other : ModifierSource}

theorem withdraw_of_not_hasSource (h : stack.hasSource source = false) :
    stack.withdraw source = stack := by
  have hkept : ∀ entry ∈ stack.entries, (entry.1 != source) = true := by
    intro entry hmem
    rw [bne_iff_ne]
    intro heq
    have hany : stack.hasSource source = true :=
      List.any_eq_true.2 ⟨entry, hmem, beq_iff_eq.2 heq⟩
    rw [h] at hany
    cases hany
  rw [withdraw, List.filter_eq_self.2 hkept]

@[simp] theorem withdraw_empty : empty.withdraw source = empty := rfl

@[simp] theorem withdraw_withdraw : (stack.withdraw source).withdraw source = stack.withdraw source := by
  simp [withdraw, List.filter_filter]

theorem withdraw_comm :
    (stack.withdraw other).withdraw source = (stack.withdraw source).withdraw other := by
  simp only [withdraw, List.filter_filter, Bool.and_comm]

@[simp] theorem withdraw_add_self (modifier : Modifier) :
    (stack.add source modifier).withdraw source = stack.withdraw source := by
  simp [withdraw, add]

theorem withdraw_add_of_ne (h : other ≠ source) (modifier : Modifier) :
    (stack.add other modifier).withdraw source = (stack.withdraw source).add other modifier := by
  simp [withdraw, add, h]

end ModifierStack

namespace AttributeStore

variable {store first second : AttributeStore} {id target : AttributeId} {source : ModifierSource}
  {operation : Operation} {operations : List Operation}

/-- The base and the modifiers of an attribute that is carried. -/
def inputs? (store : AttributeStore) (id : AttributeId) : Option (Float × ModifierStack) :=
  (store.get? id).map fun record => (record.base, record.modifiers)

theorem base?_eq_of_inputs?_eq (h : first.inputs? id = second.inputs? id) :
    first.base? id = second.base? id := by
  have hfirst := congrArg (Option.map Prod.fst) h
  rwa [inputs?, inputs?, Option.map_map, Option.map_map] at hfirst

/-- Without stale values a store is its bases and modifiers. -/
theorem Fresh.ext (hfirst : first.Fresh) (hsecond : second.Fresh)
    (hregistry : first.registry = second.registry)
    (hinputs : ∀ id, first.inputs? id = second.inputs? id) : first = second := by
  refine ext_get? hregistry fun id => ?_
  have hsame := hinputs id
  rw [inputs?, inputs?] at hsame
  cases hget : first.get? id with
  | none =>
    rw [hget, Option.map_none] at hsame
    exact (Option.map_eq_none_iff.1 hsame.symm).symm
  | some record =>
    rw [hget, Option.map_some] at hsame
    obtain ⟨twin, htwin, hpair⟩ := Option.map_eq_some_iff.1 hsame.symm
    obtain ⟨hbase, hmodifiers⟩ := Prod.mk.inj hpair
    obtain ⟨info, hinfo, -⟩ := hfirst id record hget
    have hvalue : twin.modified = record.modified := by
      rw [hfirst.eq_freshValue hget hinfo, hsecond.eq_freshValue htwin (hregistry ▸ hinfo),
        freshValue_congr fun source _ => base?_eq_of_inputs?_eq (hinputs source), freshValue,
        freshValue, hbase, hmodifiers]
    rw [htwin]
    obtain ⟨base, modified, modifiers⟩ := record
    obtain ⟨base', modified', modifiers'⟩ := twin
    cases hbase
    cases hmodifiers
    cases hvalue
    rfl

/-! ### Bases and modifiers after an operation -/

@[simp] theorem modifiers_refreshed (record : AttributeRecord) :
    (store.refreshed id record).modifiers = record.modifiers := by
  unfold refreshed
  split <;> rfl

@[simp] theorem inputs?_recalculateEach (ids : List AttributeId) :
    (store.recalculateEach ids).inputs? id = store.inputs? id := by
  rw [inputs?, inputs?, get?_recalculateEach]
  split
  · cases store.get? id <;> simp
  · rfl

/-- Putting a record in place of another changes its base and modifiers only. -/
theorem inputs?_put {record changed : AttributeRecord}
    {change : Float × ModifierStack → Float × ModifierStack} (hget : store.get? target = some record)
    (hchange : change (record.base, record.modifiers) = (changed.base, changed.modifiers)) :
    (store.put target changed).inputs? id =
      (store.inputs? id).map fun inputs => if id = target then change inputs else inputs := by
  by_cases heq : id = target
  · subst heq
    simp [inputs?, get?_put, hget, hchange]
  · simp [inputs?, get?_put, heq, Function.comp_def]

/-- A store that is left alone agrees with a change that would have left its record alone. -/
theorem inputs?_eq_map {change : Float × ModifierStack → Float × ModifierStack}
    (hchange : ∀ record, store.get? target = some record →
      change (record.base, record.modifiers) = (record.base, record.modifiers)) :
    store.inputs? id =
      (store.inputs? id).map fun inputs => if id = target then change inputs else inputs := by
  by_cases heq : id = target
  · subst heq
    cases hget : store.get? id with
    | none => simp [inputs?, hget]
    | some record => simp [inputs?, hget, hchange record hget]
  · simp [heq]

namespace Operation

/-- What the operation does to the base and the modifiers of a carried attribute. -/
def act (id : AttributeId) : Operation → Float × ModifierStack → Float × ModifierStack
  | setBase target value, inputs => if id = target then (value, inputs.2) else inputs
  | addModifier target source modifier, inputs =>
    if id = target then (inputs.1, inputs.2.add source modifier) else inputs
  | removeModifier target source, inputs =>
    if id = target then (inputs.1, inputs.2.withdraw source) else inputs
  | _, inputs => inputs

/-- The operation attaches or withdraws modifiers of the source. -/
def isOf (source : ModifierSource) : Operation → Bool
  | addModifier _ other _ => other == source
  | removeModifier _ other => other == source
  | _ => false

/-- The operation does not make the entity carry another attribute. -/
def Adjusts : Operation → Prop
  | create .. => False
  | _ => True

end Operation

/-- Each operation acts on every base and every stack of modifiers by itself. -/
theorem inputs?_perform (h : operation.Adjusts) :
    (store.perform operation).inputs? id = (store.inputs? id).map (operation.act id) := by
  cases operation with
  | create id base => exact h.elim
  | setBase target value =>
    rw [perform]
    cases hget : store.get? target with
    | none =>
      rw [setBase_of_none hget]
      exact inputs?_eq_map fun record hrecord => by simp [hget] at hrecord
    | some record =>
      rw [setBase_of_some hget, inputs?_recalculateEach]
      exact inputs?_put hget rfl
  | recalculate target => exact (inputs?_recalculateEach [target]).trans Option.map_id'.symm
  | recalculateAll => exact (inputs?_recalculateEach _).trans Option.map_id'.symm
  | addModifier target source modifier =>
    rw [perform, AttributeStore.addModifier]
    split
    · next hget => exact inputs?_eq_map fun record hrecord => by simp [hget] at hrecord
    · next record hget =>
      rw [setModifiers_eq, inputs?_recalculateEach]
      exact inputs?_put hget rfl
  | removeModifier target source =>
    rw [perform, AttributeStore.removeModifier]
    split
    · next hget => exact inputs?_eq_map fun record hrecord => by simp [hget] at hrecord
    · next record hget =>
      split
      · rw [setModifiers_eq, inputs?_recalculateEach]
        exact inputs?_put hget rfl
      · next hsource =>
        refine inputs?_eq_map fun found hfound => ?_
        obtain rfl := Option.some.inj (hget.symm.trans hfound)
        rw [ModifierStack.withdraw_of_not_hasSource (Bool.eq_false_iff.2 hsource)]

theorem inputs?_performAll (h : ∀ operation ∈ operations, operation.Adjusts) :
    (store.performAll operations).inputs? id = (store.inputs? id).map fun inputs =>
      operations.foldl (fun inputs operation => operation.act id inputs) inputs := by
  induction operations generalizing store with
  | nil => exact Option.map_id'.symm
  | cons operation rest ih =>
    obtain ⟨hfirst, hrest⟩ := List.forall_mem_cons.1 h
    rw [performAll, List.foldl_cons, ← performAll, ih hrest, inputs?_perform hfirst, Option.map_map]
    rfl

theorem Fresh.performAll (h : store.Fresh) (hcoherent : store.registry.Coherent)
    (hadjusts : ∀ operation ∈ operations, operation.Adjusts) :
    (store.performAll operations).Fresh := by
  induction operations generalizing store with
  | nil => exact h
  | cons operation rest ih =>
    obtain ⟨hfirst, hrest⟩ := List.forall_mem_cons.1 hadjusts
    refine ih ((h.perform_iff hcoherent operation).2 ?_)
      ((registry_perform operation).symm ▸ hcoherent) hrest
    rintro id base rfl
    exact hfirst.elim

/-! ### A run without one of its sources -/

/-- A base and modifiers without those of a source. -/
def without (source : ModifierSource) (inputs : Float × ModifierStack) : Float × ModifierStack :=
  (inputs.1, inputs.2.withdraw source)

/-- What a source adds or withdraws is gone when the source is withdrawn. -/
theorem without_act_of_isOf (h : operation.isOf source = true) (inputs : Float × ModifierStack) :
    without source (operation.act id inputs) = without source inputs := by
  cases operation with
  | addModifier target other modifier =>
    obtain rfl : other = source := beq_iff_eq.1 h
    simp only [Operation.act]
    split
    · simp [without]
    · rfl
  | removeModifier target other =>
    obtain rfl : other = source := beq_iff_eq.1 h
    simp only [Operation.act]
    split
    · simp [without]
    · rfl
  | create | setBase | recalculate | recalculateAll => cases h

/-- What does not come from the source goes its way, whether the source is withdrawn before or after. -/
theorem without_act_of_not_isOf (h : operation.isOf source = false)
    (inputs : Float × ModifierStack) :
    without source (operation.act id inputs) = operation.act id (without source inputs) := by
  cases operation with
  | setBase target value =>
    simp only [Operation.act]
    split <;> rfl
  | addModifier target other modifier =>
    have hne : other ≠ source := ne_of_beq_false h
    simp only [Operation.act]
    split
    · rw [without, ModifierStack.withdraw_add_of_ne hne, without]
    · rfl
  | removeModifier target other =>
    simp only [Operation.act]
    split
    · rw [without, ModifierStack.withdraw_comm, without]
    · rfl
  | create | recalculate | recalculateAll => rfl

theorem without_foldl_act (inputs : Float × ModifierStack) :
    without source (operations.foldl (fun inputs operation => operation.act id inputs) inputs) =
      (operations.filter (!·.isOf source)).foldl (fun inputs operation => operation.act id inputs)
        (without source inputs) := by
  induction operations generalizing inputs with
  | nil => rfl
  | cons operation rest ih =>
    rw [List.foldl_cons, ih]
    cases h : operation.isOf source with
    | true =>
      rw [without_act_of_isOf h, List.filter_cons_of_neg (by simp [h])]
    | false =>
      rw [without_act_of_not_isOf h, List.filter_cons_of_pos (by simp [h]), List.foldl_cons]

/-- Withdrawing a source from every listed attribute. -/
def withdrawals (ids : List AttributeId) (source : ModifierSource) : List Operation :=
  ids.map fun id => .removeModifier id source

theorem foldl_act_withdrawals (ids : List AttributeId) (inputs : Float × ModifierStack) :
    (withdrawals ids source).foldl (fun inputs operation => operation.act id inputs) inputs =
      if id ∈ ids then without source inputs else inputs := by
  induction ids generalizing inputs with
  | nil => rfl
  | cons first rest ih =>
    have hstep : (withdrawals (first :: rest) source).foldl
        (fun inputs operation => operation.act id inputs) inputs =
        (withdrawals rest source).foldl (fun inputs operation => operation.act id inputs)
          (if id = first then without source inputs else inputs) := rfl
    rw [hstep, ih]
    by_cases hfirst : id = first
    · -- to withdraw the source once more changes nothing
      simp [hfirst, without]
    · simp [hfirst]

/-- An entity begins without modifiers. -/
theorem without_of_forScope {registry : AttributeRegistry} (h : registry.Coherent)
    {scopes : ScopeSet} {inputs : Float × ModifierStack}
    (hinputs : (forScope registry scopes).inputs? id = some inputs) :
    without source inputs = inputs := by
  rw [forScope_eq, recalculateAll, inputs?_recalculateEach] at hinputs
  obtain ⟨record, hget, rfl⟩ := Option.map_eq_some_iff.1 hinputs
  obtain ⟨info, -, rfl⟩ := (get?_defaults_eq_some_iff h).1 hget
  rfl

/-- A source that is withdrawn from every carried attribute after a run leaves the store that the run
would have left if the source had never taken part. -/
theorem performAll_withdrawals {registry : AttributeRegistry} (h : registry.Accepted)
    (scopes : ScopeSet) (source : ModifierSource) {operations : List Operation}
    (hcarried : ∀ id base, .create id base ∉ operations) {ids : List AttributeId}
    (hids : ((forScope registry scopes).performAll operations).ids ⊆ ids) :
    (forScope registry scopes).performAll (operations ++ withdrawals ids source) =
      (forScope registry scopes).performAll (operations.filter (!·.isOf source)) := by
  have hcoherent : (forScope registry scopes).registry.Coherent :=
    Initial.registry_eq (.inr ⟨scopes, rfl⟩) ▸ h.coherent
  have hadjusts : ∀ operation ∈ operations, operation.Adjusts := by
    intro operation hmem
    cases operation with
    | create id base => exact absurd hmem (hcarried id base)
    | setBase | recalculate | recalculateAll | addModifier | removeModifier => trivial
  have hwhole : ∀ operation ∈ operations ++ withdrawals ids source, operation.Adjusts := by
    intro operation hmem
    rcases List.mem_append.1 hmem with hmem | hmem
    · exact hadjusts operation hmem
    · obtain ⟨id, -, rfl⟩ := List.mem_map.1 hmem
      trivial
  have hothers : ∀ operation ∈ operations.filter (!·.isOf source), operation.Adjusts :=
    fun operation hmem => hadjusts operation (List.mem_filter.1 hmem).1
  have hfresh := fresh_forScope h.coherent scopes
  apply (hfresh.performAll hcoherent hwhole).ext (hfresh.performAll hcoherent hothers)
  · rw [registry_performAll, registry_performAll]
  · intro id
    rw [inputs?_performAll hwhole, inputs?_performAll hothers]
    cases hinputs : (forScope registry scopes).inputs? id with
    | none => rfl
    | some inputs =>
      have hid : id ∈ ids := by
        have hend : ((forScope registry scopes).performAll operations).inputs? id = _ :=
          inputs?_performAll hadjusts
        rw [hinputs, Option.map_some] at hend
        obtain ⟨record, hget, -⟩ := Option.map_eq_some_iff.1 hend
        exact hids (mem_ids_iff.2 ⟨record, hget⟩)
      rw [Option.map_some, Option.map_some, List.foldl_append, foldl_act_withdrawals, if_pos hid,
        without_foldl_act, without_of_forScope h.coherent hinputs]

/-- Source 7 acts on both attributes before source 8 does, and is withdrawn. -/
theorem performAll_withdrawals_of_sample :
    (forScope .sample .character).performAll
        ([.addModifier ⟨1⟩ ⟨7⟩ (.flat 3.0), .addModifier .maxHp ⟨7⟩ (.more 10.0),
          .addModifier .maxHp ⟨8⟩ (.more 50.0), .setBase ⟨1⟩ 6.0] ++
            withdrawals [⟨1⟩, .hp, .maxHp] ⟨7⟩) =
      (forScope .sample .character).performAll
        [.addModifier .maxHp ⟨8⟩ (.more 50.0), .setBase ⟨1⟩ 6.0] ∧
    ((forScope .sample .character).performAll
      [.addModifier .maxHp ⟨8⟩ (.more 50.0), .setBase ⟨1⟩ 6.0]).modified? .maxHp = some 153.0 :=
  ⟨performAll_withdrawals AttributeRegistry.sample_accepted .character ⟨7⟩ (by simp)
    (by decide +kernel), by decide +kernel⟩

end AttributeStore

end CharacterSim
