import CharacterSim.Effect

/-! Reasoning about steps: what a step ensures of its effects, of its result and of the mistakes that
stop it, composed along the order in which things happen. -/

namespace CharacterSim.Step

variable {α β : Type} {allowed : Effect → Prop} {mistake : Fault → Prop} {post : α → Prop}

/-- Every effect is allowed, the step is stopped by no other mistake, and a result is as promised. -/
structure Ensures (step : Step α) (allowed : Effect → Prop) (mistake : Fault → Prop)
    (post : α → Prop) : Prop where
  effects : ∀ effect ∈ step.effects, allowed effect
  faults : ∀ fault, step.result = .error fault → mistake fault
  result : ∀ value, step.result = .ok value → post value

theorem Ensures.imp {step : Step α} (h : step.Ensures allowed mistake post)
    {weaker : α → Prop} (hpost : ∀ value, post value → weaker value) :
    step.Ensures allowed mistake weaker :=
  ⟨h.effects, h.faults, fun value hvalue => hpost value (h.result value hvalue)⟩

theorem Ensures.allow {step : Step α} (h : step.Ensures allowed mistake post)
    {more : Effect → Prop} (hallowed : ∀ effect, allowed effect → more effect) :
    step.Ensures more mistake post :=
  ⟨fun effect hmem => hallowed effect (h.effects effect hmem), h.faults, h.result⟩

theorem ensures_ok {effects : List Effect} {value : α}
    (heffects : ∀ effect ∈ effects, allowed effect) (hpost : post value) :
    (⟨effects, .ok value⟩ : Step α).Ensures allowed mistake post where
  effects := heffects
  faults _ hfault := by cases hfault
  result other hother := by
    cases hother
    exact hpost

theorem ensures_pure {value : α} (h : post value) :
    (pure value : Step α).Ensures allowed mistake post :=
  ensures_ok (by simp) h

theorem ensures_fail {fault : Fault} (h : mistake fault) :
    (fail fault : Step α).Ensures allowed mistake post where
  effects := by simp [fail]
  faults other hother := by
    cases hother
    exact h
  result value hvalue := by cases hvalue

theorem Ensures.bind {step : Step α} {next : α → Step β} {last : β → Prop}
    (h : step.Ensures allowed mistake post)
    (hnext : ∀ value, post value → (next value).Ensures allowed mistake last) :
    (step >>= next).Ensures allowed mistake last := by
  cases hresult : step.result with
  | error fault =>
    rw [bind_of_error hresult]
    refine ⟨h.effects, fun other hother => ?_, fun value hvalue => by cases hvalue⟩
    cases hother
    exact h.faults fault hresult
  | ok value =>
    obtain ⟨heffects, hfaults, hlast⟩ := hnext value (h.result value hresult)
    rw [bind_of_ok hresult]
    refine ⟨fun effect hmem => ?_, hfaults, hlast⟩
    rcases List.mem_append.1 hmem with hmem | hmem
    · exact h.effects effect hmem
    · exact heffects effect hmem

/-- What a sequence ensures, its first step ensures, and leads to what ensures the rest. -/
theorem Ensures.of_bind {step : Step α} {next : α → Step β} {last : β → Prop}
    (h : (step >>= next).Ensures allowed mistake last) :
    step.Ensures allowed mistake fun value => (next value).Ensures allowed mistake last := by
  cases hresult : step.result with
  | error fault =>
    rw [bind_of_error hresult] at h
    refine ⟨h.effects, fun other hother => ?_, fun value hvalue => ?_⟩
    · cases hresult.symm.trans hother
      exact h.faults fault rfl
    · cases hresult.symm.trans hvalue
  | ok middle =>
    rw [bind_of_ok hresult] at h
    refine ⟨fun effect hmem => h.effects effect (List.mem_append_left _ hmem), fun other hother => ?_,
      fun value hvalue => ?_⟩
    · cases hresult.symm.trans hother
    · cases hresult.symm.trans hvalue
      exact ⟨fun effect hmem => h.effects effect (List.mem_append_right _ hmem), h.faults, h.result⟩

theorem Ensures.result_eq {step : Step α} (h : step.Ensures allowed mistake post) :
    step.Ensures allowed mistake fun value => post value ∧ step.result = .ok value :=
  ⟨h.effects, h.faults, fun value hvalue => ⟨h.result value hvalue, hvalue⟩⟩

/-- A step that no mistake stops has a result. -/
theorem Ensures.exists_ok {step : Step α} (h : step.Ensures allowed (fun _ => False) post) :
    ∃ value, step.result = .ok value ∧ post value := by
  cases hresult : step.result with
  | error fault => exact (h.faults fault hresult).elim
  | ok value => exact ⟨value, rfl, h.result value hresult⟩

theorem Ensures.anyEffects {step : Step α} (h : step.Ensures allowed mistake post) :
    step.Ensures (fun _ => True) mistake post :=
  h.allow fun _ _ => trivial

/-- What a step requested is among its effects. -/
theorem Ensures.withRequests {step : Step α} (h : step.Ensures allowed mistake post) :
    step.withRequests.Ensures allowed mistake fun answer =>
      post answer.1 ∧ ∀ request ∈ answer.2, allowed (.requested request) := by
  obtain ⟨effects, result⟩ := step
  cases result with
  | error fault =>
    refine ⟨h.effects, fun other hother => ?_, fun _ hvalue => by cases hvalue⟩
    cases hother
    exact h.faults fault rfl
  | ok value =>
    refine ensures_ok h.effects ⟨h.result value rfl, fun request hmem => ?_⟩
    obtain ⟨effect, heffect, hrequest⟩ := List.mem_filterMap.1 hmem
    cases effect with
    | requested other =>
      cases hrequest
      exact h.effects _ heffect
    | _ => cases hrequest

theorem result_of_withRequests {step : Step α} {value : α} {requests : List WorldRequest}
    (h : step.withRequests.result = .ok (value, requests)) : step.result = .ok value := by
  obtain ⟨effects, result⟩ := step
  cases result with
  | error fault => cases h
  | ok other =>
    cases h
    rfl

/-- The rule of loops. The invariant may depend on what is still to be done. -/
theorem ensures_foldlM {operation : β → α → Step β} {motive : List α → β → Prop}
    (hstep : ∀ item rest state, motive (item :: rest) state →
      (operation state item).Ensures allowed mistake (motive rest))
    {items : List α} {state : β} (h : motive items state) :
    (items.foldlM operation state).Ensures allowed mistake (motive []) := by
  induction items generalizing state with
  | nil => exact ensures_pure h
  | cons item rest ih =>
    rw [List.foldlM_cons]
    exact (hstep item rest state h).bind fun _ hnext => ih hnext

/-- Nothing is ensured of any step. -/
theorem ensures_trivial {step : Step α} :
    step.Ensures (fun _ => True) (fun _ => True) fun _ => True :=
  ⟨fun _ _ => trivial, fun _ _ => trivial, fun _ _ => trivial⟩

/-! ### Steps in sequence -/

@[simp] theorem emit_bind (effects : List Effect) (next : Unit → Step β) :
    emit effects >>= next = ⟨effects ++ (next ()).effects, (next ()).result⟩ :=
  bind_of_ok rfl next

@[simp] theorem require_some (kind : ComponentKind) (component : α) :
    require kind (some component) = pure component := rfl

theorem effects_bind_pure (step : Step α) (last : α → β) :
    (step >>= fun value => pure (last value)).effects = step.effects := by
  cases hresult : step.result with
  | error fault => rw [bind_of_error hresult]
  | ok value => rw [bind_of_ok hresult, effects_pure, List.append_nil]

/-- A sequence that succeeds consists of steps that do, its effects of theirs. -/
theorem bind_eq_ok {step : Step α} {next : α → Step β} {value : β}
    (h : (step >>= next).result = .ok value) : ∃ middle, step.result = .ok middle ∧
      (next middle).result = .ok value ∧
      (step >>= next).effects = step.effects ++ (next middle).effects := by
  cases hresult : step.result with
  | error fault =>
    rw [bind_of_error hresult] at h
    cases h
  | ok middle =>
    rw [bind_of_ok hresult] at h ⊢
    exact ⟨middle, rfl, h, rfl⟩

/-- Steps that succeed one after the other succeed in sequence. -/
theorem result_bind_of_ok {step : Step α} {next : α → Step β} {middle : α} {value : β}
    (h : step.result = .ok middle) (hnext : (next middle).result = .ok value) :
    (step >>= next).result = .ok value := by
  rw [bind_of_ok h]
  exact hnext

/-- A sequence whose last step does nothing but answer. -/
theorem bind_eq_of_pure {step : Step α} {next : α → Step β} {effects : List Effect} {middle : α}
    {value : β} (h : step = ⟨effects, .ok middle⟩) (hnext : next middle = pure value) :
    step >>= next = ⟨effects, .ok value⟩ := by
  rw [h, bind_of_ok rfl, hnext, effects_pure, List.append_nil]
  rfl

/-- The effects of a loop that comes to its end, if those of an item are the same in every state. -/
theorem effects_foldlM {operation : β → α → Step β} {effects : α → List Effect}
    (hitem : ∀ state item next, (operation state item).result = .ok next →
      (operation state item).effects = effects item)
    {items : List α} {state last : β} (h : (items.foldlM operation state).result = .ok last) :
    (items.foldlM operation state).effects = items.flatMap effects := by
  induction items generalizing state with
  | nil => rfl
  | cons item rest ih =>
    rw [List.foldlM_cons] at h ⊢
    obtain ⟨next, hnext, hlast, heffects⟩ := bind_eq_ok h
    rw [heffects, hitem state item next hnext, ih hlast, List.flatMap_cons]

end CharacterSim.Step
