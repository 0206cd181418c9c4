import CharacterSim.Proofs.Character.Reports
import CharacterSim.Proofs.Server.Separation

/-! How a simulated character keeps the account server informed. From its construction on, every
attribute that has other values than at the start either awaits the next report or was last reported
as it is; and at the end of a tick nothing awaits a report. -/

namespace CharacterSim.Character

variable {start character before after : Character} {effects more : List Effect}
  {entity : EntityId} {id : AttributeId} {operation : Operation}

/-- A character about which the account server knows, after some effects, all but what awaits the next
report. -/
structure Reporting (start : Character) (effects : List Effect) (now : Character) : Prop where
  intact : now.Intact
  fresh : now.Fresh
  databaseId : now.databaseId = start.databaseId
  known : ∀ id, now.Pending id ∨ Kept start effects now id

theorem Reporting.kept (h : Reporting start effects character) (hquiet : ¬ character.Pending id) :
    Kept start effects character id :=
  (h.known id).resolve_left hquiet

/-- By these effects a character that becomes another keeps the account server informed. -/
def Informs (before : Character) (effects : List Effect) (after : Character) : Prop :=
  ∀ start earlier, Reporting start earlier before → Reporting start (earlier ++ effects) after

theorem Informs.trans {last : Character} (h : before.Informs effects after)
    (hlast : after.Informs more last) : before.Informs (effects ++ more) last := by
  intro start earlier hreporting
  rw [← List.append_assoc]
  exact hlast start _ (h start earlier hreporting)

/-- Where the being stays as it is there is nothing to report. -/
theorem informs_of_being?_eq (hbeing : after.entity.being? = before.entity.being?)
    (hkeeps : before.Intact → after.Intact ∧ after.databaseId = before.databaseId)
    (hquiet : ∀ effect ∈ effects, effect.Quiet) : before.Informs effects after := by
  intro start earlier h
  have hvalues : after.values? = before.values? := by
    funext id
    rw [values?, hbeing, values?]
  obtain ⟨hintact, hid⟩ := hkeeps h.intact
  refine ⟨hintact, ?_, hid.trans h.databaseId, fun id => ?_⟩
  · intro being hheld
    exact h.fresh being (hbeing.symm.trans hheld)
  · rw [Pending, hbeing, Kept, hvalues, Effect.lastReport_append,
      Effect.lastReport_of_quiet hquiet, Option.none_or]
    exact h.known id

theorem informs_of_quiet (hquiet : ∀ effect ∈ effects, effect.Quiet) :
    character.Informs effects character :=
  informs_of_being?_eq rfl (fun hintact => ⟨hintact, rfl⟩) hquiet

/-- Every operation that keeps the client informs the account server, but the marking of all
attributes. -/
theorem informs_perform (operation : Operation) (hgentle : operation.Gentle)
    (hmarks : operation ≠ .modifiedAllAttributes) (hafter : (before.perform operation).result = .ok after) :
    before.Informs (before.perform operation).effects after := by
  intro start earlier h
  obtain ⟨hfresh, hid⟩ := h.fresh.perform h.intact hgentle hafter
  refine ⟨h.intact.perform_intact hgentle hafter, hfresh, hid.trans h.databaseId, fun id => ?_⟩
  by_cases hpending : after.Pending id
  · exact .inl hpending
  · right
    intro base modified hvalue hchanged
    rw [Effect.lastReport_append]
    rcases h.fresh.values?_eq h.intact hgentle hafter hpending with
      ⟨hvalues, hreport, hforgot⟩ | ⟨hvalues, -, -, hreport⟩
    · have hwas : ¬ before.Pending id := fun hwas => hmarks (hforgot hwas)
      rw [hreport, Option.none_or]
      exact h.kept hwas base modified (hvalues ▸ hvalue) hchanged
    · rw [hreport, ← hvalues, hvalue, Option.map_some, Option.some_or, report, h.databaseId]

/-- An operation that takes note of changes leaves none that awaits it. -/
theorem not_pending_of_drains (hcomplete : before.entity.Complete) (hdrains : operation.Drains)
    (hafter : (before.perform operation).result = .ok after) : ¬ after.Pending id := by
  obtain ⟨being, hbeing⟩ := hcomplete.being
  obtain ⟨abilities, habilities⟩ := hcomplete.abilities
  rw [perform_of_drains hdrains hbeing habilities] at hafter
  cases hafter
  rw [pending_iff being?_drained]
  exact Being.not_mem_changed_clearChanged

/-! ### Demands -/

theorem informs_respawn {answer : Except LifecycleError Unit}
    (hresult : character.respawn.result = .ok (after, answer)) :
    character.Informs character.respawn.effects after := by
  have hperform : (character.perform .respawn).result = .ok after := by
    rw [perform, Step.bind_of_ok hresult]
    rfl
  have hinforms := informs_perform .respawn trivial Operation.noConfusion hperform
  rwa [perform, Step.effects_bind_pure] at hinforms

/-- The loss of the client is no loss to the account server. -/
theorem informs_disconnected {alive : SessionId → Bool} {outcome : Disconnect}
    (hresult : (character.disconnected alive).result = .ok (after, outcome)) :
    character.Informs (character.disconnected alive).effects after := by
  have hdetaches : character.Informs []
      { character with connected := false, client := none, dialogue := none } := by
    refine informs_of_being?_eq rfl (fun hintact => ⟨?_, rfl⟩) (fun _ hmem => by cases hmem)
    exact ⟨hintact.complete, hintact.callbacks, fun _ hnone => by cases hnone⟩
  rw [disconnected] at hresult ⊢
  obtain ⟨cancelled, hcancelled, hrest, heffects⟩ := Step.bind_eq_ok hresult
  rw [heffects]
  refine hdetaches.trans ((informs_perform (.cancelTransaction alive) trivial
    Operation.noConfusion hcancelled).trans ?_)
  cases hbeing : cancelled.entity.being? with
  | none =>
    rw [isDead, requireBeing, hbeing] at hrest
    cases hrest
  | some being =>
    rw [isDead, requireBeing_eq hbeing, pure_bind, pure_bind] at hrest ⊢
    by_cases hdead : being.isDead = true
    · rw [if_pos hdead] at hrest ⊢
      obtain ⟨result, hrespawn, hlast, -⟩ := Step.bind_eq_ok hrest
      cases hlast
      rw [Step.effects_bind_pure]
      exact informs_respawn hrespawn
    · rw [if_neg hdead, Step.emit_bind] at hrest ⊢
      cases hrest
      exact informs_of_quiet (by simp [Effect.Quiet])

theorem informs_damaged {amount : Float}
    (hresult : (character.applyDamage amount).result = .ok after) :
    character.Informs (character.applyDamage amount).effects after :=
  informs_perform (.applyDamage amount) trivial Operation.noConfusion hresult

/-! ### Ticks -/

theorem informs_turn {elapsed : Duration}
    (hresult : (character.turn elapsed).result = .ok after) :
    character.Informs (character.turn elapsed).effects after := by
  rw [turn] at hresult ⊢
  obtain ⟨ticked, hticked, hrest, heffects⟩ := Step.bind_eq_ok hresult
  obtain ⟨updated, hupdated, hsent, hmore⟩ := Step.bind_eq_ok hrest
  rw [heffects, hmore]
  have htick := informs_perform (.tick elapsed) trivial Operation.noConfusion hticked
  have hupdate := informs_perform .update trivial Operation.noConfusion hupdated
  have hsend := informs_perform .sendStatus trivial Operation.noConfusion hsent
  exact htick.trans (hupdate.trans hsend)

/-- At the end of its turn nothing of a character awaits a report. -/
theorem not_pending_of_turn {elapsed : Duration} {context : CharacterContext}
    (hwhole : character.Whole entity context)
    (hresult : (character.turn elapsed).result = .ok after) : ¬ after.Pending id := by
  rw [turn] at hresult
  obtain ⟨ticked, hticked, hrest, -⟩ := Step.bind_eq_ok hresult
  obtain ⟨updated, hupdated, hsent, -⟩ := Step.bind_eq_ok hrest
  have htick : (character.tick elapsed).Ensures _ (fun _ => False) (Whole entity context) :=
    hwhole.tick_ensures elapsed
  have hupdate : (ticked.perform .update).Ensures _ (fun _ => False) (Whole entity context) :=
    (htick.result ticked hticked).drain_ensures .update
  exact not_pending_of_drains (hupdate.result updated hupdated).complete .sendStatus hsent

theorem being?_landed (warps : List Warp) :
    (character.landed entity warps).entity.being? = character.entity.being? := by
  refine landed_induction (motive := fun later => later.entity.being? = character.entity.being?)
    warps rfl ?_
  intro later warp heq
  rw [← heq, movedTo]
  split
  · rfl
  · rfl

/-- Warps are none of the account server's business. -/
theorem informs_landed (entity : EntityId) (warps : List Warp) :
    character.Informs [] (character.landed entity warps) := by
  refine informs_of_being?_eq (being?_landed warps) (fun hintact => ?_) (fun _ hmem => by cases hmem)
  have hsteady : character.Steady (character.landed entity warps) := hintact.steady_landed warps
  exact ⟨hsteady.intact, hsteady.databaseId⟩

theorem pending_landed (warps : List Warp) :
    (character.landed entity warps).Pending id ↔ character.Pending id := by
  rw [Pending, being?_landed, Pending]

/-! ### Construction -/

/-- Nothing is reported of a character that is made from a login message, and nothing awaits it: what
the message said is what the account server knows. -/
theorem reporting_of_ofMessage {context : CharacterContext} {format : Load Unit}
    {client : Option ClientId} {message rest : Cursor} (hcatalog : context.registry.Accepted)
    (hformat : format.Proper) (hcallbacks : context.callbacks.Gentle)
    (hborn : (ofMessage entity context format client message).result = .ok (.ok start, rest)) :
    (∀ effect ∈ (ofMessage entity context format client message).effects, effect.Quiet) ∧
      start.context = context ∧ Reporting start [] start := by
  have hensures : (ofMessage entity context format client message).Ensures _ _ _ :=
    ofMessage_ensures
  obtain ⟨databaseId, name, cursor, state, -, hrun, rfl⟩ := hensures.result _ hborn start rfl
  refine ⟨fun effect hmem => ?_, rfl, intact_newborn hcallbacks, ?_, rfl, fun id => .inr ?_⟩
  · obtain ⟨event, rfl⟩ := hensures.effects effect hmem
    trivial
  · intro being hbeing
    obtain ⟨hregistry, hstore⟩ := fresh_newborn hformat hcatalog.coherent hrun hbeing
    exact ⟨hregistry.symm ▸ hcatalog.coherent, hstore⟩
  · intro base modified hvalue hchanged
    exact absurd hvalue hchanged

end CharacterSim.Character
