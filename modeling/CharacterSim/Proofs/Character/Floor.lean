import CharacterSim.Proofs.Character.Construction
import CharacterSim.Proofs.Character.Spending
import CharacterSim.Proofs.Numeric.Decrement

/-! The floor of corrections. A base at the floor or below is not lowered, but one that is less than a
point above the floor is, and ends up below. -/

namespace CharacterSim.Character

variable {entity : EntityId} {context : CharacterContext} {format : Load Unit}
  {client : Option ClientId} {message rest : Cursor} {start character : Character} {being : Being}
  {operation : Operation} {operations : List Operation}

/-- Bases are moved, by points or by the host. -/
def Operation.Moves : Operation → Prop
  | usePoint _ | useCorrection _ | setBase .. => True
  | _ => False

theorem base?_eq (h : character.entity.being? = some being) (id : AttributeId) :
    (character.base? id).result = .ok (being.base? id) := by
  rw [base?, requireBeing_eq h]
  rfl

/-- A correction is a request of the character's points and being. -/
theorem useCorrection_eq (h : character.entity.being? = some being) (id : AttributeId) :
    let spent := (⟨character.ledger, being⟩ : Spender).spend (.lower id)
    character.useCorrection id =
      pure ({ character.withBeing spent.1.being with ledger := spent.1.ledger }, spent.2) := by
  rw [useCorrection, requireBeing_eq h]
  rfl

/-- Moving bases needs nothing but a being, and leaves one. -/
theorem perform_moves (h : character.entity.being? = some being) (hmoves : operation.Moves) :
    ∃ after moved, (character.perform operation).result = .ok after ∧
      after.entity.being? = some moved := by
  cases operation with
  | usePoint id =>
    rw [perform, usePoint, requireBeing_eq h]
    exact ⟨_, _, rfl, Entity.being?_setBeing _⟩
  | useCorrection id =>
    rw [perform, useCorrection, requireBeing_eq h]
    exact ⟨_, _, rfl, Entity.being?_setBeing _⟩
  | setBase id value =>
    rw [perform, setBase, requireBeing_eq h]
    exact ⟨_, _, rfl, Entity.being?_setBeing _⟩
  | _ => exact hmoves.elim

theorem performAll_moves (h : start.entity.being? = some being)
    (hmoves : ∀ operation ∈ operations, operation.Moves) : ∃ final moved,
      (start.performAll operations).result = .ok final ∧ final.entity.being? = some moved := by
  induction operations generalizing start being with
  | nil => exact ⟨start, being, rfl, h⟩
  | cons operation rest ih =>
    obtain ⟨hfirst, hrest⟩ := List.forall_mem_cons.1 hmoves
    obtain ⟨after, moved, hafter, hbeing⟩ := perform_moves h hfirst
    obtain ⟨final, last, hfinal, hlast⟩ := ih hbeing hrest
    refine ⟨final, last, ?_, hlast⟩
    rw [performAll, List.foldlM_cons, Step.bind_of_ok hafter]
    exact hfinal

/-- Whatever a login brings and however bases are moved, a correction that is then granted takes one
from a base, and leaves it at the floor or above exactly when the base was at least two. -/
theorem floor_kept_iff
    (hborn : (ofMessage entity context format client message).result = .ok (.ok start, rest))
    (hmoves : ∀ operation ∈ operations, operation.Moves) (id : AttributeId) :
    ∃ before after response, (start.performAll operations).result = .ok before ∧
      (before.useCorrection id).result = .ok (after, response) ∧
      (response = .ok → ∃ base, (before.base? id).result = .ok (some base) ∧
        (after.base? id).result = .ok (some (base - 1.0)) ∧
        (ProgressionLedger.correctionFloor ≤ base - 1.0 ↔ 2.0 ≤ base)) := by
  obtain ⟨databaseId, name, cursor, state, -, -, rfl⟩ :=
    ofMessage_ensures.result _ hborn start rfl
  obtain ⟨before, being, hbefore, hbeing⟩ :=
    performAll_moves being?_newborn hmoves
  have hcorrection := useCorrection_eq hbeing id
  refine ⟨before, _, _, hbefore, congrArg Step.result hcorrection, fun hok => ?_⟩
  obtain ⟨base, hbase, -, hspend⟩ := Spender.spend_of_ok hok
  refine ⟨base, ?_, ?_, Amount.one_le_sub_one_iff base⟩
  · rw [base?_eq hbeing]
    exact congrArg Except.ok hbase
  · rw [base?_eq (Entity.being?_setBeing _), hspend]
    have hmoved : (being.setAttribute id (base - 1.0)).1.base? id = some (base - 1.0) := by
      refine (AttributeStore.base?_setBase (base - 1.0)).trans ?_
      rw [if_pos rfl]
      exact congrArg (Option.map fun _ => base - 1.0) hbase
    exact congrArg Except.ok hmoved

/-- The login message of a character with one point of each kind, whose strength is a number of 256th
parts. -/
def strengthLogin (count : List UInt8) : List UInt8 :=
  [0, 0, 0, 7, 0, 0, 0, 0, 0, 1, 0, 1, 0, 1] ++ count ++ [0, 1, 0, 2, 0, 3, 0, 0, 0, 0]

/-- The outcome of a login with some strength. -/
def strengthBirth (count : List UInt8) : Step (Except ConstructionError Character × Cursor) :=
  ofMessage ⟨1⟩ { registry := .sample } Load.standard none (.ofBytes (strengthLogin count))

/-- Strength that the host sets to two is lowered to the floor. -/
theorem floor_kept_of_two : ∃ start rest before after,
    (strengthBirth [0, 0, 1, 128]).result = .ok (.ok start, rest) ∧
    (start.performAll [.setBase ⟨1⟩ 2.0]).result = .ok before ∧
    (before.useCorrection ⟨1⟩).result = .ok (after, .ok) ∧
    (after.base? ⟨1⟩).result = .ok (some (2.0 - 1.0)) ∧
    ProgressionLedger.correctionFloor ≤ 2.0 - 1.0 := by
  have hrun : (born? (strengthBirth [0, 0, 1, 128])).map (fun start => (do
      let before ← start.performAll [.setBase ⟨1⟩ 2.0]
      let corrected ← before.useCorrection ⟨1⟩
      return (← before.base? ⟨1⟩, corrected.2)).result) = some (.ok (some 2.0, .ok)) := by
    decide +kernel
  obtain ⟨start, hborn, hrun⟩ := Option.map_eq_some_iff.1 hrun
  obtain ⟨rest, hbirth⟩ := exists_of_born hborn
  have hmoves : ∀ operation ∈ [Operation.setBase ⟨1⟩ 2.0], operation.Moves := by
    simp [Operation.Moves]
  obtain ⟨before, after, response, hbefore, hafter, hkept⟩ := floor_kept_iff hbirth hmoves ⟨1⟩
  obtain ⟨_, hsame, hrun, -⟩ := Step.bind_eq_ok hrun
  obtain rfl := Except.ok.inj (hbefore.symm.trans hsame)
  obtain ⟨_, hsame, hrun, -⟩ := Step.bind_eq_ok hrun
  obtain rfl := Except.ok.inj (hafter.symm.trans hsame)
  obtain ⟨found, hfound, hpair, -⟩ := Step.bind_eq_ok hrun
  obtain ⟨rfl, rfl⟩ := Prod.mk.inj (Except.ok.inj hpair)
  obtain ⟨base, hbase, hlowered, hfloor⟩ := hkept rfl
  obtain rfl := Option.some.inj (Except.ok.inj (hbase.symm.trans hfound))
  exact ⟨start, rest, before, after, hbirth, hbefore, hafter, hlowered,
    hfloor.2 (by decide +kernel)⟩

/-- Strength one and a half is lowered to a half. -/
theorem floor_not_kept_of_half : ∃ start rest after,
    (strengthBirth [0, 0, 1, 128]).result = .ok (.ok start, rest) ∧
    (start.useCorrection ⟨1⟩).result = .ok (after, .ok) ∧
    (start.base? ⟨1⟩).result = .ok (some 1.5) ∧ (after.base? ⟨1⟩).result = .ok (some 0.5) ∧
    ¬ ProgressionLedger.correctionFloor ≤ 0.5 := by
  have hrun : (born? (strengthBirth [0, 0, 1, 128])).map (fun start =>
      ((start.base? ⟨1⟩).result, (do
        let corrected ← start.useCorrection ⟨1⟩
        return (← corrected.1.base? ⟨1⟩, corrected.2)).result)) =
      some (.ok (some 1.5), .ok (some 0.5, .ok)) := by
    decide +kernel
  obtain ⟨start, hborn, hrun⟩ := Option.map_eq_some_iff.1 hrun
  obtain ⟨hbase, hresult⟩ := Prod.mk.inj hrun
  obtain ⟨rest, hbirth⟩ := exists_of_born hborn
  obtain ⟨⟨after, response⟩, hafter, hlast, -⟩ := Step.bind_eq_ok hresult
  obtain ⟨found, hfound, hpair, -⟩ := Step.bind_eq_ok hlast
  obtain ⟨rfl, rfl⟩ := Prod.mk.inj (Except.ok.inj hpair)
  exact ⟨start, rest, after, hbirth, hafter, hbase, hfound, by decide +kernel⟩

end CharacterSim.Character
