import CharacterSim.Character.Login
import CharacterSim.Proofs.Character.Synchronization
import CharacterSim.Proofs.Message.Reading

/-! Characters as they come out of a login message. A format of character data changes what it reads
into by a few calls only, so that the attributes of a new character are fresh and it is alive. -/

namespace CharacterSim

namespace CharacterData

/-- One change of the data of a character that is being read. -/
inductive Call : CharacterData → CharacterData → Prop where
  | setAttributePoints (data : CharacterData) (points : UInt32) :
    Call data { data with ledger := data.ledger.setAttributePoints points }
  | setCorrectionPoints (data : CharacterData) (points : UInt32) :
    Call data { data with ledger := data.ledger.setCorrectionPoints points }
  | setBase (data : CharacterData) (id : AttributeId) (value : Float) :
    Call data { data with being := (data.being.setAttribute id value).1 }
  | setLocation (data : CharacterData) (map : MapId) (position : Position) :
    Call data { data with actor := data.actor.moveTo map position }
  | setKillCount (data : CharacterData) (monster : MonsterTypeId) (kills : UInt32) :
    Call data { data with kills := data.kills.restore monster kills }
  | giveAbility {data : CharacterData} {id : AbilityId} {abilities : Abilities}
    (h : data.abilities.give? id = some abilities) : Call data { data with abilities }

abbrev Calls : CharacterData → CharacterData → Prop := Relation.ReflTransGen Call

variable {before after : CharacterData}

theorem Calls.edits (h : Calls before after) : before.being.Edits after.being := by
  induction h with
  | refl => exact .refl
  | tail _ hcall ih =>
    cases hcall with
    | setBase id value => exact ih.tail (.setAttribute _ id value)
    | _ => exact ih

theorem Calls.lifecycle_eq (h : Calls before after) :
    after.being.lifecycle = before.being.lifecycle := by
  induction h with
  | refl => rfl
  | tail _ hcall ih => cases hcall <;> exact ih

end CharacterData

namespace Load

variable {α β : Type}

/-- Whatever is read, the data change by calls alone. -/
def Proper (load : Load α) : Prop :=
  ∀ state : LoadState, state.data.Calls (load.run state).run.2.data

theorem proper_pure (value : α) : Proper (pure value) := fun _ => .refl

theorem proper_throw (error : ConstructionError) : Proper (throw error : Load α) := fun _ => .refl

theorem Proper.bind {load : Load α} {next : α → Load β} (h : Proper load)
    (hnext : ∀ value, Proper (next value)) : Proper (load >>= next) := by
  intro state
  have hload := h state
  rw [run_bind]
  rcases hrun : (load.run state).run with ⟨outcome, middle⟩
  rw [hrun] at hload
  cases outcome with
  | error error => exact hload
  | ok value => exact hload.trans (hnext value middle)

theorem proper_modifyData {change : CharacterData → CharacterData}
    (h : ∀ data, CharacterData.Call data (change data)) : Proper (modifyData change) :=
  fun state => .single (h state.data)

theorem run_set_bind (changed state : LoadState) (next : PUnit → Load β) :
    ((set changed >>= next).run state).run = ((next ⟨⟩).run changed).run := rfl

theorem run_modifyData_bind (change : CharacterData → CharacterData) (next : Unit → Load β)
    (state : LoadState) : ((modifyData change >>= next).run state).run =
      ((next ()).run { state with data := change state.data }).run := rfl

theorem proper_read (reader : Read α) : Proper (read reader) := by
  intro state
  rw [read, run_get_bind]
  dsimp only
  rw [run_set_bind]
  split
  · exact .refl
  · exact .refl

theorem proper_setBase (id : AttributeId) (value : Float) : Proper (setBase id value) := by
  intro state
  rw [setBase, run_get_bind]
  dsimp only
  rw [run_modifyData_bind]
  split
  · exact .single (.setBase state.data id value)
  · exact .single (.setBase state.data id value)

theorem proper_giveAbility (id : AbilityId) : Proper (giveAbility id) := by
  intro state
  rw [giveAbility, run_get_bind]
  dsimp only
  split
  · next abilities hgranted => exact .single (.giveAbility hgranted)
  · split
    · exact .refl
    · exact .refl

/-! ### The format of the account server -/

theorem proper_nonNegative (field : String) (value : Int) : Proper (nonNegative field value) := by
  unfold nonNegative
  split
  · exact proper_throw _
  · exact proper_pure _

theorem proper_count (field : String) : Proper (count field) :=
  (proper_read _).bind fun _ => proper_nonNegative field _

theorem proper_repeated {entry : Load Unit} (h : Proper entry) (more : Nat) :
    Proper (repeated entry more) := by
  induction more with
  | zero => exact proper_pure ()
  | succ more ih => exact h.bind fun _ => ih

theorem proper_attributeEntry : Proper attributeEntry :=
  (proper_count _).bind fun _ => (proper_read _).bind fun _ => proper_setBase _ _

theorem proper_killEntry : Proper killEntry :=
  (proper_count _).bind fun _ => (proper_read _).bind fun _ => (proper_nonNegative _ _).bind
    fun _ => proper_modifyData fun data => .setKillCount data _ _

theorem proper_abilityEntry : Proper abilityEntry :=
  (proper_read _).bind fun _ => proper_giveAbility _

theorem proper_standard : Proper standard := by
  unfold standard
  refine (proper_count _).bind fun attributePoints => ?_
  refine (proper_count _).bind fun correctionPoints => ?_
  refine (proper_modifyData fun data => .setAttributePoints data _).bind fun _ => ?_
  refine (proper_modifyData fun data => .setCorrectionPoints data _).bind fun _ => ?_
  refine (proper_count _).bind fun attributes => ?_
  refine (proper_repeated proper_attributeEntry attributes).bind fun _ => ?_
  refine (proper_count _).bind fun map => ?_
  refine (proper_read _).bind fun x => (proper_read _).bind fun y => ?_
  refine (proper_modifyData fun data => .setLocation data _ _).bind fun _ => ?_
  refine (proper_count _).bind fun kills => ?_
  refine (proper_repeated proper_killEntry kills).bind fun _ => ?_
  exact (proper_count _).bind fun abilities => proper_repeated proper_abilityEntry abilities

end Load

namespace Character

/-- The character that data describe, before its first flush. -/
def newborn (id : EntityId) (context : CharacterContext) (client : Option ClientId)
    (databaseId : Int32) (data : CharacterData) : Character :=
  let character := resynced
    { databaseId, context, client
      entity :=
        { id
          being := .held data.being.clearChanged
          actor := .held data.actor
          abilities := .held data.abilities.clearSignals }
      ledger := data.ledger
      kills := data.kills } data.being.clearChanged
  { character with dirty := data.abilities.ids.foldl .markAbility character.dirty }

variable {id : EntityId} {context : CharacterContext} {client : Option ClientId}
  {databaseId : Int32} {data : CharacterData} {format : Load Unit} {message rest : Cursor}
  {start : Character}

theorem ofData_ensures : (ofData id context client databaseId data).Ensures
    (fun effect => ∃ event, effect = .logged event) (fun _ => False)
    (· = newborn id context client databaseId data) := by
  rw [ofData, modifiedAllAttributes_eq rfl, Step.bind_of_ok rfl]
  exact Step.ensures_ok (by simp) rfl

/-- A login message that is accepted makes a newborn character of what the format read. Nothing but
the log hears of it. -/
theorem ofMessage_ensures : (ofMessage id context format client message).Ensures
    (fun effect => ∃ event, effect = .logged event) (fun _ => False)
    fun outcome => ∀ character, outcome.1 = .ok character →
      ∃ databaseId name cursor state,
        (readHeader.run message).run = (.ok (databaseId, name), cursor) ∧
        (format.run ⟨.initial context name, cursor⟩).run = (.ok (), state) ∧
        character = newborn id context client databaseId state.data := by
  unfold ofMessage
  split
  · exact Step.ensures_pure fun _ herror => by cases herror
  · next databaseId name cursor hheader =>
    have hlog : ∀ message fields, (Step.log .debug message fields).Ensures
        (fun effect => ∃ event, effect = .logged event) (fun _ => False) fun _ => True :=
      fun _ _ => Step.ensures_ok (by simp) trivial
    refine (hlog _ _).bind fun _ _ => ?_
    split
    · exact Step.ensures_pure fun _ herror => by cases herror
    · next state hformat =>
      refine ofData_ensures.bind fun character hcharacter => Step.ensures_pure ?_
      rintro _ ⟨⟩
      exact ⟨databaseId, name, cursor, state, hheader, hformat, hcharacter⟩

/-! ### Newborn characters -/

theorem being?_newborn : (newborn id context client databaseId data).entity.being? =
    some (data.being.attributes.ids.foldl .recalculate data.being.clearChanged).clearChanged := rfl

theorem intact_newborn (h : context.callbacks.Gentle) :
    (newborn id context client databaseId data).Intact where
  complete := ⟨⟨_, rfl⟩, ⟨_, rfl⟩, ⟨_, rfl⟩⟩
  callbacks := h
  dialogue _ hnone := by cases hnone

/-- Every attribute awaits the first flush. -/
theorem mem_dirty_newborn {other : AttributeId} :
    other ∈ (newborn id context client databaseId data).dirty.attributes ↔
      other ∈ data.being.attributes.ids := by
  rw [newborn, DirtySets.attributes_foldl_markAbility, mem_dirty_resynced]
  simp [Being.clearChanged]

theorem fresh_newborn {name : String} {cursor : Cursor} {state : LoadState}
    (hformat : format.Proper) (hcoherent : context.registry.Coherent)
    (hrun : (format.run ⟨.initial context name, cursor⟩).run = (.ok (), state)) {being : Being}
    (hbeing : (newborn id context client databaseId state.data).entity.being? = some being) :
    being.attributes.registry = context.registry ∧ being.attributes.Fresh := by
  have hinitial : (AttributeStore.forScope context.registry .character).Fresh :=
    AttributeStore.fresh_forScope hcoherent .character
  have hregistry : (AttributeStore.forScope context.registry .character).registry =
      context.registry := AttributeStore.registry_recalculateEach _
  have hcalls := hformat ⟨.initial context name, cursor⟩
  rw [hrun] at hcalls
  have hread : state.data.being.attributes.registry = context.registry :=
    hcalls.edits.registry_eq.trans hregistry
  have hfresh : state.data.being.attributes.Fresh :=
    hcalls.edits.fresh (hregistry.symm ▸ hcoherent) hinitial
  rw [being?_newborn] at hbeing
  cases hbeing
  rw [Being.attributes_clearChanged, attributes_foldl_recalculate, Being.attributes_clearChanged,
    hfresh.recalculateEach_eq_self]
  exact ⟨hread, hfresh⟩

/-! ### A login -/

/-- The login message of character 7, without a name, points, kills or abilities, on map 1. -/
def sampleLogin : List UInt8 :=
  [0, 0, 0, 7, 0, 0, 0, 0, 0, 0, 0, 0, 0, 1, 0, 2, 0, 3, 0, 0, 0, 0]

/-- The outcome of the sample login. -/
def sampleBirth (callbacks : ScriptCallbacks) :
    Step (Except ConstructionError Character × Cursor) :=
  ofMessage ⟨1⟩ { registry := .sample, callbacks } Load.standard (some ⟨0⟩)
    (.ofBytes sampleLogin)

/-- The character that a login made, if it made one. -/
def born? (birth : Step (Except ConstructionError Character × Cursor)) : Option Character :=
  match birth.result with
  | .ok (.ok start, _) => some start
  | _ => none

theorem exists_of_born {birth : Step (Except ConstructionError Character × Cursor)}
    (h : born? birth = some start) : ∃ rest, birth.result = .ok (.ok start, rest) := by
  unfold born? at h
  split at h
  · next other rest hresult =>
    cases h
    exact ⟨rest, hresult⟩
  · cases h

end Character

end CharacterSim
