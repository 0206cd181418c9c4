import CharacterSim.Proofs.Character.LoginFields
import CharacterSim.Proofs.Character.LoginMessage
import CharacterSim.Proofs.Collections.Latest

/-! Logins, from the bytes of a message to the character that is made of them. -/

namespace CharacterSim

/-- What no step of a run changes is as it was before the run. -/
theorem foldl_keeps {σ α γ : Type} (step : σ → γ → σ) (view : σ → α)
    (h : ∀ state item, view (step state item) = view state) (items : List γ) (state : σ) :
    view (items.foldl step state) = view state := by
  induction items generalizing state with
  | nil => rfl
  | cons item rest ih => rw [List.foldl_cons, ih, h]

/-! ### What is loaded -/

/-- The last base that is given to a carried attribute is the one it has. -/
theorem Being.base?_foldl_setAttribute (being : Being) (pairs : List (AttributeId × Int32))
    (id : AttributeId) : (pairs.foldl (fun being pair =>
      (being.setAttribute pair.1 (Amount.ofFixedPoint pair.2)).1) being).base? id =
      (being.base? id).map fun base =>
        ((latest pairs id).map Amount.ofFixedPoint).getD base := by
  have hstep : ∀ (being : Being) (pair : AttributeId × Int32) id,
      (being.setAttribute pair.1 (Amount.ofFixedPoint pair.2)).1.base? id =
        if id = pair.1 then (being.base? id).map fun _ => Amount.ofFixedPoint pair.2
        else being.base? id := fun _ _ _ => AttributeStore.base?_setBase _
  rw [foldl_eq_latest Being.base? (fun base? count => base?.map fun _ => Amount.ofFixedPoint count)
    hstep fun base? _ _ => by cases base? <;> rfl]
  cases latest pairs id <;> cases being.base? id <;> rfl

theorem Being.name_foldl_setAttribute (being : Being) (pairs : List (AttributeId × Int32)) :
    (pairs.foldl (fun being pair =>
      (being.setAttribute pair.1 (Amount.ofFixedPoint pair.2)).1) being).name = being.name := by
  induction pairs generalizing being with
  | nil => rfl
  | cons pair rest ih => exact ih _

theorem Being.unmodified_foldl_setAttribute {being : Being} (h : being.attributes.Unmodified)
    (pairs : List (AttributeId × Int32)) : (pairs.foldl (fun being pair =>
      (being.setAttribute pair.1 (Amount.ofFixedPoint pair.2)).1) being).attributes.Unmodified := by
  induction pairs generalizing being with
  | nil => exact h
  | cons pair rest ih => exact ih (h.setBase _ _)

/-- The last count that is given for a species is the one that is kept. -/
theorem KillCounts.get_foldl_restore (kills : KillCounts) (pairs : List (MonsterTypeId × UInt32))
    (monster : MonsterTypeId) :
    (pairs.foldl (fun kills pair => kills.restore pair.1 pair.2) kills).get monster =
      (latest pairs monster).getD (kills.get monster) := by
  have hstep : ∀ (kills : KillCounts) (pair : MonsterTypeId × UInt32) monster,
      (kills.restore pair.1 pair.2).get monster =
        if monster = pair.1 then pair.2 else kills.get monster := by
    intro kills pair monster
    rw [get, restore]
    split
    · next heq => rw [heq, SortedMap.get?_insert_self, Option.getD_some]
    · next hne =>
      rw [SortedMap.get?_insert_of_ne _ hne]
      rfl
  rw [foldl_eq_latest KillCounts.get (fun _ count => count) hstep fun _ _ _ => rfl]
  cases latest pairs monster <;> rfl

/-- Just the listed abilities are granted. -/
theorem Abilities.remaining?_foldl_grant {abilities : Abilities} {ids : List AbilityId}
    (h : ∀ id ∈ ids, abilities.catalog.contains id = true) (id : AbilityId) :
    (ids.foldl grant abilities).remaining? id =
      if id ∈ ids then some ((abilities.remaining? id).getD .zero)
      else abilities.remaining? id := by
  induction ids generalizing abilities with
  | nil => simp
  | cons first rest ih =>
    obtain ⟨hfirst, hrest⟩ := List.forall_mem_cons.1 h
    rw [List.foldl_cons, ih (by rwa [catalog_grant]), remaining?_grant hfirst]
    by_cases heq : id = first
    · simp [heq]
    · simp [heq]

/-! ### The character -/

/-- A character is as a message describes it: the last base given to an attribute that characters
carry, or else its default, the last count given for a species, and the listed abilities, ready for
use. Modified values follow from the bases alone. -/
structure LoginMessage.Describes (login : LoginMessage) (context : CharacterContext)
    (character : Character) : Prop where
  databaseId : character.databaseId = login.databaseId
  attributePoints : character.ledger.attributePoints = .ofNat login.attributePoints.toInt.toNat
  correctionPoints : character.ledger.correctionPoints = .ofNat login.correctionPoints.toInt.toNat
  being : ∃ being, character.entity.being? = some being ∧ being.name = login.name ∧
    being.attributes.registry = context.registry ∧ being.attributes.Fresh ∧
    being.attributes.Unmodified ∧
    ∀ id, being.base? id = (context.registry.scoped? .character id).map fun info =>
      ((latest login.bases id).map Amount.ofFixedPoint).getD info.defaultBase
  actor : character.entity.actor? = some (.ofPlace (.ofNat login.map.toInt.toNat)
    ⟨login.x.toInt32, login.y.toInt32⟩)
  kills : ∀ monster, character.kills.get monster = (latest login.killCounts monster).getD 0
  abilities : ∃ abilities, character.entity.abilities? = some abilities ∧
    abilities.globalCooldown = .zero ∧
    ∀ id, abilities.remaining? id = if id ∈ login.abilityIds then some .zero else none

namespace Character

variable {id : EntityId} {context : CharacterContext} {client : Option ClientId}
  {format : Load Unit} {login : LoginMessage} {message rest : Cursor} {start : Character}

/-- The character that a login message makes. -/
def ofLogin (id : EntityId) (context : CharacterContext) (client : Option ClientId)
    (login : LoginMessage) : Character :=
  newborn id context client login.databaseId
    ((CharacterData.initial context login.name).loaded login.toLoginData)

/-- The format succeeds exactly where admissible data are spelled. -/
theorem run_standard_ok_iff (h : context.registry.Coherent) {name : String} {cursor : Cursor}
    {state : LoadState} :
    (Load.standard.run ⟨.initial context name, cursor⟩).run = (.ok (), state) ↔
      ∃ login : LoginData, login.Admissible context ∧ cursor.Spells login.bytes state.cursor ∧
        state.data = (CharacterData.initial context name).loaded login :=
  Load.transcribes_standard.yields_iff ⟨.initial context name, cursor⟩ state
    (CharacterData.prepared_initial h name)

theorem run_standard_of_spells (h : context.registry.Coherent) (name : String) {data : LoginData}
    (hdata : data.Admissible context) {cursor : Cursor} (hspells : cursor.Spells data.bytes rest) :
    (Load.standard.run ⟨.initial context name, cursor⟩).run =
      (.ok (), ⟨(CharacterData.initial context name).loaded data, rest⟩) :=
  (run_standard_ok_iff h).2 ⟨data, hdata, hspells, rfl⟩

theorem fresh_ofLogin (h : context.registry.Coherent) (id : EntityId) (client : Option ClientId)
    (hlogin : login.Admissible context) {being : Being}
    (hbeing : (ofLogin id context client login).entity.being? = some being) :
    being.attributes.registry = context.registry ∧ being.attributes.Fresh := by
  have hspells : (Cursor.ofBytes login.toLoginData.bytes).Spells login.toLoginData.bytes
      ⟨0 + login.toLoginData.bytes.length, []⟩ := ⟨(List.append_nil _).symm, rfl⟩
  have hrun := run_standard_of_spells h login.name hlogin.toAdmissible hspells
  exact fresh_newborn Load.proper_standard h hrun hbeing

theorem name_foldl_recalculate (ids : List AttributeId) (being : Being) :
    (ids.foldl .recalculate being).name = being.name :=
  foldl_keeps Being.recalculate Being.name (fun _ _ => rfl) ids being

theorem describes_ofLogin (h : context.registry.Coherent) (hlogin : login.Admissible context) :
    login.Describes context (ofLogin id context client login) where
  databaseId := rfl
  attributePoints := rfl
  correctionPoints := rfl
  being := by
    obtain ⟨hregistry, hderived⟩ := fresh_ofLogin h id client hlogin being?_newborn
    refine ⟨_, being?_newborn, ?_, hregistry, hderived, ?_, fun other => ?_⟩
    · exact (name_foldl_recalculate _ _).trans (Being.name_foldl_setAttribute _ login.bases)
    · rw [Being.attributes_clearChanged, attributes_foldl_recalculate,
        Being.attributes_clearChanged]
      have hinitial := AttributeStore.unmodified_forScope h .character
      exact (Being.unmodified_foldl_setAttribute hinitial login.bases).recalculateEach _
    · rw [Being.base?, Being.attributes_clearChanged, attributes_foldl_recalculate,
        Being.attributes_clearChanged, AttributeStore.base?_recalculateEach]
      refine (Being.base?_foldl_setAttribute (CharacterData.initial context login.name).being
        login.bases other).trans ?_
      rw [CharacterData.base?_initial h, Option.map_map]
      rfl
  actor := rfl
  kills monster := KillCounts.get_foldl_restore .empty login.killCounts monster
  abilities := by
    have hoffered : ∀ id ∈ login.abilityIds, context.abilities.contains id = true := by
      intro id hmem
      obtain ⟨number, hnumber, rfl⟩ := List.mem_map.1 hmem
      exact hlogin.abilities.2 number hnumber
    refine ⟨_, rfl, foldl_keeps _ Abilities.globalCooldown ?_ login.abilityIds _, fun id => ?_⟩
    · exact fun _ id => Abilities.globalCooldown_grant id
    · exact Abilities.remaining?_foldl_grant hoffered id

theorem ofData_result {databaseId : Int32} {data : CharacterData} :
    (ofData id context client databaseId data).result =
      .ok (newborn id context client databaseId data) := by
  have hensures : (ofData id context client databaseId data).Ensures _ _ _ := ofData_ensures
  obtain ⟨made, hmade, rfl⟩ := hensures.exists_ok
  exact hmade

theorem ofMessage_result : (ofMessage id context format client message).result =
    match (readHeader.run message).run with
    | (.error error, cursor) => .ok (.error (.wire error), cursor)
    | (.ok (databaseId, name), cursor) =>
      match (format.run ⟨.initial context name, cursor⟩).run with
      | (.error error, state) => .ok (.error error, state.cursor)
      | (.ok (), state) =>
        .ok (.ok (newborn id context client databaseId state.data), state.cursor) := by
  unfold ofMessage
  rcases (readHeader.run message).run with ⟨error | ⟨databaseId, name⟩, cursor⟩
  · rfl
  · dsimp only
    rw [Step.log, Step.emit_bind]
    dsimp only
    rcases (format.run ⟨.initial context name, cursor⟩).run with ⟨error | ⟨⟩, state⟩
    · rfl
    · dsimp only
      rw [Step.bind_of_ok ofData_result]
      rfl

/-- A login succeeds exactly on the messages that spell something admissible. -/
theorem ofMessage_ok_iff (h : context.registry.Coherent) :
    (ofMessage id context Load.standard client message).result = .ok (.ok start, rest) ↔
      ∃ login : LoginMessage, login.Admissible context ∧ message.Spells login.bytes rest ∧
        start = ofLogin id context client login := by
  rw [ofMessage_result]
  constructor
  · intro hresult
    rcases hheader : (readHeader.run message).run with ⟨error | ⟨databaseId, name⟩, cursor⟩
    · rw [hheader] at hresult
      cases hresult
    · rw [hheader] at hresult
      dsimp only at hresult
      rcases hformat : (Load.standard.run ⟨.initial context name, cursor⟩).run with
        ⟨error | ⟨⟩, state⟩
      · rw [hformat] at hresult
        cases hresult
      · rw [hformat] at hresult
        cases hresult
        obtain ⟨hname, hspells⟩ := readHeader_ok_iff.1 hheader
        obtain ⟨login, hlogin, hspells', hdata⟩ := (run_standard_ok_iff h).1 hformat
        exact ⟨{ login with databaseId, name }, ⟨hlogin, hname⟩,
          Cursor.spells_append.2 ⟨cursor, hspells, hspells'⟩, by rw [hdata]; rfl⟩
  · rintro ⟨login, hlogin, hspells, rfl⟩
    obtain ⟨cursor, hspells, hspells'⟩ := Cursor.spells_append.1 hspells
    rw [readHeader_ok_iff.2 ⟨hlogin.name, hspells⟩]
    dsimp only
    rw [run_standard_of_spells h login.name hlogin.toAdmissible hspells']
    rfl

/-- Nothing stops a login but an error for the message, which is that of the first field that
offends. -/
theorem verdict_ofMessage (id : EntityId) (client : Option ClientId) (message : Cursor)
    (h : context.registry.Coherent) :
    match (ofMessage id context Load.standard client message).result with
    | .ok (.ok _, _) => Verdict (LoginField.objection context) LoginField.fixed message none
    | .ok (.error error, _) =>
      Verdict (LoginField.objection context) LoginField.fixed message (some error)
    | .error _ => False := by
  rw [ofMessage_result]
  have hheader := Load.covers_readHeader [.attributePoints, .correctionPoints, .attributeCount,
    .map, .x, .y, .killEntries, .abilityCount] ⟨.initial context "", message⟩
    (CharacterData.prepared_initial h "")
  rw [Load.run_read] at hheader
  rcases hrun : (readHeader.run message).run with ⟨error | ⟨databaseId, name⟩, cursor⟩
  · rw [hrun] at hheader
    exact hheader
  · rw [hrun] at hheader
    dsimp only at hheader ⊢
    have hformat := Load.covers_standard ⟨.initial context name, cursor⟩
      (CharacterData.prepared_initial h name)
    rcases hrun : (Load.standard.run ⟨.initial context name, cursor⟩).run with ⟨error | ⟨⟩, state⟩
    · rw [hrun] at hformat
      exact hheader.2 _ hformat
    · rw [hrun] at hformat
      exact hheader.2 _ (hformat.2 _ (.accepted _))

theorem ofMessage_error_iff (h : context.registry.Coherent) {error : ConstructionError} :
    (∃ rest, (ofMessage id context Load.standard client message).result =
      .ok (.error error, rest)) ↔
        Verdict (LoginField.objection context) LoginField.fixed message (some error) := by
  have hverdict := verdict_ofMessage id client message h
  constructor
  · rintro ⟨rest, hresult⟩
    rw [hresult] at hverdict
    exact hverdict
  · intro herror
    split at hverdict
    · cases hverdict.unique herror
    · next other rest hresult =>
      cases hverdict.unique herror
      exact ⟨rest, hresult⟩
    · exact hverdict.elim

/-- What comes of a login in the format of the account server. -/
def logIn (id : EntityId) (context : CharacterContext) (client : Option ClientId)
    (message : Cursor) : Except Fault (Except ConstructionError Character × Cursor) :=
  (ofMessage id context Load.standard client message).result

theorem logIn_of_spells (id : EntityId) (client : Option ClientId) (h : context.registry.Accepted)
    (hlogin : login.Admissible context) (hspells : message.Spells login.bytes rest) :
    logIn id context client message = .ok (.ok (ofLogin id context client login), rest) :=
  (ofMessage_ok_iff h.coherent).2 ⟨login, hlogin, hspells, rfl⟩

/-- A login succeeds exactly on the messages that begin with something admissible, which then
describes the character. It fails with the error that the first field calls for that offends, where
a base offends that is given to an attribute that no character carries. -/
theorem logIn_accepts_format (id : EntityId) (context : CharacterContext) (client : Option ClientId)
    (message : Cursor) (h : context.registry.Accepted) :
    (∃ outcome, logIn id context client message = .ok outcome) ∧
      (∀ rest, (∃ character, logIn id context client message = .ok (.ok character, rest)) ↔
        ∃ login : LoginMessage, login.Admissible context ∧ message.Spells login.bytes rest) ∧
      (∀ error, (∃ rest, logIn id context client message = .ok (.error error, rest)) ↔
        Verdict (LoginField.objection context) LoginField.fixed message (some error)) ∧
      ∀ (login : LoginMessage) character rest after, login.Admissible context →
        message.Spells login.bytes after →
          logIn id context client message = .ok (.ok character, rest) →
            login.Describes context character := by
  refine ⟨?_, fun rest => ⟨?_, ?_⟩, fun error => ofMessage_error_iff h.coherent, ?_⟩
  · obtain ⟨outcome, houtcome, -⟩ := ofMessage_ensures.exists_ok
    exact ⟨outcome, houtcome⟩
  · rintro ⟨character, hok⟩
    obtain ⟨login, hlogin, hspells, -⟩ := (ofMessage_ok_iff h.coherent).1 hok
    exact ⟨login, hlogin, hspells⟩
  · rintro ⟨login, hlogin, hspells⟩
    exact ⟨_, (ofMessage_ok_iff h.coherent).2 ⟨login, hlogin, hspells, rfl⟩⟩
  · intro login character rest after hlogin hspells hok
    have hmade : logIn id context client message =
        .ok (.ok (ofLogin id context client login), after) :=
      (ofMessage_ok_iff h.coherent).2 ⟨login, hlogin, hspells, rfl⟩
    cases hok.symm.trans hmade
    exact describes_ofLogin h.coherent hlogin

/-- A message that gives strength a base of six and tells of two kills. -/
def sampleMessage : LoginMessage where
  databaseId := 7
  name := ""
  attributePoints := 0
  correctionPoints := 0
  attributes := [(1, 1536)]
  map := 1
  x := 2
  y := 3
  kills := [(5, 2)]
  abilities := []

/-- The sample message, and a byte more. -/
def sampleBytes : List UInt8 :=
  [0, 0, 0, 7, 0, 0, 0, 0, 0, 0, 0, 1, 0, 1, 0, 0, 6, 0, 0, 1, 0, 2, 0, 3, 0, 1, 0, 5, 0, 0, 0, 2,
    0, 0, 255]

theorem logIn_sampleBytes : ∃ character,
    logIn ⟨1⟩ { registry := .sample } none (.ofBytes sampleBytes) =
        .ok (.ok character, ⟨34, [255]⟩) ∧
      sampleMessage.Describes { registry := .sample } character := by
  have hadmissible : sampleMessage.Admissible { registry := .sample } :=
    { attributePoints := by decide
      correctionPoints := by decide
      attributes := ⟨by decide, List.forall_mem_singleton.2 ⟨by decide, by decide +kernel⟩⟩
      map := by decide
      kills := ⟨by decide, List.forall_mem_singleton.2 (by decide)⟩
      abilities := ⟨by decide, List.forall_mem_nil _⟩
      name := by decide }
  have hspells : (Cursor.ofBytes sampleBytes).Spells sampleMessage.bytes ⟨34, [255]⟩ :=
    ⟨by decide, by decide⟩
  obtain ⟨-, hok, -, hdescribes⟩ := logIn_accepts_format ⟨1⟩ { registry := .sample } none
    (.ofBytes sampleBytes) AttributeRegistry.sample_accepted
  obtain ⟨character, hcharacter⟩ := (hok _).2 ⟨sampleMessage, hadmissible, hspells⟩
  exact ⟨character, hcharacter, hdescribes _ _ _ _ hadmissible hspells hcharacter⟩

/-- A message that gives strength a base twice, first six and then just under minus one. -/
def revisedMessage : LoginMessage :=
  { sampleMessage with attributes := [(1, 1536), (1, -257)] }

theorem admissible_revisedMessage : revisedMessage.Admissible { registry := .sample } where
  attributePoints := by decide
  correctionPoints := by decide
  attributes := by
    have hstrength : (AttributeRegistry.sample.scoped? .character
        (LoginData.attributeOf 1)).isSome = true := by decide +kernel
    exact ⟨by decide, List.forall_mem_cons.2 ⟨⟨by decide, hstrength⟩,
      List.forall_mem_singleton.2 ⟨by decide, hstrength⟩⟩⟩
  map := by decide
  kills := ⟨by decide, List.forall_mem_singleton.2 (by decide)⟩
  abilities := ⟨by decide, List.forall_mem_nil _⟩
  name := by decide

/-! ### A reader who looks attributes up at once -/

/-- What is objected to by a reader who looks an attribute up as soon as its number is read. -/
def eagerObjection (context : CharacterContext) (offset : Nat) (bytes : List UInt8)
    (field : LoginField) : Option ConstructionError :=
  (field.objection context offset bytes).or <|
    match field with
    | .attributeId =>
      let id : AttributeId := ⟨.ofNat (field.number bytes).toNat⟩
      if (context.registry.scoped? .character id).isSome then none else some (.unknownAttribute id)
    | _ => none

/-- A message that ends where the base of attribute 99 should follow. -/
def cutMessage : List UInt8 := [0, 0, 0, 7, 0, 0, 0, 0, 0, 0, 0, 1, 0, 99]

/-- That the sample catalog has no attribute 99 is not what a message is refused for that ends
before the base of that attribute. -/
theorem truncated_before_unknownAttribute : AttributeRegistry.sample.Accepted ∧
    Verdict (eagerObjection { registry := .sample }) LoginField.fixed (.ofBytes cutMessage)
      (some (.unknownAttribute ⟨99⟩)) ∧
    ∃ rest, logIn ⟨1⟩ { registry := .sample } none (.ofBytes cutMessage) =
      .ok (.error (.wire (.truncated 14 4 0)), rest) := by
  refine ⟨AttributeRegistry.sample_accepted, ?_, (ofMessage_error_iff
    AttributeRegistry.sample_accepted.coherent).2 ?_⟩
  · exact .passed (by decide) (by decide) <| .passed (by decide) (by decide) <|
      .passed (by decide) (by decide) <| .passed (by decide) (by decide) <|
      .passed (by decide) (by decide) <| .passed (by decide) (by decide) <|
      .refused _ (by decide) (by decide +kernel)
  · exact .passed (by decide) (by decide) <| .passed (by decide) (by decide) <|
      .passed (by decide) (by decide) <| .passed (by decide) (by decide) <|
      .passed (by decide) (by decide) <| .passed (by decide) (by decide) <|
      .passed (by decide) (by decide) <| .truncated _ _ (by decide)

end Character

end CharacterSim
