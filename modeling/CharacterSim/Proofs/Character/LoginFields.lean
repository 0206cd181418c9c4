import CharacterSim.Proofs.Character.Loading

/-! The fields of a login message in the order in which they are read. A message is refused for the
first field that offends, and reading stops there. -/

namespace CharacterSim

/-- The fields of a login message. What is known of some of them was said by an earlier one. -/
inductive LoginField where
  | databaseId
  | nameLength
  | name (length : Nat)
  | attributePoints
  | correctionPoints
  | attributeCount
  | attributeId
  | base (id : AttributeId)
  | map
  | x
  | y
  | killEntries
  | monster
  | killCount
  | abilityCount
  | ability
  deriving DecidableEq

namespace LoginField

/-- How many bytes a field takes. -/
def width : LoginField → Nat
  | databaseId | base _ | killCount => 4
  | name length => length
  | ability => 1
  | _ => 2

/-- The number that the bytes of a field stand for. -/
def number (bytes : List UInt8) : LoginField → Int
  | killCount => (Message.decodeInt32 bytes).toInt
  | _ => (Message.decodeInt16 bytes).toInt

/-- What a field is called that may not be negative. -/
def label? : LoginField → Option String
  | attributePoints => some "attribute_points"
  | correctionPoints => some "correction_points"
  | attributeCount => some "attribute_count"
  | attributeId => some "attribute_id"
  | map => some "map"
  | killEntries => some "kill_entries"
  | monster => some "monster"
  | killCount => some "kill_count"
  | abilityCount => some "ability_count"
  | _ => none

/-- What is read right after a field because of the number in it. -/
def opens (number : Nat) : LoginField → List LoginField
  | nameLength => [name number]
  | attributeCount => .replicate number attributeId
  | attributeId => [base ⟨.ofNat number⟩]
  | killEntries => .replicate number monster
  | monster => [killCount]
  | abilityCount => .replicate number ability
  | _ => []

/-- What is wrong with the bytes of a field that begin at some place. -/
def objection (context : CharacterContext) (offset : Nat) (bytes : List UInt8) :
    LoginField → Option ConstructionError
  | nameLength =>
    let length := Message.decodeInt16 bytes
    if length < 0 then some (.wire (.negativeLength length)) else none
  | name _ => if (Cursor.text? bytes).isSome then none else some (.wire (.invalidString offset))
  | base id =>
    if (context.registry.scoped? .character id).isSome then none else some (.unknownAttribute id)
  | ability =>
    let id : AbilityId := ⟨(Message.decodeInt8 bytes).toUInt8⟩
    if context.abilities.contains id then none else some (.unknownAbility id)
  | field => field.label?.bind fun label =>
    if field.number bytes < 0 then some (.invalidValue label (field.number bytes)) else none

/-- The fields that every login message has, in order. -/
def fixed : List LoginField :=
  [databaseId, nameLength, attributePoints, correctionPoints, attributeCount, map, x, y,
    killEntries, abilityCount]

end LoginField

open LoginField in
/-- The verdict on what is left of a message, when some fields are still to be read and there may be
an objection to each: the error that the first field that offends is refused with, or none. -/
inductive Verdict (objects : Nat → List UInt8 → LoginField → Option ConstructionError) :
    List LoginField → Cursor → Option ConstructionError → Prop where
  | accepted (cursor : Cursor) : Verdict objects [] cursor none
  | truncated (field : LoginField) (rest : List LoginField) {cursor : Cursor}
    (hshort : cursor.remaining < field.width) : Verdict objects (field :: rest) cursor
      (some (.wire (.truncated cursor.offset field.width cursor.remaining)))
  | refused {field : LoginField} (rest : List LoginField) {cursor : Cursor}
    {error : ConstructionError} (hlong : field.width ≤ cursor.remaining)
    (herror : objects cursor.offset (cursor.unread.take field.width) field = some error) :
    Verdict objects (field :: rest) cursor (some error)
  | passed {field : LoginField} {rest : List LoginField} {cursor : Cursor}
    {verdict : Option ConstructionError} (hlong : field.width ≤ cursor.remaining)
    (hnone : objects cursor.offset (cursor.unread.take field.width) field = none)
    (hrest : Verdict objects
      (field.opens (field.number (cursor.unread.take field.width)).toNat ++ rest)
      (cursor.advance field.width) verdict) : Verdict objects (field :: rest) cursor verdict

theorem Verdict.unique {objects : Nat → List UInt8 → LoginField → Option ConstructionError}
    {fields : List LoginField} {cursor : Cursor} {first second : Option ConstructionError}
    (h : Verdict objects fields cursor first) (hother : Verdict objects fields cursor second) :
    first = second := by
  induction h with
  | accepted cursor =>
    cases hother
    rfl
  | truncated field rest hshort =>
    cases hother with
    | truncated => rfl
    | refused _ hlong => exact absurd hshort (Nat.not_lt.2 hlong)
    | passed hlong => exact absurd hshort (Nat.not_lt.2 hlong)
  | refused rest hlong herror =>
    cases hother with
    | truncated _ _ hshort => exact absurd hshort (Nat.not_lt.2 hlong)
    | refused _ _ hother => rw [← herror, hother]
    | passed _ hnone =>
      rw [hnone] at herror
      cases herror
  | passed hlong hnone _ ih =>
    cases hother with
    | truncated _ _ hshort => exact absurd hshort (Nat.not_lt.2 hlong)
    | refused _ _ herror =>
      rw [hnone] at herror
      cases herror
    | passed _ _ hrest => exact ih hrest

namespace Load

variable {α β : Type} {context : CharacterContext}

/-- A load reads the fields that come next, but for those that its answer leaves to what follows,
and fails just as the first of them that offends calls for. -/
def Covers (context : CharacterContext) (load : Load α) (fields : List LoginField)
    (left : α → List LoginField) : Prop :=
  ∀ before : LoadState, before.data.Prepared context →
    match (load.run before).run with
    | (.error error, _) => Verdict (LoginField.objection context) fields before.cursor (some error)
    | (.ok value, after) => after.data.Prepared context ∧
        ∀ verdict, Verdict (LoginField.objection context) (left value) after.cursor verdict →
          Verdict (LoginField.objection context) fields before.cursor verdict

theorem covers_pure (value : α) (fields : List LoginField) :
    Covers context (pure value) fields fun _ => fields :=
  fun _ h => ⟨h, fun _ hverdict => hverdict⟩

theorem covers_modifyData {change : CharacterData → CharacterData} (fields : List LoginField)
    (h : ∀ data : CharacterData, data.Prepared context → (change data).Prepared context) :
    Covers context (modifyData change) fields fun _ => fields :=
  fun _ hprepared => ⟨h _ hprepared, fun _ hverdict => hverdict⟩

theorem Covers.bind {load : Load α} {next : α → Load β} {fields : List LoginField}
    {middle : α → List LoginField} {left : β → List LoginField}
    (h : Covers context load fields middle)
    (hnext : ∀ value, Covers context (next value) (middle value) left) :
    Covers context (load >>= next) fields left := by
  intro before hprepared
  have hload := h before hprepared
  rw [run_bind]
  rcases hrun : (load.run before).run with ⟨error | value, between⟩
  · rw [hrun] at hload
    exact hload
  · rw [hrun] at hload
    obtain ⟨hbetween, hverdicts⟩ := hload
    have hlater := hnext value between hbetween
    dsimp only
    rcases hnext : ((next value).run between).run with ⟨error | value, after⟩
    · rw [hnext] at hlater
      exact hverdicts _ hlater
    · rw [hnext] at hlater
      exact ⟨hlater.1, fun verdict hverdict => hverdicts verdict (hlater.2 verdict hverdict)⟩

theorem covers_repeated {entry : Load Unit} {field : LoginField} {rest : List LoginField}
    (h : ∀ rest, Covers context entry (field :: rest) fun _ => rest) (count : Nat) :
    Covers context (repeated entry count) (.replicate count field ++ rest) fun _ => rest := by
  induction count with
  | zero => exact covers_pure () rest
  | succ count ih => exact (h _).bind fun _ => ih

/-- What is done with a field once it is read: nothing but a refusal when there is an objection, and
otherwise it succeeds and leaves what the number in the field opens. -/
def Heeds (context : CharacterContext) (act : List UInt8 → Load α) (field : LoginField)
    (rest : List LoginField) (left : α → List LoginField) : Prop :=
  ∀ (offset : Nat) (bytes : List UInt8) (state : LoadState), state.data.Prepared context →
    match field.objection context offset bytes with
    | some error => (((act bytes).run state).run).1 = .error error
    | none => ∃ value data, ((act bytes).run state).run = (.ok value, { state with data }) ∧
        data.Prepared context ∧ left value = field.opens (field.number bytes).toNat ++ rest

theorem covers_field {reader : Read β} (field : LoginField) {decode : List UInt8 → β}
    {act : β → Load α} {rest : List LoginField} {left : α → List LoginField}
    (hreader : Cursor.Decodes reader field.width decode)
    (hact : Heeds context (fun bytes => act (decode bytes)) field rest left) :
    Covers context (read reader >>= act) (field :: rest) left := by
  intro before hprepared
  rw [run_bind, run_read, hreader]
  by_cases hshort : before.cursor.remaining < field.width
  · rw [if_pos hshort]
    exact .truncated field rest hshort
  · rw [if_neg hshort]
    have hlong : field.width ≤ before.cursor.remaining := Nat.le_of_not_lt hshort
    have hheeds := hact before.cursor.offset (before.cursor.unread.take field.width)
      { before with cursor := before.cursor.advance field.width } hprepared
    dsimp only at hheeds ⊢
    split at hheeds
    · next error hobjection =>
      rcases hrun : ((act _).run _).run with ⟨outcome, after⟩
      rw [hrun] at hheeds
      cases hheeds
      exact .refused rest hlong hobjection
    · next hobjection =>
      obtain ⟨value, data, hrun, hdata, hleft⟩ := hheeds
      rw [hrun]
      exact ⟨hdata, fun verdict hverdict => .passed hlong hobjection (hleft ▸ hverdict)⟩

/-- A number that is read for its own sake. -/
theorem covers_read {reader : Read α} {field : LoginField} {decode : List UInt8 → α}
    (hreader : Cursor.Decodes reader field.width decode)
    (hobjection : ∀ offset bytes, field.objection context offset bytes = none)
    (hopens : ∀ number, field.opens number = []) (rest : List LoginField) :
    Covers context (read reader) (field :: rest) fun _ => rest := by
  rw [← bind_pure (read reader)]
  refine covers_field field hreader fun offset bytes state h => ?_
  rw [hobjection, hopens]
  exact ⟨_, state.data, rfl, h, rfl⟩

theorem heeds_nonNegative {field : LoginField} {label : String}
    (hlabel : field.label? = some label) (rest : List LoginField) :
    Heeds context (fun bytes => nonNegative label (field.number bytes)) field rest
      fun number => field.opens number ++ rest := by
  intro offset bytes state h
  have hobjection : field.objection context offset bytes =
      if field.number bytes < 0 then some (.invalidValue label (field.number bytes)) else none := by
    cases field <;> cases hlabel <;> rfl
  rw [hobjection, run_nonNegative]
  split
  · next herror =>
    split at herror
    · next hnegative =>
      cases herror
      rw [if_pos hnegative]
    · cases herror
  · next hnone =>
    split at hnone
    · cases hnone
    · next hnonneg =>
      rw [if_neg hnonneg]
      exact ⟨_, state.data, rfl, h, rfl⟩

theorem covers_count {field : LoginField} {label : String} (hlabel : field.label? = some label)
    (hwidth : field.width = 2) (rest : List LoginField) :
    Covers context (count label) (field :: rest) fun number => field.opens number ++ rest := by
  have hnumber : ∀ bytes, field.number bytes = (Message.decodeInt16 bytes).toInt := by
    cases field <;> first | exact fun _ => rfl | cases hwidth
  have hheeds : Heeds context _ field rest _ := heeds_nonNegative hlabel rest
  simp only [hnumber] at hheeds
  exact covers_field field (hwidth ▸ Cursor.decodes_readInt16) hheeds

/-! ### The sections of the format -/

theorem read_bind (reader : Read α) (next : α → Read β) :
    read (reader >>= next) = read reader >>= fun value => read (next value) := by
  funext state
  have hrun : ((read (reader >>= next)).run state).run =
      ((read reader >>= fun value => read (next value)).run state).run := by
    rw [run_bind, run_read, run_read, run_bind]
    rcases (reader.run state.cursor).run with ⟨_ | value, middle⟩
    · rfl
    · exact (run_read (next value) { state with cursor := middle }).symm
  exact hrun

theorem covers_readString (rest : List LoginField) :
    Covers context (read Cursor.readString) (.nameLength :: rest) fun _ => rest := by
  intro before hprepared
  rw [run_read, Cursor.run_readString, Cursor.decodes_readInt16]
  by_cases hshort : before.cursor.remaining < 2
  · rw [if_pos hshort]
    exact .truncated .nameLength rest hshort
  rw [if_neg hshort]
  have hlong : LoginField.nameLength.width ≤ before.cursor.remaining := Nat.le_of_not_lt hshort
  dsimp only
  by_cases hnegative : Message.decodeInt16 (before.cursor.unread.take 2) < 0
  · rw [if_pos hnegative]
    exact .refused rest hlong (if_pos hnegative)
  rw [if_neg hnegative]
  -- The text itself is a field of its own, as long as the number before it says.
  have hpassed : ∀ verdict, Verdict (LoginField.objection context)
      (.name (Message.decodeInt16 (before.cursor.unread.take 2)).toInt.toNat :: rest)
      (before.cursor.advance 2) verdict →
      Verdict (LoginField.objection context) (.nameLength :: rest) before.cursor verdict :=
    fun _ hverdict => .passed hlong (if_neg hnegative) hverdict
  generalize (Message.decodeInt16 (before.cursor.unread.take 2)).toInt.toNat = length at hpassed ⊢
  generalize before.cursor.advance 2 = middle at hpassed ⊢
  by_cases hcut : middle.remaining < length
  · rw [if_pos hcut]
    exact hpassed _ (.truncated (.name length) rest hcut)
  rw [if_neg hcut]
  have hwhole : (LoginField.name length).width ≤ middle.remaining := Nat.le_of_not_lt hcut
  cases htext : Cursor.text? (middle.unread.take length) with
  | none =>
    exact hpassed _ (.refused rest hwhole (if_neg (by simp [LoginField.width, htext])))
  | some text =>
    exact ⟨hprepared, fun _ hverdict =>
      hpassed _ (.passed hwhole (if_pos (by simp [LoginField.width, htext])) hverdict)⟩

theorem covers_readHeader (rest : List LoginField) : Covers context (read Character.readHeader)
    (.databaseId :: .nameLength :: rest) fun _ => rest := by
  rw [Character.readHeader, read_bind]
  refine (covers_read Cursor.decodes_readInt32 (fun _ _ => rfl) (fun _ => rfl) _).bind fun _ => ?_
  rw [read_bind]
  exact (covers_readString rest).bind fun _ => covers_pure _ rest

theorem covers_attributeEntry (rest : List LoginField) :
    Covers context attributeEntry (.attributeId :: rest) fun _ => rest := by
  refine (covers_count rfl rfl rest).bind fun number => ?_
  refine covers_field (.base ⟨.ofNat number⟩) Cursor.decodes_readInt32 ?_
  intro offset bytes state h
  rw [LoginField.objection]
  split
  · next error herror =>
    split at herror
    · cases herror
    · next hunknown =>
      cases herror
      rw [run_setBase h, if_neg hunknown]
  · next hnone =>
    split at hnone
    · next hknown =>
      rw [run_setBase h, if_pos hknown]
      exact ⟨(), _, rfl, h.withBase _, rfl⟩
    · cases hnone

theorem covers_killEntry (rest : List LoginField) :
    Covers context killEntry (.monster :: rest) fun _ => rest := by
  refine (covers_count rfl rfl rest).bind fun monster => ?_
  have hcount : Covers context
      (read Cursor.readInt32 >>= fun value => nonNegative "kill_count" value.toInt)
      (.killCount :: rest) fun _ => rest :=
    covers_field .killCount Cursor.decodes_readInt32 (heeds_nonNegative rfl rest)
  rw [← bind_assoc]
  exact hcount.bind fun _ => covers_modifyData rest fun _ h => ⟨h.carried, h.catalog, h.granted⟩

theorem covers_abilityEntry (rest : List LoginField) :
    Covers context abilityEntry (.ability :: rest) fun _ => rest := by
  refine covers_field .ability Cursor.decodes_readInt8 ?_
  intro offset bytes state h
  rw [LoginField.objection]
  dsimp only
  rw [run_giveAbility h]
  split
  · next error herror =>
    split at herror
    · cases herror
    · next hunknown =>
      cases herror
      rw [if_neg hunknown]
  · next hnone =>
    split at hnone
    · next hknown =>
      rw [if_pos hknown]
      exact ⟨(), _, rfl, h.withAbility hknown, rfl⟩
    · cases hnone

theorem covers_standard : Covers context standard
    [.attributePoints, .correctionPoints, .attributeCount, .map, .x, .y, .killEntries,
      .abilityCount] fun _ => [] := by
  unfold standard
  refine (covers_count rfl rfl _).bind fun _ => ?_
  refine (covers_count rfl rfl _).bind fun _ => ?_
  refine .bind (covers_modifyData _ fun _ h => ⟨h.carried, h.catalog, h.granted⟩) fun _ => ?_
  refine .bind (covers_modifyData _ fun _ h => ⟨h.carried, h.catalog, h.granted⟩) fun _ => ?_
  refine (covers_count rfl rfl _).bind fun attributes => ?_
  refine (covers_repeated covers_attributeEntry attributes).bind fun _ => ?_
  refine (covers_count rfl rfl _).bind fun _ => ?_
  refine (covers_read Cursor.decodes_readInt16 (fun _ _ => rfl) (fun _ => rfl) _).bind fun _ => ?_
  refine (covers_read Cursor.decodes_readInt16 (fun _ _ => rfl) (fun _ => rfl) _).bind fun _ => ?_
  refine .bind (covers_modifyData _ fun _ h => ⟨h.carried, h.catalog, h.granted⟩) fun _ => ?_
  refine (covers_count rfl rfl _).bind fun kills => ?_
  refine (covers_repeated covers_killEntry kills).bind fun _ => ?_
  exact (covers_count rfl rfl _).bind fun abilities => covers_repeated covers_abilityEntry abilities

end Load

end CharacterSim
