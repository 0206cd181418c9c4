import CharacterSim.Proofs.Character.Loading

/-! What a login message says and how it is spelled. A load that is read off a message succeeds
exactly where something is spelled that may be said, and changes the data by what is said. -/

namespace CharacterSim

namespace Load

variable {α β : Type} {before after : LoadState}

/-- A load succeeds with an answer and takes one state to another. -/
def Yields (load : Load α) (before : LoadState) (value : α) (after : LoadState) : Prop :=
  (load.run before).run = (.ok value, after)

theorem yields_bind {load : Load α} {next : α → Load β} {value : β} :
    (load >>= next).Yields before value after ↔
      ∃ answer middle, load.Yields before answer middle ∧
        (next answer).Yields middle value after :=
  run_bind_eq_ok_iff

theorem yields_read {reader : Read α} {value : α} : (read reader).Yields before value after ↔
    (reader.run before.cursor).run = (.ok value, after.cursor) ∧ after.data = before.data := by
  unfold Yields
  rw [run_read]
  obtain ⟨data, cursor⟩ := after
  rcases (reader.run before.cursor).run with ⟨error | answer, middle⟩
  · simp
  · constructor
    · intro h
      cases h
      exact ⟨rfl, rfl⟩
    · rintro ⟨h, hdata⟩
      cases h
      cases hdata
      rfl

theorem yields_nonNegative {field : String} {number : Int} {value : Nat} :
    (nonNegative field number).Yields before value after ↔
      0 ≤ number ∧ value = number.toNat ∧ after = before := by
  unfold Yields
  rw [run_nonNegative]
  by_cases hnegative : number < 0
  · simp [hnegative, Int.not_le.2 hnegative]
  · simp [hnegative, Int.not_lt.1 hnegative, eq_comm]

/-- A load succeeds exactly where something admissible is spelled, and changes the data by what that
says. -/
structure Transcribes {γ : Type} (context : CharacterContext) (load : Load Unit)
    (admissible : γ → Prop) (spelling : γ → List UInt8)
    (change : CharacterData → γ → CharacterData) : Prop where
  yields_iff : ∀ before after : LoadState, before.data.Prepared context →
    (load.Yields before () after ↔ ∃ said, admissible said ∧
      before.cursor.Spells (spelling said) after.cursor ∧ after.data = change before.data said)
  prepared : ∀ (data : CharacterData) said, data.Prepared context → admissible said →
    (change data said).Prepared context

variable {γ δ : Type} {context : CharacterContext} {first second entry : Load Unit}
  {admissible : γ → Prop} {admissible' : δ → Prop} {spelling : γ → List UInt8}
  {spelling' : δ → List UInt8} {change : CharacterData → γ → CharacterData}
  {change' : CharacterData → δ → CharacterData}

/-- Two sections, one after the other. -/
theorem Transcribes.followed (h : Transcribes context first admissible spelling change)
    (h' : Transcribes context second admissible' spelling' change') :
    Transcribes context (first >>= fun _ => second)
      (fun said : γ × δ => admissible said.1 ∧ admissible' said.2)
      (fun said => spelling said.1 ++ spelling' said.2)
      fun data said => change' (change data said.1) said.2 where
  prepared data said hdata hsaid := h'.prepared _ _ (h.prepared data _ hdata hsaid.1) hsaid.2
  yields_iff before after hbefore := by
    rw [yields_bind]
    constructor
    · rintro ⟨⟨⟩, middle, hfirst, hsecond⟩
      obtain ⟨said, hsaid, hspells, hdata⟩ := (h.yields_iff before middle hbefore).1 hfirst
      have hmiddle : middle.data.Prepared context := hdata ▸ h.prepared _ said hbefore hsaid
      obtain ⟨said', hsaid', hspells', hdata'⟩ := (h'.yields_iff middle after hmiddle).1 hsecond
      exact ⟨(said, said'), ⟨hsaid, hsaid'⟩, Cursor.spells_append.2 ⟨_, hspells, hspells'⟩,
        hdata'.trans (hdata ▸ rfl)⟩
    · rintro ⟨⟨said, said'⟩, ⟨hsaid, hsaid'⟩, hspells, hdata⟩
      obtain ⟨cursor, hspells, hspells'⟩ := Cursor.spells_append.1 hspells
      exact ⟨(), ⟨change before.data said, cursor⟩,
        (h.yields_iff _ _ hbefore).2 ⟨said, hsaid, hspells, rfl⟩,
        (h'.yields_iff _ _ (h.prepared _ said hbefore hsaid)).2 ⟨said', hsaid', hspells', hdata⟩⟩

/-- So many entries, each as before. -/
theorem Transcribes.repeated (h : Transcribes context entry admissible spelling change)
    (count : Nat) : Transcribes context (repeated entry count)
      (fun entries : List γ => entries.length = count ∧ ∀ said ∈ entries, admissible said)
      (List.flatMap spelling) (List.foldl change) := by
  induction count with
  | zero =>
    refine ⟨fun before after _ => ?_, fun data entries hdata hentries => ?_⟩
    · constructor
      · intro hyields
        cases hyields
        exact ⟨[], ⟨rfl, by simp⟩, Cursor.spells_nil.2 rfl, rfl⟩
      · rintro ⟨entries, ⟨hlength, -⟩, hspells, hdata⟩
        obtain rfl := List.length_eq_zero_iff.1 hlength
        obtain ⟨data, cursor⟩ := after
        obtain rfl := Cursor.spells_nil.1 hspells
        cases hdata
        rfl
    · obtain rfl := List.length_eq_zero_iff.1 hentries.1
      exact hdata
  | succ count ih =>
    have hboth := h.followed ih
    refine ⟨fun before after hbefore => (hboth.yields_iff before after hbefore).trans ?_,
      fun data entries hdata hentries => ?_⟩
    · constructor
      · rintro ⟨⟨said, rest⟩, ⟨hsaid, hlength, hrest⟩, hspells, hdata⟩
        exact ⟨said :: rest, ⟨congrArg (· + 1) hlength, List.forall_mem_cons.2 ⟨hsaid, hrest⟩⟩,
          hspells, hdata⟩
      · rintro ⟨_ | ⟨said, rest⟩, ⟨hlength, hall⟩, hspells, hdata⟩
        · cases hlength
        · obtain ⟨hsaid, hrest⟩ := List.forall_mem_cons.1 hall
          exact ⟨(said, rest), ⟨hsaid, Nat.succ.inj hlength, hrest⟩, hspells, hdata⟩
    · obtain ⟨hlength, hall⟩ := hentries
      cases entries with
      | nil => cases hlength
      | cons said rest =>
        obtain ⟨hsaid, hrest⟩ := List.forall_mem_cons.1 hall
        exact hboth.prepared data (said, rest) hdata ⟨hsaid, Nat.succ.inj hlength, hrest⟩

/-- The same said in another way. -/
theorem Transcribes.reindex (h : Transcribes context first admissible spelling change) (f : δ → γ)
    (hf : ∀ said, admissible said → ∃ said', f said' = said)
    (hadmissible : ∀ said, admissible' said ↔ admissible (f said))
    (hspelling : ∀ said, spelling' said = spelling (f said))
    (hchange : ∀ data said, change' data said = change data (f said)) :
    Transcribes context first admissible' spelling' change' where
  prepared data said hdata hsaid :=
    hchange data said ▸ h.prepared data (f said) hdata ((hadmissible said).1 hsaid)
  yields_iff before after hbefore := by
    rw [h.yields_iff before after hbefore]
    simp only [hadmissible, hspelling, hchange]
    constructor
    · rintro ⟨said, hsaid, hrest⟩
      obtain ⟨said', rfl⟩ := hf said hsaid
      exact ⟨said', hsaid, hrest⟩
    · rintro ⟨said', hsaid, hrest⟩
      exact ⟨f said', hsaid, hrest⟩

variable {ν : Type} {next : ν → Load Unit} {admits : ν → γ → Prop}
  {changes : ν → CharacterData → γ → CharacterData}

/-- A read, and then what comes after it. -/
theorem Transcribes.after_read {reader : Read ν} {encode : ν → List UInt8}
    (hreader : ∀ {before after : Cursor} {value : ν},
      (reader.run before).run = (.ok value, after) ↔ before.Spells (encode value) after)
    (h : ∀ value, Transcribes context (next value) (admits value) spelling (changes value)) :
    Transcribes context (read reader >>= next) (fun said : ν × γ => admits said.1 said.2)
      (fun said => encode said.1 ++ spelling said.2)
      fun data said => changes said.1 data said.2 where
  prepared data said hdata hsaid := (h said.1).prepared data said.2 hdata hsaid
  yields_iff before after hbefore := by
    simp only [yields_bind, yields_read, hreader]
    constructor
    · rintro ⟨value, ⟨_, middle⟩, ⟨hspells, rfl⟩, hnext⟩
      obtain ⟨said, hsaid, hspells', hdata⟩ :=
        ((h value).yields_iff ⟨before.data, middle⟩ after hbefore).1 hnext
      exact ⟨(value, said), hsaid, Cursor.spells_append.2 ⟨middle, hspells, hspells'⟩, hdata⟩
    · rintro ⟨⟨value, said⟩, hsaid, hspells, hdata⟩
      obtain ⟨middle, hspells, hspells'⟩ := Cursor.spells_append.1 hspells
      exact ⟨value, ⟨before.data, middle⟩, ⟨hspells, rfl⟩,
        ((h value).yields_iff ⟨before.data, middle⟩ after hbefore).2 ⟨said, hsaid, hspells', hdata⟩⟩

/-- A number that may not be negative, and then what comes after it. -/
theorem Transcribes.after_nonNegative {next : Nat → Load Unit} {number : Int}
    (h : Transcribes context (next number.toNat) admissible spelling change) (field : String) :
    Transcribes context (nonNegative field number >>= next)
      (fun said => 0 ≤ number ∧ admissible said) spelling change where
  prepared data said hdata hsaid := h.prepared data said hdata hsaid.2
  yields_iff before after hbefore := by
    simp only [yields_bind, yields_nonNegative]
    constructor
    · rintro ⟨_, _, ⟨hnonneg, rfl, rfl⟩, hnext⟩
      obtain ⟨said, hsaid, hrest⟩ := (h.yields_iff _ after hbefore).1 hnext
      exact ⟨said, ⟨hnonneg, hsaid⟩, hrest⟩
    · rintro ⟨said, ⟨hnonneg, hsaid⟩, hrest⟩
      exact ⟨_, before, ⟨hnonneg, rfl, rfl⟩,
        (h.yields_iff before after hbefore).2 ⟨said, hsaid, hrest⟩⟩

theorem Transcribes.after_count {next : Nat → Load Unit} {admits : Int16 → γ → Prop}
    {changes : Int16 → CharacterData → γ → CharacterData}
    (h : ∀ number : Int16, Transcribes context (next number.toInt.toNat) (admits number) spelling
      (changes number)) (field : String) :
    Transcribes context (count field >>= next)
      (fun said : Int16 × γ => 0 ≤ said.1 ∧ admits said.1 said.2)
      (fun said => Message.encodeInt16 said.1 ++ spelling said.2)
      fun data said => changes said.1 data said.2 := by
  simp only [count, bind_assoc, Int16.le_iff_toInt_le, Int16.toInt_zero]
  exact .after_read Cursor.readInt16_ok_iff fun number => (h number).after_nonNegative field

/-- An action that reads nothing. -/
theorem transcribes_action {act : Load Unit} {ok : Prop} {change : CharacterData → CharacterData}
    (hact : ∀ before after : LoadState, before.data.Prepared context →
      (act.Yields before () after ↔ ok ∧ after = { before with data := change before.data }))
    (hprepared : ∀ data : CharacterData, data.Prepared context → ok →
      (change data).Prepared context) :
    Transcribes context act (fun _ : Unit => ok) (fun _ => []) fun data _ => change data where
  prepared data _ hdata hok := hprepared data hdata hok
  yields_iff before after hbefore := by
    obtain ⟨data, cursor⟩ := after
    simp only [hact before _ hbefore, Cursor.spells_nil]
    constructor
    · rintro ⟨hok, ⟨⟩⟩
      exact ⟨(), hok, rfl, rfl⟩
    · rintro ⟨-, hok, rfl, rfl⟩
      exact ⟨hok, rfl⟩

theorem transcribes_modifyData {change : CharacterData → CharacterData}
    (h : ∀ data : CharacterData, data.Prepared context → (change data).Prepared context) :
    Transcribes context (modifyData change) (fun _ : Unit => True) (fun _ => [])
      fun data _ => change data := by
  refine transcribes_action (fun before after _ => ?_) fun data hdata _ => h data hdata
  have hrun : ((modifyData change).run before).run =
      (.ok (), { before with data := change before.data }) := rfl
  simp [Yields, hrun, eq_comm]

theorem transcribes_setBase (id : AttributeId) (value : Float) :
    Transcribes context (setBase id value)
      (fun _ : Unit => (context.registry.scoped? .character id).isSome = true) (fun _ => [])
      fun data _ => data.withBase id value := by
  refine transcribes_action (fun before after hbefore => ?_)
    fun data hdata _ => hdata.withBase value
  rw [Yields, run_setBase hbefore]
  split
  · next hknown => simp [hknown, eq_comm]
  · next hunknown => simp [hunknown]

theorem transcribes_giveAbility (id : AbilityId) : Transcribes context (giveAbility id)
    (fun _ : Unit => context.abilities.contains id = true) (fun _ => [])
    fun data _ => data.withAbility id := by
  refine transcribes_action (fun before after hbefore => ?_) fun data hdata hok =>
    hdata.withAbility hok
  rw [Yields, run_giveAbility hbefore]
  split
  · next hoffered => simp [hoffered, eq_comm]
  · next hunknown => simp [hunknown]

/-- A count and as many entries. -/
theorem Transcribes.counted (h : Transcribes context entry admissible spelling change)
    (field : String) : Transcribes context (count field >>= Load.repeated entry)
      (fun entries : List γ => entries.length < 32768 ∧ ∀ said ∈ entries, admissible said)
      (fun entries => Message.encodeInt16 (.ofNat entries.length) ++ entries.flatMap spelling)
      (List.foldl change) := by
  refine (Transcribes.after_count (fun number => h.repeated number.toInt.toNat) field).reindex
    (fun entries => (.ofNat entries.length, entries)) ?_ ?_ (fun _ => rfl) fun _ _ => rfl
  · rintro ⟨number, entries⟩ ⟨hnonneg, hlength, -⟩
    exact ⟨entries, Prod.ext (Message.counts_iff.1 ⟨hnonneg, hlength.symm⟩).2 rfl⟩
  · intro entries
    constructor
    · rintro ⟨hfits, hall⟩
      obtain ⟨hnonneg, hlength⟩ := Message.counts_iff.2 ⟨hfits, rfl⟩
      exact ⟨hnonneg, hlength.symm, hall⟩
    · rintro ⟨hnonneg, hlength, hall⟩
      exact ⟨(Message.counts_iff.1 ⟨hnonneg, hlength.symm⟩).1, hall⟩

end Load

/-- The data of a character as a login message says them. -/
structure LoginData where
  attributePoints : Int16
  correctionPoints : Int16
  /-- Attributes and their bases in fixed point. -/
  attributes : List (Int16 × Int32)
  map : Int16
  x : Int16
  y : Int16
  /-- Species of monsters and how many were killed. -/
  kills : List (Int16 × Int32)
  abilities : List Int8

/-- All that a login message says. -/
structure LoginMessage extends LoginData where
  databaseId : Int32
  name : String

namespace LoginData

/-- The attribute that a number stands for. -/
def attributeOf (number : Int16) : AttributeId := ⟨.ofNat number.toInt.toNat⟩

/-- The species of monster that a number stands for. -/
def monsterOf (number : Int16) : MonsterTypeId := ⟨.ofNat number.toInt.toNat⟩

/-- The ability that a number stands for. -/
def abilityOf (number : Int8) : AbilityId := ⟨number.toUInt8⟩

/-- What is said of bases, in order. -/
def bases (login : LoginData) : List (AttributeId × Int32) :=
  login.attributes.map fun entry => (attributeOf entry.1, entry.2)

/-- What is said of kills, in order. -/
def killCounts (login : LoginData) : List (MonsterTypeId × UInt32) :=
  login.kills.map fun entry => (monsterOf entry.1, .ofNat entry.2.toInt.toNat)

/-- The listed abilities. -/
def abilityIds (login : LoginData) : List AbilityId := login.abilities.map abilityOf

/-- An entry as it is spelled: its number and then what is said of that. -/
def entryBytes (entry : Int16 × Int32) : List UInt8 :=
  Message.encodeInt16 entry.1 ++ Message.encodeInt32 entry.2

/-- How the data are spelled. -/
def bytes (login : LoginData) : List UInt8 :=
  Message.encodeInt16 login.attributePoints ++ Message.encodeInt16 login.correctionPoints ++
    Message.encodeInt16 (.ofNat login.attributes.length) ++ login.attributes.flatMap entryBytes ++
    Message.encodeInt16 login.map ++ Message.encodeInt16 login.x ++ Message.encodeInt16 login.y ++
    Message.encodeInt16 (.ofNat login.kills.length) ++ login.kills.flatMap entryBytes ++
    Message.encodeInt16 (.ofNat login.abilities.length) ++
    login.abilities.flatMap Message.encodeInt8

/-- What may be said to a server: numbers that are not negative but for bases and coordinates, of
attributes that characters carry and of abilities on offer, and lists that 16 bits can count. -/
structure Admissible (context : CharacterContext) (login : LoginData) : Prop where
  attributePoints : 0 ≤ login.attributePoints
  correctionPoints : 0 ≤ login.correctionPoints
  attributes : login.attributes.length < 32768 ∧ ∀ entry ∈ login.attributes, 0 ≤ entry.1 ∧
    (context.registry.scoped? .character (attributeOf entry.1)).isSome
  map : 0 ≤ login.map
  kills : login.kills.length < 32768 ∧ ∀ entry ∈ login.kills, 0 ≤ entry.1 ∧ 0 ≤ entry.2
  abilities : login.abilities.length < 32768 ∧
    ∀ number ∈ login.abilities, context.abilities.contains (abilityOf number)

end LoginData

namespace LoginMessage

/-- How a message is spelled: the database id, the name behind the count of its bytes, the data. -/
def bytes (login : LoginMessage) : List UInt8 :=
  Message.encodeInt32 login.databaseId ++ Message.encodeInt16 (.ofNat login.name.utf8ByteSize) ++
    login.name.toUTF8.data.toList ++ login.toLoginData.bytes

/-- What may be said to a server; the length of a name, too, has to fit into 16 bits. -/
structure Admissible (context : CharacterContext) (login : LoginMessage) : Prop extends
    login.toLoginData.Admissible context where
  name : login.name.utf8ByteSize < 32768

end LoginMessage

namespace CharacterData

open LoginData

def withPoints (data : CharacterData) (points : Int16 × Int16) : CharacterData :=
  let ledger := data.ledger.setAttributePoints (.ofNat points.1.toInt.toNat)
  { data with ledger := ledger.setCorrectionPoints (.ofNat points.2.toInt.toNat) }

def withPlace (data : CharacterData) (place : Int16 × Int16 × Int16) : CharacterData :=
  let position : Position := ⟨place.2.1.toInt32, place.2.2.toInt32⟩
  { data with actor := data.actor.moveTo (.ofNat place.1.toInt.toNat) position }

def withKills (data : CharacterData) (monster : MonsterTypeId) (kills : UInt32) : CharacterData :=
  { data with kills := data.kills.restore monster kills }

/-- The data with all that a message says. -/
def loaded (data : CharacterData) (login : LoginData) : CharacterData :=
  let data := data.withPoints (login.attributePoints, login.correctionPoints)
  let data := data.withPlace (login.map, login.x, login.y)
  { data with
    being := login.bases.foldl
      (fun being pair => (being.setAttribute pair.1 (Amount.ofFixedPoint pair.2)).1) data.being
    kills := login.killCounts.foldl (fun kills pair => kills.restore pair.1 pair.2) data.kills
    abilities := login.abilityIds.foldl .grant data.abilities }

variable (data : CharacterData) (login : LoginData)

theorem foldl_withBase : login.attributes.foldl
    (fun data entry => data.withBase (attributeOf entry.1) (Amount.ofFixedPoint entry.2)) data =
      { data with
        being := login.bases.foldl
          (fun being pair => (being.setAttribute pair.1 (Amount.ofFixedPoint pair.2)).1)
          data.being } := by
  rw [bases, List.foldl_map]
  refine List.foldl_hom (fun being => { data with being }) ?_
  exact fun _ _ => rfl

theorem foldl_withKills : login.kills.foldl
    (fun data entry => data.withKills (monsterOf entry.1) (.ofNat entry.2.toInt.toNat)) data =
      { data with
        kills := login.killCounts.foldl (fun kills pair => kills.restore pair.1 pair.2)
          data.kills } := by
  rw [killCounts, List.foldl_map]
  refine List.foldl_hom (fun kills => { data with kills }) ?_
  exact fun _ _ => rfl

theorem foldl_withAbility : login.abilities.foldl
    (fun data number => data.withAbility (abilityOf number)) data =
      { data with abilities := login.abilityIds.foldl .grant data.abilities } := by
  rw [abilityIds, List.foldl_map]
  refine List.foldl_hom (fun abilities => { data with abilities }) ?_
  exact fun _ _ => rfl

end CharacterData

namespace Load

open LoginData CharacterData

variable {context : CharacterContext}

/-- The points, with which the format begins. -/
def points : Load Unit := do
  let attributePoints ← count "attribute_points"
  let correctionPoints ← count "correction_points"
  setAttributePoints (.ofNat attributePoints)
  setCorrectionPoints (.ofNat correctionPoints)

/-- The map and the coordinates. -/
def place : Load Unit := do
  let map ← count "map"
  let x ← read Cursor.readInt16
  let y ← read Cursor.readInt16
  setLocation (.ofNat map) ⟨x.toInt32, y.toInt32⟩

theorem standard_eq : standard =
    points >>= fun _ => (count "attribute_count" >>= repeated attributeEntry) >>= fun _ =>
      place >>= fun _ => (count "kill_entries" >>= repeated killEntry) >>= fun _ =>
        count "ability_count" >>= repeated abilityEntry := by
  simp only [standard, points, place, bind_assoc]

theorem transcribes_points : Transcribes context points
    (fun said : Int16 × Int16 => 0 ≤ said.1 ∧ 0 ≤ said.2)
    (fun said => Message.encodeInt16 said.1 ++ Message.encodeInt16 said.2) withPoints := by
  have hset : ∀ attributePoints correctionPoints : Int16, Transcribes context
      (setAttributePoints (.ofNat attributePoints.toInt.toNat) >>= fun _ =>
        setCorrectionPoints (.ofNat correctionPoints.toInt.toNat)) _ _ _ := fun _ _ =>
    .followed (transcribes_modifyData fun _ h => ⟨h.carried, h.catalog, h.granted⟩)
      (transcribes_modifyData fun _ h => ⟨h.carried, h.catalog, h.granted⟩)
  refine (Transcribes.after_count (fun attributePoints => Transcribes.after_count
    (hset attributePoints) "correction_points") "attribute_points").reindex
    (fun said => (said.1, said.2, (), ())) ?_ ?_ ?_ fun _ _ => rfl
  · rintro ⟨attributePoints, correctionPoints, _, _⟩ -
    exact ⟨(attributePoints, correctionPoints), rfl⟩
  · simp
  · simp

theorem transcribes_attributeEntry : Transcribes context attributeEntry
    (fun entry : Int16 × Int32 => 0 ≤ entry.1 ∧
      (context.registry.scoped? .character (attributeOf entry.1)).isSome) entryBytes
    fun data entry => data.withBase (attributeOf entry.1) (Amount.ofFixedPoint entry.2) := by
  refine (Transcribes.after_count (fun number => Transcribes.after_read Cursor.readInt32_ok_iff
    fun base => transcribes_setBase (attributeOf number) (Amount.ofFixedPoint base))
    "attribute_id").reindex (fun entry => (entry.1, entry.2, ())) ?_ ?_ ?_ fun _ _ => rfl
  · rintro ⟨number, base, _⟩ -
    exact ⟨(number, base), rfl⟩
  · simp
  · simp [entryBytes]

theorem transcribes_place : Transcribes context place
    (fun said : Int16 × Int16 × Int16 => 0 ≤ said.1)
    (fun said => Message.encodeInt16 said.1 ++ Message.encodeInt16 said.2.1 ++
      Message.encodeInt16 said.2.2) withPlace := by
  have hset : ∀ map x y : Int16, Transcribes context
      (setLocation (.ofNat map.toInt.toNat) ⟨x.toInt32, y.toInt32⟩) _ _ _ := fun _ _ _ =>
    transcribes_modifyData fun _ h => ⟨h.carried, h.catalog, h.granted⟩
  refine (Transcribes.after_count (fun map => Transcribes.after_read Cursor.readInt16_ok_iff
    fun x => Transcribes.after_read Cursor.readInt16_ok_iff (hset map x)) "map").reindex
    (fun said => (said.1, said.2.1, said.2.2, ())) ?_ ?_ ?_ fun _ _ => rfl
  · rintro ⟨map, x, y, _⟩ -
    exact ⟨(map, x, y), rfl⟩
  · simp
  · simp

theorem transcribes_killEntry : Transcribes context killEntry
    (fun entry : Int16 × Int32 => 0 ≤ entry.1 ∧ 0 ≤ entry.2) entryBytes
    fun data entry => data.withKills (monsterOf entry.1) (.ofNat entry.2.toInt.toNat) := by
  have hset : ∀ (monster : Int16) (kills : Int32), Transcribes context
      (setKillCount (monsterOf monster) (.ofNat kills.toInt.toNat)) _ _ _ := fun _ _ =>
    transcribes_modifyData fun _ h => ⟨h.carried, h.catalog, h.granted⟩
  refine (Transcribes.after_count (fun monster => Transcribes.after_read Cursor.readInt32_ok_iff
    fun kills => (hset monster kills).after_nonNegative "kill_count") "monster").reindex
    (fun entry => (entry.1, entry.2, ())) ?_ ?_ ?_ fun _ _ => rfl
  · rintro ⟨monster, kills, _⟩ -
    exact ⟨(monster, kills), rfl⟩
  · simp [Int32.le_iff_toInt_le]
  · simp [entryBytes]

theorem transcribes_abilityEntry : Transcribes context abilityEntry
    (fun number => context.abilities.contains (abilityOf number) = true) Message.encodeInt8
    fun data number => data.withAbility (abilityOf number) := by
  refine (Transcribes.after_read Cursor.readInt8_ok_iff fun number =>
    transcribes_giveAbility (abilityOf number)).reindex (fun number => (number, ())) ?_ ?_ ?_
    fun _ _ => rfl
  · rintro ⟨number, _⟩ -
    exact ⟨number, rfl⟩
  · simp
  · simp

/-- The format of the account server succeeds exactly on admissible data. -/
theorem transcribes_standard : Transcribes context standard (Admissible context) bytes loaded := by
  rw [standard_eq]
  refine (transcribes_points.followed ((transcribes_attributeEntry.counted _).followed
    (transcribes_place.followed ((transcribes_killEntry.counted _).followed
      (transcribes_abilityEntry.counted _))))).reindex
    (fun login => ((login.attributePoints, login.correctionPoints), login.attributes,
      (login.map, login.x, login.y), login.kills, login.abilities)) ?_ ?_ ?_ ?_
  · rintro ⟨⟨attributePoints, correctionPoints⟩, attributes, ⟨map, x, y⟩, kills, abilities⟩ -
    exact ⟨⟨attributePoints, correctionPoints, attributes, map, x, y, kills, abilities⟩, rfl⟩
  · intro login
    constructor
    · rintro ⟨hpoints, hcorrections, hattributes, hmap, hkills, habilities⟩
      exact ⟨⟨hpoints, hcorrections⟩, hattributes, hmap, hkills, habilities⟩
    · rintro ⟨⟨hpoints, hcorrections⟩, hattributes, hmap, hkills, habilities⟩
      exact ⟨hpoints, hcorrections, hattributes, hmap, hkills, habilities⟩
  · intro login
    simp [bytes]
  · intro data login
    simp only [foldl_withBase, foldl_withKills, foldl_withAbility]
    rfl

end Load

/-- Database id and name are read where they are spelled. -/
theorem Character.readHeader_ok_iff {before after : Cursor} {databaseId : Int32} {name : String} :
    (readHeader.run before).run = (.ok (databaseId, name), after) ↔ name.utf8ByteSize < 32768 ∧
      before.Spells (Message.encodeInt32 databaseId ++
        Message.encodeInt16 (.ofNat name.utf8ByteSize) ++ name.toUTF8.data.toList) after := by
  simp only [readHeader, run_bind_eq_ok_iff, Cursor.readInt32_ok_iff, Cursor.readString_ok_iff,
    List.append_assoc]
  rw [Cursor.spells_append]
  constructor
  · rintro ⟨_, middle, hid, _, _, ⟨hfits, hname⟩, ⟨⟩⟩
    exact ⟨hfits, middle, hid, hname⟩
  · rintro ⟨hfits, middle, hid, hname⟩
    exact ⟨_, middle, hid, _, _, ⟨hfits, hname⟩, rfl⟩

end CharacterSim
