import CharacterSim.Proofs.Message.RoundTrip

/-! Reading that goes on whatever came of it. On any bytes and for any sequence of attempts the
cursor stays in its payload, no byte is asked for that is not there, and each attempt takes from the
payload what its outcome accounts for. -/

namespace CharacterSim

/-- The bytes that a number takes. -/
def WireKind.width? : WireKind → Option Nat
  | int8 => some 1
  | int16 => some 2
  | int32 => some 4
  | text => none

/-! ### Payloads that can be left

The reads of a payload as a whole, of which an offset says how much was read. They have no result
where the offset is not in the payload, where a slice does not lie in it, or where a slice has not
the width of the number that it is copied to. -/

/-- A read of a whole payload, which moves the offset. -/
abbrev WholeRead := ExceptT WireError (StateT Nat Option)

namespace WholeRead

variable {α β : Type}

/-- How many bytes are left after an offset. -/
def remaining? (payload : List UInt8) (offset : Nat) : Option Nat :=
  if offset ≤ payload.length then some (payload.length - offset) else none

/-- The bytes from one offset to another. -/
def slice? (payload : List UInt8) (first last : Nat) : Option (List UInt8) :=
  if first ≤ last ∧ last ≤ payload.length then some ((payload.take last).drop first) else none

/-- Bytes that fill a number of so many bytes. -/
def filling? (width : Nat) (bytes : List UInt8) : Option (List UInt8) :=
  if bytes.length = width then some bytes else none

/-- `Cursor.take` of a whole payload. -/
def take (payload : List UInt8) (count : Nat) : WholeRead (List UInt8) := do
  let offset ← get
  let left ← remaining? payload offset
  if left < count then throw (.truncated offset count left)
  let bytes ← slice? payload offset (offset + count)
  set (offset + count)
  return bytes

/-- The read of a number of so many bytes. -/
def number (payload : List UInt8) (width : Nat) (decode : List UInt8 → α) : WholeRead α := do
  return decode (← filling? width (← take payload width))

/-- `Cursor.readString` of a whole payload. -/
def text (payload : List UInt8) : WholeRead String := do
  let length ← number payload 2 Message.decodeInt16
  if length < 0 then throw (.negativeLength length)
  let start ← get
  let body ← take payload length.toInt.toNat
  match Cursor.text? body with
  | some value => return value
  | none => throw (.invalidString start)

/-- `Cursor.readValue` of a whole payload. -/
def value (payload : List UInt8) : WireKind → WholeRead WireValue
  | .int8 => return .int8 (← number payload 1 Message.decodeInt8)
  | .int16 => return .int16 (← number payload 2 Message.decodeInt16)
  | .int32 => return .int32 (← number payload 4 Message.decodeInt32)
  | .text => return .text (← text payload)

/-- One read after the other from an offset on, whatever comes of them, each with the offset after
it. -/
def values? (payload : List UInt8) (offset : Nat) :
    List WireKind → Option (List (Except WireError WireValue × Nat))
  | [] => some []
  | kind :: rest => do
    let (outcome, after) ← (value payload kind).run.run offset
    return (outcome, after) :: (← values? payload after rest)

/-- A read goes on from where the one before it left the offset, unless that failed. -/
theorem run_bind (first : WholeRead α) (next : α → WholeRead β) (offset : Nat) :
    (first >>= next).run.run offset = (first.run.run offset).bind fun (outcome, after) =>
      match outcome with
      | .ok value => (next value).run.run after
      | .error error => some (.error error, after) := by
  show (first.run.run offset).bind _ = _
  refine Option.bind_congr fun result _ => ?_
  obtain ⟨outcome, after⟩ := result
  cases outcome <;> rfl

theorem run_get_bind (next : Nat → WholeRead β) (offset : Nat) :
    (get >>= next).run.run offset = (next offset).run.run offset := rfl

/-- What is not there ends everything. -/
theorem run_lift_bind (found : Option α) (next : α → WholeRead β) (offset : Nat) :
    ((liftM found : WholeRead α) >>= next).run.run offset =
      found.bind fun value => (next value).run.run offset := by
  cases found <;> rfl

theorem run_take (payload : List UInt8) (count offset : Nat) :
    (take payload count).run.run offset = (remaining? payload offset).bind fun left =>
      if left < count then some (.error (.truncated offset count left), offset)
      else
        (slice? payload offset (offset + count)).map fun bytes => (.ok bytes, offset + count) := by
  rw [take, run_get_bind, run_lift_bind]
  refine Option.bind_congr fun left _ => ?_
  split
  · rfl
  · rw [run_lift_bind, Option.map_eq_bind]
    rfl

end WholeRead

namespace Cursor

variable {α β : Type} {payload : List UInt8} {cursor before after : Cursor}

/-! ### The cursor in its payload -/

/-- The cursor is at an offset of the payload, and what is behind it was not read. -/
structure Within (payload : List UInt8) (cursor : Cursor) : Prop where
  offset_le : cursor.offset ≤ payload.length
  unread : cursor.unread = payload.drop cursor.offset

theorem within_ofBytes (payload : List UInt8) : (ofBytes payload).Within payload :=
  ⟨Nat.zero_le _, rfl⟩

theorem Within.remaining_eq (h : cursor.Within payload) :
    cursor.remaining = payload.length - cursor.offset := by
  rw [remaining, h.unread, List.length_drop]

theorem Within.advance {count : Nat} (h : cursor.Within payload)
    (hcount : count ≤ cursor.remaining) : (cursor.advance count).Within payload := by
  have hfits := h.offset_le
  rw [h.remaining_eq] at hcount
  refine ⟨?_, ?_⟩
  · show cursor.offset + count ≤ payload.length
    omega
  · show cursor.unread.drop count = payload.drop (cursor.offset + count)
    rw [h.unread, List.drop_drop]

theorem remaining_advance (cursor : Cursor) (count : Nat) :
    (cursor.advance count).remaining = cursor.remaining - count := List.length_drop

theorem advance_advance (cursor : Cursor) (first second : Nat) :
    (cursor.advance first).advance second = cursor.advance (first + second) := by
  simp [Cursor.advance, Nat.add_assoc]

/-! ### Nothing is asked for that is not there -/

/-- Wherever in the payload the cursor is, the read of the whole payload has a result, and it is that
of the cursor, which stays in the payload. -/
def Agrees (payload : List UInt8) (whole : WholeRead α) (reader : Read α) : Prop :=
  ∀ cursor : Cursor, cursor.Within payload → ∃ outcome after,
    (reader.run cursor).run = (outcome, after) ∧
      whole.run.run cursor.offset = some (outcome, after.offset) ∧ after.Within payload

theorem agrees_pure (value : α) : Agrees payload (pure value) (pure value) :=
  fun cursor h => ⟨.ok value, cursor, rfl, rfl, h⟩

theorem agrees_throw (error : WireError) :
    Agrees payload (throw error : WholeRead α) (throw error) :=
  fun cursor h => ⟨.error error, cursor, rfl, rfl, h⟩

theorem Agrees.bind {whole : WholeRead α} {reader : Read α} {next : α → WholeRead β}
    {rest : α → Read β} (h : Agrees payload whole reader)
    (hnext : ∀ value, Agrees payload (next value) (rest value)) :
    Agrees payload (whole >>= next) (reader >>= rest) := by
  intro cursor hcursor
  obtain ⟨outcome, middle, hreader, hwhole, hmiddle⟩ := h cursor hcursor
  rw [run_bind, hreader, WholeRead.run_bind, hwhole, Option.bind_some]
  cases outcome with
  | ok value => exact hnext value middle hmiddle
  | error error => exact ⟨.error error, middle, rfl, rfl, hmiddle⟩

/-- The offset is where the cursor is. -/
theorem agrees_get_bind {next : Nat → WholeRead β} {rest : Cursor → Read β}
    (h : ∀ start : Cursor, Agrees payload (next start.offset) (rest start)) :
    Agrees payload (get >>= next) (get >>= rest) :=
  fun cursor hcursor => h cursor cursor hcursor

theorem agrees_take (count : Nat) : Agrees payload (WholeRead.take payload count) (take count) := by
  intro cursor h
  have hfits := h.offset_le
  have hleft := h.remaining_eq
  have hremaining : WholeRead.remaining? payload cursor.offset = some cursor.remaining := by
    rw [WholeRead.remaining?, if_pos hfits, hleft]
  rw [run_take, WholeRead.run_take, hremaining, Option.bind_some]
  -- Where enough bytes are left, the slice lies in the payload.
  by_cases hshort : cursor.remaining < count
  · exact ⟨_, cursor, if_pos hshort, if_pos hshort, h⟩
  · have hslice : WholeRead.slice? payload cursor.offset (cursor.offset + count) =
        some (cursor.unread.take count) := by
      rw [WholeRead.slice?, if_pos (by omega), List.drop_take, Nat.add_sub_cancel_left, h.unread]
    refine ⟨_, cursor.advance count, if_neg hshort, ?_, h.advance (Nat.le_of_not_lt hshort)⟩
    rw [if_neg hshort, hslice]
    rfl

theorem agrees_number {reader : Read α} {width : Nat} {decode : List UInt8 → α}
    (hdecodes : Decodes reader width decode) :
    Agrees payload (WholeRead.number payload width decode) reader := by
  intro cursor h
  obtain ⟨outcome, after, htake, hwhole, hafter⟩ := agrees_take width cursor h
  rw [hdecodes cursor, WholeRead.number, WholeRead.run_bind, hwhole, Option.bind_some]
  rw [run_take] at htake
  by_cases hshort : cursor.remaining < width
  · rw [if_pos hshort] at htake ⊢
    cases htake
    exact ⟨_, cursor, rfl, rfl, hafter⟩
  · rw [if_neg hshort] at htake ⊢
    cases htake
    have hlength : (cursor.unread.take width).length = width :=
      List.length_take_of_le (Nat.le_of_not_lt hshort)
    refine ⟨_, cursor.advance width, rfl, ?_, hafter⟩
    dsimp only
    rw [WholeRead.filling?, if_pos hlength, WholeRead.run_lift_bind]
    rfl

theorem agrees_readString : Agrees payload (WholeRead.text payload) readString := by
  refine (agrees_number decodes_readInt16).bind fun length => ?_
  split
  · exact agrees_throw _
  · refine agrees_get_bind fun start => ?_
    refine (agrees_take length.toInt.toNat).bind fun body => ?_
    change Agrees payload (match text? body with
      | some value => pure value
      | none => throw (.invalidString start.offset)) (match text? body with
      | some value => pure value
      | none => throw (.invalidString start.offset))
    cases text? body with
    | some value => exact agrees_pure value
    | none => exact agrees_throw _

theorem agrees_readValue (kind : WireKind) :
    Agrees payload (WholeRead.value payload kind) (readValue kind) := by
  cases kind with
  | int8 => exact (agrees_number decodes_readInt8).bind fun _ => agrees_pure _
  | int16 => exact (agrees_number decodes_readInt16).bind fun _ => agrees_pure _
  | int32 => exact (agrees_number decodes_readInt32).bind fun _ => agrees_pure _
  | text => exact agrees_readString.bind fun _ => agrees_pure _

/-! ### Attempts -/

/-- One attempt to read a value, and where the cursor is before and after it. -/
structure Attempt where
  before : Cursor
  kind : WireKind
  outcome : Except WireError WireValue
  after : Cursor

def attempt (cursor : Cursor) (kind : WireKind) : Attempt :=
  let (outcome, after) := ((readValue kind).run cursor).run
  ⟨cursor, kind, outcome, after⟩

/-- One attempt after the other, whatever came of those before. -/
def attempts (cursor : Cursor) : List WireKind → List Attempt
  | [] => []
  | kind :: rest => cursor.attempt kind :: (cursor.attempt kind).after.attempts rest

/-- The length that stands where the cursor is. -/
def announced (cursor : Cursor) : Int16 := Message.decodeInt16 (cursor.unread.take 2)

/-- The bytes behind a length. -/
def body (cursor : Cursor) : List UInt8 :=
  (cursor.advance 2).unread.take cursor.announced.toInt.toNat

namespace Attempt

/-- A number of so many bytes is read unless fewer are left; then nothing is. -/
structure Counts (width : Nat) (attempt : Attempt) : Prop where
  fails_iff : (∃ error, attempt.outcome = .error error) ↔ attempt.before.remaining < width
  fails : attempt.before.remaining < width → attempt.after = attempt.before ∧
    attempt.outcome = .error (.truncated attempt.before.offset width attempt.before.remaining)
  reads : width ≤ attempt.before.remaining → attempt.after = attempt.before.advance width ∧
    ∃ value, attempt.outcome = .ok value ∧ value.kind = attempt.kind ∧
      value.bytes = attempt.before.unread.take width

/-- A text is read where its length and so many bytes of characters are left. Otherwise no more than
the length is read, and nothing if that is missing too. -/
structure Spelled (attempt : Attempt) : Prop where
  headless : attempt.before.remaining < 2 → attempt.after = attempt.before ∧
    attempt.outcome = .error (.truncated attempt.before.offset 2 attempt.before.remaining)
  negative : 2 ≤ attempt.before.remaining → attempt.before.announced < 0 →
    attempt.after = attempt.before.advance 2 ∧
    attempt.outcome = .error (.negativeLength attempt.before.announced)
  cut : ∀ length : Nat, attempt.before.announced.toInt = length → 2 ≤ attempt.before.remaining →
    attempt.before.remaining < 2 + length → attempt.after = attempt.before.advance 2 ∧
    attempt.outcome = .error
      (.truncated (attempt.before.offset + 2) length (attempt.before.remaining - 2))
  whole : ∀ length : Nat, attempt.before.announced.toInt = length →
    2 + length ≤ attempt.before.remaining →
    attempt.after = attempt.before.advance (2 + length) ∧
    (attempt.outcome = .error (.invalidString (attempt.before.offset + 2)) ↔
      ∀ text : String, text.toUTF8.data.toList ≠ attempt.before.body) ∧
    ∀ text : String, attempt.outcome = .ok (.text text) ↔
      text.toUTF8.data.toList = attempt.before.body

/-- Where bytes are missing, the cursor is before them, and it is told how many are left and how many
more than that are needed. -/
def Tells (attempt : Attempt) : Prop := ∀ offset needed available,
  attempt.outcome = .error (.truncated offset needed available) →
    offset = attempt.after.offset ∧ available = attempt.after.remaining ∧ available < needed

end Attempt

theorem attempt_eq {kind : WireKind} {outcome : Except WireError WireValue}
    (h : ((readValue kind).run cursor).run = (outcome, after)) :
    cursor.attempt kind = ⟨cursor, kind, outcome, after⟩ := by
  rw [attempt, h]

theorem Decodes.attempt_counts {reader : Read α} {width : Nat} {decode : List UInt8 → α}
    {wrap : α → WireValue} {kind : WireKind}
    (h : Decodes reader width decode) (hread : readValue kind = do return wrap (← reader))
    (hkind : ∀ value, (wrap value).kind = kind)
    (hbytes : ∀ bytes, bytes.length = width → (wrap (decode bytes)).bytes = bytes)
    (cursor : Cursor) :
    (cursor.attempt kind).Counts width ∧ (cursor.attempt kind).Tells := by
  have hrun := run_bind reader (fun value => pure (wrap value)) cursor
  rw [← hread, h cursor] at hrun
  by_cases hshort : cursor.remaining < width
  · rw [if_pos hshort] at hrun
    rw [attempt_eq hrun]
    refine ⟨⟨iff_of_true ⟨_, rfl⟩ hshort, fun _ => ⟨rfl, rfl⟩, fun henough => ?_⟩, ?_⟩
    · exact absurd hshort (Nat.not_lt.2 henough)
    · rintro _ _ _ ⟨⟩
      exact ⟨rfl, rfl, hshort⟩
  · rw [if_neg hshort] at hrun
    have henough : width ≤ cursor.remaining := Nat.le_of_not_lt hshort
    rw [attempt_eq hrun]
    refine ⟨⟨iff_of_false (fun ⟨_, hfail⟩ => nomatch hfail) hshort, fun hless => absurd hless hshort,
      fun _ => ⟨rfl, _, rfl, hkind _, hbytes _ (List.length_take_of_le henough)⟩⟩, ?_⟩
    rintro _ _ _ ⟨⟩

/-! ### Attempts to read a text -/

section

variable {length : Nat}

theorem run_readValue_text (cursor : Cursor) : ((readValue .text).run cursor).run =
    match (readString.run cursor).run with
    | (.ok text, after) => (.ok (.text text), after)
    | (.error error, after) => (.error error, after) := by
  rw [readValue, run_bind]
  rcases (readString.run cursor).run with ⟨error | text, after⟩ <;> rfl

theorem attempt_text_headless (h : cursor.remaining < 2) : cursor.attempt .text =
    ⟨cursor, .text, .error (.truncated cursor.offset 2 cursor.remaining), cursor⟩ := by
  apply attempt_eq
  rw [run_readValue_text, run_readString, decodes_readInt16 cursor, if_pos h]

/-- Where its length stands, the rest of a text is read behind it. -/
theorem run_readString_of_announced (h : 2 ≤ cursor.remaining) : (readString.run cursor).run =
    if cursor.announced < 0 then (.error (.negativeLength cursor.announced), cursor.advance 2)
    else if cursor.remaining - 2 < cursor.announced.toInt.toNat then
      (.error (.truncated (cursor.offset + 2) cursor.announced.toInt.toNat (cursor.remaining - 2)),
        cursor.advance 2)
    else
      (match text? cursor.body with
        | some text => .ok text
        | none => .error (.invalidString (cursor.offset + 2)),
        (cursor.advance 2).advance cursor.announced.toInt.toNat) := by
  rw [run_readString, decodes_readInt16 cursor, if_neg (Nat.not_lt.2 h), ← remaining_advance]
  rfl

theorem attempt_text_negative (h : 2 ≤ cursor.remaining) (hnegative : cursor.announced < 0) :
    cursor.attempt .text =
      ⟨cursor, .text, .error (.negativeLength cursor.announced), cursor.advance 2⟩ := by
  apply attempt_eq
  rw [run_readValue_text, run_readString_of_announced h, if_pos hnegative]

theorem not_negative_of_announced (h : cursor.announced.toInt = length) :
    ¬ cursor.announced < 0 ∧ cursor.announced.toInt.toNat = length := by
  rw [Int16.lt_iff_toInt_lt, h]
  exact ⟨Int.not_lt.2 (Int.natCast_nonneg length), Int.toNat_natCast length⟩

theorem attempt_text_cut (hlength : cursor.announced.toInt = length) (h : 2 ≤ cursor.remaining)
    (hcut : cursor.remaining < 2 + length) : cursor.attempt .text =
      ⟨cursor, .text, .error (.truncated (cursor.offset + 2) length (cursor.remaining - 2)),
        cursor.advance 2⟩ := by
  obtain ⟨hnonneg, hcount⟩ := not_negative_of_announced hlength
  apply attempt_eq
  rw [run_readValue_text, run_readString_of_announced h, if_neg hnonneg, hcount,
    if_pos (by omega)]

theorem attempt_text_whole (hlength : cursor.announced.toInt = length)
    (h : 2 + length ≤ cursor.remaining) : cursor.attempt .text =
      ⟨cursor, .text,
        match text? cursor.body with
        | some text => .ok (.text text)
        | none => .error (.invalidString (cursor.offset + 2)),
        cursor.advance (2 + length)⟩ := by
  obtain ⟨hnonneg, hcount⟩ := not_negative_of_announced hlength
  apply attempt_eq
  rw [run_readValue_text, run_readString_of_announced (Nat.le_of_add_right_le h), if_neg hnonneg,
    hcount, if_neg (by omega), advance_advance]
  cases text? cursor.body <;> rfl

theorem attempt_text_spelled (cursor : Cursor) : (cursor.attempt .text).Spelled where
  headless := fun (h : cursor.remaining < 2) => by
    rw [attempt_text_headless h]
    exact ⟨rfl, rfl⟩
  negative := fun (h : 2 ≤ cursor.remaining) (hnegative : cursor.announced < 0) => by
    rw [attempt_text_negative h hnegative]
    exact ⟨rfl, rfl⟩
  cut := fun length (hlength : cursor.announced.toInt = length) (h : 2 ≤ cursor.remaining)
      (hcut : cursor.remaining < 2 + length) => by
    rw [attempt_text_cut hlength h hcut]
    exact ⟨rfl, rfl⟩
  whole := fun length (hlength : cursor.announced.toInt = length)
      (h : 2 + length ≤ cursor.remaining) => by
    rw [attempt_text_whole hlength h]
    have hcharacters : ∀ text : String,
        text.toUTF8.data.toList = cursor.body ↔ text? cursor.body = some text :=
      fun _ => text?_eq_some_iff.symm
    simp only [ne_eq, hcharacters]
    cases text? cursor.body with
    | none => simp
    | some found => simp [eq_comm]

theorem attempt_text_tells (cursor : Cursor) : (cursor.attempt .text).Tells := by
  by_cases hshort : cursor.remaining < 2
  · rw [attempt_text_headless hshort]
    rintro _ _ _ ⟨⟩
    exact ⟨rfl, rfl, hshort⟩
  have henough : 2 ≤ cursor.remaining := Nat.le_of_not_lt hshort
  by_cases hnegative : cursor.announced < 0
  · rw [attempt_text_negative henough hnegative]
    rintro _ _ _ ⟨⟩
  obtain ⟨length, hlength⟩ := Int.eq_ofNat_of_zero_le (Int16.le_iff_toInt_le.1
    (Int16.not_lt.1 hnegative))
  by_cases hcut : cursor.remaining < 2 + length
  · rw [attempt_text_cut hlength henough hcut]
    rintro _ _ _ ⟨⟩
    refine ⟨rfl, (remaining_advance cursor 2).symm, ?_⟩
    omega
  · rw [attempt_text_whole hlength (Nat.le_of_not_lt hcut)]
    intro offset needed available hfail
    dsimp only at hfail
    cases hbody : text? cursor.body with
    | none =>
      rw [hbody] at hfail
      cases hfail
    | some text =>
      rw [hbody] at hfail
      cases hfail

end

/-! ### Any attempts -/

theorem attempt_accounted (cursor : Cursor) (kind : WireKind) :
    (∀ width, kind.width? = some width → (cursor.attempt kind).Counts width) ∧
      (kind = .text → (cursor.attempt kind).Spelled) ∧ (cursor.attempt kind).Tells := by
  cases kind with
  | int8 =>
    have hread : readValue .int8 = do return .int8 (← readInt8) := rfl
    obtain ⟨hcounts, htells⟩ := decodes_readInt8.attempt_counts hread (fun _ => rfl)
      (fun _ => Message.encodeInt8_decodeInt8) cursor
    exact ⟨fun width hwidth => Option.some.inj hwidth ▸ hcounts, nofun, htells⟩
  | int16 =>
    have hread : readValue .int16 = do return .int16 (← readInt16) := rfl
    obtain ⟨hcounts, htells⟩ := decodes_readInt16.attempt_counts hread (fun _ => rfl)
      (fun _ => Message.encodeInt16_decodeInt16) cursor
    exact ⟨fun width hwidth => Option.some.inj hwidth ▸ hcounts, nofun, htells⟩
  | int32 =>
    have hread : readValue .int32 = do return .int32 (← readInt32) := rfl
    obtain ⟨hcounts, htells⟩ := decodes_readInt32.attempt_counts hread (fun _ => rfl)
      (fun _ => Message.encodeInt32_decodeInt32) cursor
    exact ⟨fun width hwidth => Option.some.inj hwidth ▸ hcounts, nofun, htells⟩
  | text => exact ⟨nofun, fun _ => attempt_text_spelled cursor, attempt_text_tells cursor⟩

theorem kind_attempts (cursor : Cursor) (kinds : List WireKind) :
    (cursor.attempts kinds).map Attempt.kind = kinds := by
  induction kinds generalizing cursor with
  | nil => rfl
  | cons kind rest ih => exact congrArg (kind :: ·) (ih _)

theorem Within.values?_eq (h : cursor.Within payload) (kinds : List WireKind) :
    WholeRead.values? payload cursor.offset kinds = some ((cursor.attempts kinds).map
      fun attempt => (attempt.outcome, attempt.after.offset)) := by
  induction kinds generalizing cursor with
  | nil => rfl
  | cons kind rest ih =>
    -- Also after an error the cursor is in the payload, so the rest is read from where it is.
    obtain ⟨outcome, after, hread, hwhole, hafter⟩ := agrees_readValue kind cursor h
    rw [WholeRead.values?, hwhole, attempts, attempt_eq hread, Option.bind_eq_bind, Option.bind_some]
    dsimp only
    rw [ih hafter]
    rfl

theorem Within.attempts_within (h : cursor.Within payload) (kinds : List WireKind) :
    ∀ attempt ∈ cursor.attempts kinds, attempt.before.Within payload ∧
      attempt.after.Within payload ∧ attempt = attempt.before.attempt attempt.kind := by
  induction kinds generalizing cursor with
  | nil => exact fun _ hmem => nomatch hmem
  | cons kind rest ih =>
    obtain ⟨outcome, after, hread, -, hafter⟩ := agrees_readValue kind cursor h
    have hattempt := attempt_eq hread
    rw [attempts]
    refine List.forall_mem_cons.2 ⟨⟨h, ?_, rfl⟩, ih ?_⟩
    · rwa [hattempt]
    · rwa [hattempt]

/-- Reading is safe, also after errors. Whatever is attempted on a payload, one read after the other,
no slice leaves it and nothing else stops a read; the cursor stays in the payload; a number is read
unless fewer bytes are left than it takes; a text takes its length and its characters, or no more
than the length if that is negative or promises too much, or nothing, and is mistaken where the
characters are none; and of missing bytes it is told where they are missing, how many are left and
how many more were needed. -/
theorem attempts_are_safe (payload : List UInt8) (kinds : List WireKind) :
    WholeRead.values? payload 0 kinds = some (((ofBytes payload).attempts kinds).map
      fun attempt => (attempt.outcome, attempt.after.offset)) ∧
    ((ofBytes payload).attempts kinds).map Attempt.kind = kinds ∧
    ∀ attempt ∈ (ofBytes payload).attempts kinds,
      attempt.before.Within payload ∧ attempt.after.Within payload ∧
      (∀ width, attempt.kind.width? = some width → attempt.Counts width) ∧
      (attempt.kind = .text → attempt.Spelled) ∧ attempt.Tells := by
  have hstart := within_ofBytes payload
  refine ⟨hstart.values?_eq kinds, kind_attempts _ kinds, fun attempt hmem => ?_⟩
  obtain ⟨hbefore, hafter, hself⟩ := hstart.attempts_within kinds attempt hmem
  refine ⟨hbefore, hafter, ?_⟩
  rw [hself]
  exact attempt_accounted attempt.before attempt.kind

/-- After a text that was cut the cursor is behind its length. -/
example : ((ofBytes [0, 5, 97]).attempts [.text, .int8, .int16]).map
    (fun attempt => (attempt.outcome, attempt.after.offset)) =
    [(.error (.truncated 2 5 1), 2), (.ok (.int8 97), 3), (.error (.truncated 3 2 0), 3)] := rfl

end Cursor

end CharacterSim
