import CharacterSim.Proofs.Character.LoginCodec

/-! How far a login reaches into its message. It takes the bytes that spell it whatever comes behind
them, and a message that ends before them is refused at the field in which it ends. -/

namespace CharacterSim

namespace Cursor

variable {before after : Cursor} {bytes : List UInt8}

/-- The place when more bytes are still to come behind the others. -/
def extend (cursor : Cursor) (more : List UInt8) : Cursor := ⟨cursor.offset, cursor.unread ++ more⟩

/-- The place when the message ends after so many bytes more. -/
def cut (cursor : Cursor) (count : Nat) : Cursor := ⟨cursor.offset, cursor.unread.take count⟩

theorem remaining_extend (cursor : Cursor) (more : List UInt8) :
    (cursor.extend more).remaining = cursor.remaining + more.length := List.length_append

theorem remaining_cut {cursor : Cursor} {count : Nat} (h : count ≤ cursor.remaining) :
    (cursor.cut count).remaining = count := List.length_take_of_le h

theorem extend_cut (cursor : Cursor) (count : Nat) :
    (cursor.cut count).extend (cursor.unread.drop count) = cursor := by
  rw [extend, cut, List.take_append_drop]

theorem take_unread_cut (cursor : Cursor) {width count : Nat} (h : width ≤ count) :
    (cursor.cut count).unread.take width = cursor.unread.take width := by
  rw [cut, List.take_take, Nat.min_eq_left h]

theorem advance_cut (cursor : Cursor) (width count : Nat) :
    (cursor.cut count).advance width = (cursor.advance width).cut (count - width) := by
  rw [cut, cut, advance, advance, List.drop_take]

/-- What is spelled stays so, whatever comes behind it. -/
theorem Spells.extend (h : before.Spells bytes after) (more : List UInt8) :
    (before.extend more).Spells bytes (after.extend more) := by
  refine ⟨?_, h.2⟩
  rw [Cursor.extend, h.1, List.append_assoc]
  rfl

/-- What stands at the beginning of a message is all of it but what is left. -/
theorem Spells.eq_take {message : List UInt8} (h : (ofBytes message).Spells bytes after) :
    message.take (message.length - after.remaining) = bytes := by
  have hmessage : message = bytes ++ after.unread := h.1
  rw [hmessage, List.length_append, Cursor.remaining, Nat.add_sub_cancel, List.take_left]

end Cursor

/-- No field that is whole offends in a message that ends early, if none did in the message: it is
accepted as well, or else the first field is missed that does not end before the message does. -/
theorem Verdict.cut {objects : Nat → List UInt8 → LoginField → Option ConstructionError}
    {fields : List LoginField} {cursor : Cursor} (h : Verdict objects fields cursor none)
    {count : Nat} (hcount : count ≤ cursor.remaining) :
    Verdict objects fields (cursor.cut count) none ∨
      ∃ offset needed available, available < needed ∧ offset + available = cursor.offset + count ∧
        Verdict objects fields (cursor.cut count)
          (some (.wire (.truncated offset needed available))) := by
  generalize hverdict : (none : Option ConstructionError) = verdict at h
  induction h generalizing count with
  | accepted cursor => exact .inl (.accepted _)
  | truncated => cases hverdict
  | refused => cases hverdict
  | @passed field rest cursor verdict hlong hnone _ ih =>
    have hremaining : (cursor.cut count).remaining = count := Cursor.remaining_cut hcount
    by_cases hwhole : field.width ≤ count
    · -- The field stands whole in the shorter message, and what it opens is read behind it.
      have hbytes := cursor.take_unread_cut hwhole
      have hnone' : objects (cursor.cut count).offset
          ((cursor.cut count).unread.take field.width) field = none := hbytes ▸ hnone
      have hlong' : field.width ≤ (cursor.cut count).remaining := hremaining.symm ▸ hwhole
      have hleft : count - field.width ≤ (cursor.advance field.width).remaining := by
        have hdrop : (cursor.advance field.width).remaining = cursor.remaining - field.width :=
          List.length_drop
        omega
      rcases ih hleft hverdict with hrest | ⟨offset, needed, available, hless, hat, hrest⟩
      · refine .inl (.passed hlong' hnone' ?_)
        rwa [hbytes, Cursor.advance_cut]
      · refine .inr ⟨offset, needed, available, hless, ?_, .passed hlong' hnone' ?_⟩
        · have hoffset : (cursor.advance field.width).offset = cursor.offset + field.width := rfl
          omega
        · rwa [hbytes, Cursor.advance_cut]
    · have hshort : (cursor.cut count).remaining < field.width := by
        rw [hremaining]
        exact Nat.lt_of_not_le hwhole
      exact .inr ⟨_, _, _, hshort, congrArg _ hremaining, .truncated field rest hshort⟩

namespace Character

variable {id : EntityId} {context : CharacterContext} {client : Option ClientId}
  {message rest : Cursor} {character : Character}

/-- A login that succeeds makes the same of a longer message, and leaves the rest of it. -/
theorem logIn_extend (h : context.registry.Accepted)
    (haccepted : logIn id context client message = .ok (.ok character, rest)) (more : List UInt8) :
    logIn id context client (message.extend more) = .ok (.ok character, rest.extend more) := by
  obtain ⟨login, hlogin, hspells, hmade⟩ := (ofMessage_ok_iff h.coherent).1 haccepted
  exact (ofMessage_ok_iff h.coherent).2 ⟨login, hlogin, hspells.extend more, hmade⟩

/-- A message that ends among the bytes that its login takes is too short. -/
theorem logIn_cut (h : context.registry.Accepted)
    (haccepted : logIn id context client message = .ok (.ok character, rest)) {count : Nat}
    (hcount : count + rest.remaining < message.remaining) :
    ∃ offset needed available stop, available < needed ∧
      offset + available = message.offset + count ∧
      logIn id context client (message.cut count) =
        .ok (.error (.wire (.truncated offset needed available)), stop) := by
  have hverdict := verdict_ofMessage id client message h.coherent
  rw [logIn] at haccepted
  rw [haccepted] at hverdict
  rcases hverdict.cut (Nat.le_of_lt (Nat.lt_of_le_of_lt (Nat.le_add_right _ _) hcount)) with
    hnone | ⟨offset, needed, available, hless, hat, herror⟩
  · -- Were the beginning enough, the whole message would leave more than it does.
    have hcut := verdict_ofMessage id client (message.cut count) h.coherent
    split at hcut
    · next character' rest' hresult =>
      have hextended := logIn_extend h hresult (message.unread.drop count)
      rw [Cursor.extend_cut] at hextended
      cases haccepted.symm.trans hextended
      have hleft := Cursor.remaining_extend rest' (message.unread.drop count)
      have hdrop : (message.unread.drop count).length = message.remaining - count :=
        List.length_drop
      omega
    · cases hnone.unique hcut
    · exact hcut.elim
  · obtain ⟨stop, hstop⟩ := (ofMessage_error_iff h.coherent).2 herror
    exact ⟨offset, needed, available, stop, hless, hat, hstop⟩

/-- A login says itself where it ends. A message that ends earlier is refused for the field in which
it ends, and what comes behind the login changes nothing of it and is left unread. -/
theorem logIn_delimits_itself (id : EntityId) (context : CharacterContext)
    (client : Option ClientId) (payload : List UInt8) (character : Character) (rest : Cursor)
    (h : context.registry.Accepted)
    (haccepted : logIn id context client (.ofBytes payload) = .ok (.ok character, rest)) :
    (∀ count < payload.length - rest.remaining,
      ∃ offset needed available stop, available < needed ∧ offset + available = count ∧
        logIn id context client (.ofBytes (payload.take count)) =
          .ok (.error (.wire (.truncated offset needed available)), stop)) ∧
      ∀ more, ∃ stop, stop.remaining = more.length ∧
        logIn id context client
            (.ofBytes (payload.take (payload.length - rest.remaining) ++ more)) =
          .ok (.ok character, stop) := by
  refine ⟨fun count hcount => ?_, fun more => ?_⟩
  · have hinside : count + rest.remaining < (Cursor.ofBytes payload).remaining :=
      Nat.add_lt_of_lt_sub hcount
    obtain ⟨offset, needed, available, stop, hless, hat, hrefused⟩ :=
      logIn_cut h haccepted hinside
    exact ⟨offset, needed, available, stop, hless, hat.trans (Nat.zero_add _), hrefused⟩
  · obtain ⟨login, hlogin, hspells, hmade⟩ := (ofMessage_ok_iff h.coherent).1 haccepted
    have halone : logIn id context client (.ofBytes login.bytes) =
        .ok (.ok character, ⟨login.bytes.length, []⟩) :=
      (ofMessage_ok_iff h.coherent).2 ⟨login, hlogin, Cursor.spells_ofBytes _, hmade⟩
    rw [hspells.eq_take]
    exact ⟨_, (Cursor.remaining_extend _ _).trans (Nat.zero_add _), logIn_extend h halone more⟩

/-- The second base of the revised message takes its bytes 20 to 23. Cut within it, the message is
too short, and the same character is made of it whatever comes behind. -/
theorem revisedMessage_delimits_itself : ∃ character,
    logIn ⟨1⟩ { registry := .sample } none (.ofBytes (revisedMessage.bytes ++ [255])) =
        .ok (.ok character, ⟨40, [255]⟩) ∧
      (∃ offset needed available stop, available < needed ∧ offset + available = 23 ∧
        logIn ⟨1⟩ { registry := .sample } none (.ofBytes (revisedMessage.bytes.take 23)) =
          .ok (.error (.wire (.truncated offset needed available)), stop)) ∧
      ∃ stop, stop.remaining = 2 ∧
        logIn ⟨1⟩ { registry := .sample } none (.ofBytes (revisedMessage.bytes ++ [254, 255])) =
          .ok (.ok character, stop) := by
  have hspells : (Cursor.ofBytes (revisedMessage.bytes ++ [255])).Spells revisedMessage.bytes
      ⟨40, [255]⟩ := ⟨rfl, by decide⟩
  have haccepted := logIn_of_spells ⟨1⟩ none AttributeRegistry.sample_accepted
    admissible_revisedMessage hspells
  obtain ⟨hcuts, hmore⟩ := logIn_delimits_itself ⟨1⟩ { registry := .sample } none _ _ _
    AttributeRegistry.sample_accepted haccepted
  exact ⟨_, haccepted, hcuts 23 (by decide), hmore [254, 255]⟩

end Character

end CharacterSim
