import CharacterSim.Effect

/-! Exclusive transactions: at most one session is active, and entering another cancels it first.
References do not keep a session; `alive` says which sessions their owners still hold. -/

namespace CharacterSim.Transaction

/-- Tells the active session to cancel, which nothing comes of when it was released. -/
def cancel (active : Transaction) (alive : SessionId → Bool) : Step Transaction := do
  match active.session? with
  | Option.none => pure ()
  | some session =>
    if alive session then
      Step.emit [.cancelled session]
      Step.log .debug "transaction cancelled"
    else
      Step.log .warn "cancelled a transaction whose session was already released"
  return .none

/-- Enters a trade after cancelling what was active, or clears a finished trade. -/
def setTrading (active : Transaction) (alive : SessionId → Bool) :
    Option SessionId → Step Transaction
  | some session => do
    let _ ← active.cancel alive
    return .trade session
  | Option.none =>
    match active with
    | .buySell _ => Step.fail (.clearedTrade active.kind)
    | _ => return .none

/-- Enters a session with a merchant after cancelling what was active, or clears a finished one. -/
def setBuySell (active : Transaction) (alive : SessionId → Bool) :
    Option SessionId → Step Transaction
  | some session => do
    let _ ← active.cancel alive
    return .buySell session
  | Option.none =>
    match active with
    | .trade _ => Step.fail (.clearedBuySell active.kind)
    | _ => return .none

end CharacterSim.Transaction
