import CharacterSim.Collections.SortedMap

/-! The interactive sessions that characters take part in. A session belongs to the subsystem that
opened it and ends when that subsystem releases it; a character only refers to it. -/

namespace CharacterSim

/-- Refers to a session: a key, and which of the sessions opened under that key is meant. -/
structure SessionId where
  key : Int64
  generation : Nat
  deriving DecidableEq, Inhabited

/-- The exclusive transaction of a character. -/
inductive Transaction where
  | none
  | trade (session : SessionId)
  | buySell (session : SessionId)
  deriving DecidableEq, Inhabited

inductive TransactionKind where
  | none
  | trade
  | buySell
  deriving DecidableEq

namespace TransactionKind

def text : TransactionKind → String
  | none => "none"
  | trade => "trade"
  | buySell => "buy_sell"

/-- The spelling of a kind in descriptions of a character. -/
def label : TransactionKind → String
  | none => "None"
  | trade => "Trade"
  | buySell => "BuySell"

end TransactionKind

namespace Transaction

def kind : Transaction → TransactionKind
  | none => .none
  | trade _ => .trade
  | buySell _ => .buySell

/-- The session a transaction refers to, whether it was released or not. -/
def session? : Transaction → Option SessionId
  | none => .none
  | trade session => some session
  | buySell session => some session

/-- The trade, if that is what is active and it was not released. -/
def trading? (alive : SessionId → Bool) : Transaction → Option SessionId
  | trade session => if alive session then some session else .none
  | _ => .none

/-- The session with a merchant, if that is what is active and it was not released. -/
def buySell? (alive : SessionId → Bool) : Transaction → Option SessionId
  | buySell session => if alive session then some session else .none
  | _ => .none

end Transaction

/-- What the owner of the sessions under one key keeps. -/
structure SessionEntry where
  generation : Nat
  alive : Bool
  cancels : Nat
  deriving DecidableEq

/-- The sessions of all owners by key. -/
structure SessionTable where
  entries : SortedMap Int64 SessionEntry

namespace SessionTable

def empty : SessionTable := ⟨.empty⟩

instance : Inhabited SessionTable := ⟨empty⟩

/-- Whether a session was opened and not released. -/
def isAlive (table : SessionTable) (session : SessionId) : Bool :=
  match table.entries.get? session.key with
  | some entry => entry.alive && entry.generation == session.generation
  | none => false

/-- The session open under a key, after opening one if none is. -/
def openUnder (table : SessionTable) (key : Int64) : SessionTable × SessionId :=
  match table.entries.get? key with
  | none => (⟨table.entries.insert key ⟨0, true, 0⟩⟩, ⟨key, 0⟩)
  | some entry =>
    if entry.alive then (table, ⟨key, entry.generation⟩)
    else
      let generation := entry.generation + 1
      (⟨table.entries.insert key { entry with generation, alive := true }⟩, ⟨key, generation⟩)

/-- The session open under a key, if a key is given. -/
def openUnder? (table : SessionTable) : Option Int64 → SessionTable × Option SessionId
  | none => (table, none)
  | some key =>
    let (table, session) := table.openUnder key
    (table, some session)

/-- Releases the session open under a key; `none` when there is none. -/
def release? (table : SessionTable) (key : Int64) : Option SessionTable :=
  match table.entries.get? key with
  | none => none
  | some entry =>
    if entry.alive then some ⟨table.entries.insert key { entry with alive := false }⟩ else none

/-- Counts that a session was told to cancel. -/
def noteCancel (table : SessionTable) (session : SessionId) : SessionTable :=
  match table.entries.get? session.key with
  | none => table
  | some entry => ⟨table.entries.insert session.key { entry with cancels := entry.cancels + 1 }⟩

end SessionTable

end CharacterSim
