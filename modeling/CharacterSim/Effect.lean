import CharacterSim.Character.Session
import CharacterSim.Event
import CharacterSim.Message.Basic

/-! What the simulation does to its surroundings. An operation is a `Step`: the effects it had, in
order, and its result, unless a caller's mistake stopped it half-way. -/

namespace CharacterSim

/-- Names the connection of a client. -/
structure ClientId where
  val : Nat
  deriving DecidableEq, Inhabited

/-- A change of an attribute that the account server is to keep. -/
structure AttributeUpdate where
  databaseId : Int32
  id : AttributeId
  base : Float
  modified : Float

inductive LogLevel where
  | debug
  | info
  | warn
  deriving DecidableEq

def LogLevel.text : LogLevel → String
  | debug => "DEBUG"
  | info => "INFO"
  | warn => "WARN"

/-- An entry of the server's log: a text and named details. -/
structure LogEvent where
  level : LogLevel
  message : String
  fields : List (String × String) := []
  deriving DecidableEq

/-- The moments at which a script may be called. -/
inductive Hook where
  | death
  | deathAccepted
  | login
  deriving DecidableEq

def Hook.text : Hook → String
  | death => "death"
  | deathAccepted => "death_accepted"
  | login => "login"

/-- What must wait until the current tick is over. -/
inductive WorldRequest where
  | warp (entity : EntityId) (map : MapId) (position : Position)
  | removal (entity : EntityId)
  deriving DecidableEq

/-- One thing done to the surroundings. -/
inductive Effect where
  /-- A message was handed to the connection of a client. -/
  | sent (client : ClientId) (message : Message)
  /-- The account server was told of a change. -/
  | reported (update : AttributeUpdate)
  /-- A script was called. -/
  | called (hook : Hook) (entity : EntityId)
  /-- The dialogue with an NPC was resumed. -/
  | resumed (npc : UInt16) (entity : EntityId)
  | requested (request : WorldRequest)
  /-- A session was told to cancel. -/
  | cancelled (session : SessionId)
  | logged (event : LogEvent)
  /-- An event was announced to whoever listens. -/
  | published (event : ServerEvent)

namespace Effect

def message? : Effect → Option Message
  | sent _ message => some message
  | _ => none

def update? : Effect → Option AttributeUpdate
  | reported update => some update
  | _ => none

def request? : Effect → Option WorldRequest
  | requested request => some request
  | _ => none

def logEvent? : Effect → Option LogEvent
  | logged event => some event
  | _ => none

/-- The sessions with the cancellation counted that an effect tells of. -/
def count (sessions : SessionTable) : Effect → SessionTable
  | cancelled session => sessions.noteCancel session
  | _ => sessions

end Effect

/-- Counts the cancellations among effects. -/
def SessionTable.noteAll (sessions : SessionTable) (effects : List Effect) : SessionTable :=
  effects.foldl Effect.count sessions

/-- A caller's mistake, which no result can answer. -/
inductive Fault where
  | missingComponent (kind : ComponentKind)
  | clearedTrade (active : TransactionKind)
  | clearedBuySell (active : TransactionKind)
  | noDialogue
  /-- No amount is nearest in a range without amounts. -/
  | unusableBounds
  /-- No queue has room for so many items. -/
  | queueCapacity (capacity : Nat)
  /-- A clock does not reach the next time that something is due. -/
  | clockOverflow
  deriving DecidableEq

/-- What is said of a mistake, if anything is. -/
def Fault.message? : Fault → Option String
  | missingComponent .being => some "character entity carries a being component"
  | missingComponent .actor => some "character entity carries an actor component"
  | missingComponent .ability => some "character entity carries an ability component"
  | clearedTrade active => some s!"cleared trade while a {active.text} transaction is active"
  | clearedBuySell active => some s!"cleared buy/sell while a {active.text} transaction is active"
  | noDialogue => some "resumed an NPC thread the character does not own"
  | unusableBounds => none
  | queueCapacity _ => none
  | clockOverflow => none

/-- The effects of an operation and its result. -/
structure Step (α : Type) where
  effects : List Effect
  result : Except Fault α

namespace Step

variable {α β : Type}

/-- A result without effects. -/
def ofResult (value : α) : Step α := ⟨[], .ok value⟩

/-- What follows a step happens after it, and does not happen when it was stopped. -/
def andThen (step : Step α) (next : α → Step β) : Step β :=
  match step.result with
  | .ok value =>
    let rest := next value
    ⟨step.effects ++ rest.effects, rest.result⟩
  | .error fault => ⟨step.effects, .error fault⟩

instance : Monad Step where
  pure := ofResult
  bind := andThen

/-- Effects and nothing else. -/
def emit (effects : List Effect) : Step Unit := ⟨effects, .ok ()⟩

/-- Stops the operation. -/
def fail (fault : Fault) : Step α := ⟨[], .error fault⟩

/-- An entry in the log. -/
def log (level : LogLevel) (message : String) (fields : List (String × String) := []) : Step Unit :=
  emit [.logged { level, message, fields }]

/-- The requests among effects, in order. -/
def requests (effects : List Effect) : List WorldRequest := effects.filterMap Effect.request?

/-- A step that also answers with what it requested. -/
def withRequests (step : Step α) : Step (α × List WorldRequest) :=
  ⟨step.effects, step.result.map fun value => (value, requests step.effects)⟩

/-- A value that has to be there. -/
def require (kind : ComponentKind) : Option α → Step α
  | some component => pure component
  | none => fail (.missingComponent kind)

@[ext] theorem ext {first second : Step α} (heffects : first.effects = second.effects)
    (hresult : first.result = second.result) : first = second := by
  cases first; cases second; cases heffects; cases hresult; rfl

@[simp] theorem effects_pure (value : α) : (pure value : Step α).effects = [] := rfl

@[simp] theorem result_pure (value : α) : (pure value : Step α).result = .ok value := rfl

theorem bind_of_ok {step : Step α} {value : α} (h : step.result = .ok value) (next : α → Step β) :
    step >>= next = ⟨step.effects ++ (next value).effects, (next value).result⟩ := by
  show step.andThen next = _
  rw [andThen, h]

theorem bind_of_error {step : Step α} {fault : Fault} (h : step.result = .error fault)
    (next : α → Step β) : step >>= next = ⟨step.effects, .error fault⟩ := by
  show step.andThen next = _
  rw [andThen, h]

instance : LawfulMonad Step := LawfulMonad.mk' Step
  (fun step => by
    rcases hresult : step.result with fault | value
    · exact (bind_of_error hresult _).trans (Step.ext rfl hresult.symm)
    · exact (bind_of_ok hresult _).trans (Step.ext (List.append_nil _) hresult.symm))
  (fun value next => by
    exact (bind_of_ok (result_pure value) next).trans rfl)
  (fun step next last => by
    rcases hresult : step.result with fault | value
    · rw [bind_of_error hresult, bind_of_error hresult, bind_of_error rfl]
    · rw [bind_of_ok hresult, bind_of_ok hresult]
      rcases hnext : (next value).result with fault | other
      · rw [bind_of_error rfl, bind_of_error hnext]
      · rw [bind_of_ok rfl, bind_of_ok hnext]
        simp)

end Step

end CharacterSim
