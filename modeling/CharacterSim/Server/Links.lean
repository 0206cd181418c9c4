import CharacterSim.Effect
import CharacterSim.Server.Channel

/-! The connections of a server: a queue for each client, one for the account server, and a broadcast
of events. Effects are delivered in order; what a queue refuses is dropped and logged. -/

namespace CharacterSim

structure Links where
  clients : SortedMap Nat (Channel Message) := .empty
  /-- How many clients have tried to log in. -/
  arrivals : Nat := 0
  accounts : Option (Channel AttributeUpdate) := none
  events : Broadcast ServerEvent := .ofSize 100

namespace Links

/-- Connections with an account server, if its queue is to have any room, and with room for so many
events, but no clients. -/
def open? (accounts : Option Nat) (room : Nat) : Option Links := do
  return { accounts := ← accounts.mapM Channel.open?, events := ← Broadcast.open? room }

/-- Hands a message to the queue of a client. -/
def sendMessage (links : Links) (client : ClientId) (message : Message) : Links × List LogEvent :=
  match links.clients.get? client.val with
  | none => (links, [])
  | some channel =>
    match channel.send message with
    | .ok channel => ({ links with clients := links.clients.insert client.val channel }, [])
    | .error refusal =>
      (links, [{ level := .warn, message := "dropping outbound message",
                 fields := [("error", refusal.text)] }])

/-- Hands a change to the queue of the account server. -/
def sendUpdate (links : Links) (update : AttributeUpdate) : Links × List LogEvent :=
  match links.accounts with
  | none => (links, [])
  | some channel =>
    match channel.send update with
    | .ok channel => ({ links with accounts := some channel }, [])
    | .error refusal =>
      (links, [{ level := .warn, message := "dropping attribute update",
                 fields := [("error", refusal.text),
                   ("database_id", s!"{update.databaseId.toInt}"),
                   ("attribute", update.id.text)] }])

/-- Delivers one effect. The answer is what is logged of it. -/
def deliver (links : Links) : Effect → Links × List LogEvent
  | .sent client message => links.sendMessage client message
  | .reported update => links.sendUpdate update
  | .published event => ({ links with events := links.events.publish event }, [])
  | .logged event => (links, [event])
  | _ => (links, [])

/-- Delivers effects in order. -/
def deliverAll (links : Links) : List Effect → Links × List LogEvent
  | [] => (links, [])
  | effect :: rest =>
    let (links, first) := links.deliver effect
    let (links, later) := links.deliverAll rest
    (links, first ++ later)

/-- Numbers the next client, and opens a queue for it if it brings one. -/
def connect (links : Links) (capacity : Option Nat) : Step (Links × Option ClientId) :=
  let next := { links with arrivals := links.arrivals + 1 }
  match capacity with
  | none => return (next, none)
  | some capacity =>
    match Channel.open? capacity with
    | none => Step.fail (.queueCapacity capacity)
    | some channel =>
      return ({ next with clients := links.clients.insert links.arrivals channel },
        some ⟨links.arrivals⟩)

/-- What a client has received and not read. -/
def drainClient (links : Links) (client : ClientId) : List Message × Links :=
  match links.clients.get? client.val with
  | none => ([], links)
  | some channel =>
    let (messages, channel) := channel.drain
    (messages, { links with clients := links.clients.insert client.val channel })

/-- A client stops reading. -/
def closeClient (links : Links) (client : ClientId) : Links :=
  match links.clients.get? client.val with
  | none => links
  | some channel => { links with clients := links.clients.insert client.val channel.close }

/-- What the account server has received and not read. -/
def drainAccounts (links : Links) : List AttributeUpdate × Links :=
  match links.accounts with
  | none => ([], links)
  | some channel =>
    let (updates, channel) := channel.drain
    (updates, { links with accounts := some channel })

/-- The account server stops reading. -/
def closeAccounts (links : Links) : Links :=
  { links with accounts := links.accounts.map Channel.close }

/-- The events that were forgotten, counted, and those that were not. -/
def readEvents (links : Links) : (Nat × List ServerEvent) × Links :=
  let (events, broadcast) := links.events.read
  (events, { links with events := broadcast })

end Links

end CharacterSim
