/-! Queues between the simulation and those it talks to. A bounded queue refuses what does not fit
instead of making the simulation wait; a broadcast forgets its oldest events instead. -/

namespace CharacterSim

/-- Why a queue did not take an item. -/
inductive SendRefusal where
  | full
  | closed
  deriving DecidableEq

def SendRefusal.text : SendRefusal → String
  | full => "no available capacity"
  | closed => "channel closed"

/-- A queue as its senders and its reader see it. Items are taken out in the order in which they were
put in, and nothing else gets in. When and why a queue refuses an item is not said. -/
class Mailbox (κ : Type) (α : outParam Type) where
  open? : Nat → Option κ
  send : κ → α → Except SendRefusal κ
  /-- Takes out the first item. -/
  take? : κ → Option (α × κ)
  /-- The reader goes away. -/
  close : κ → κ
  /-- The items that wait, the first of them in front. -/
  waiting : κ → List α
  waiting_open {capacity : Nat} {queue : κ} : open? capacity = some queue → waiting queue = []
  waiting_send {queue next : κ} {item : α} :
    send queue item = .ok next → waiting next = waiting queue ++ [item]
  waiting_take {queue rest : κ} {item : α} :
    take? queue = some (item, rest) → waiting queue = item :: waiting rest
  waiting_of_none {queue : κ} : take? queue = none → waiting queue = []
  waiting_close (queue : κ) : waiting (close queue) = []

/-- When an item waits, it can be taken out. -/
theorem Mailbox.take?_of_waiting {κ α : Type} [Mailbox κ α] {queue : κ} {item : α} {items : List α}
    (h : waiting queue = item :: items) :
    ∃ rest, take? queue = some (item, rest) ∧ waiting rest = items := by
  cases htake : take? queue with
  | none => cases (waiting_of_none htake).symm.trans h
  | some taken =>
    cases (waiting_take htake).symm.trans h
    exact ⟨taken.2, rfl, rfl⟩

/-- A queue of limited length, which its reader may close. -/
structure Channel (α : Type) where
  capacity : Nat
  queue : List α := []
  closed : Bool := false

namespace Channel

variable {α : Type}

/-- Every queue has room for at least one item, and for fewer than this many. -/
def capacityLimit : Nat := Nat.pow 2 61

def isCapacity (capacity : Nat) : Bool := 0 < capacity && capacity < capacityLimit

/-- An open queue. -/
def open? (capacity : Nat) : Option (Channel α) :=
  if isCapacity capacity then some { capacity } else none

/-- Puts an item at the end of the queue. -/
def send (channel : Channel α) (item : α) : Except SendRefusal (Channel α) :=
  if channel.closed then .error .closed
  else if channel.capacity ≤ channel.queue.length then .error .full
  else .ok { channel with queue := channel.queue ++ [item] }

/-- Takes the first item out. -/
def take? (channel : Channel α) : Option (α × Channel α) :=
  match channel.queue with
  | [] => none
  | item :: rest => some (item, { channel with queue := rest })

/-- Takes every item out. -/
def drain (channel : Channel α) : List α × Channel α :=
  (channel.queue, { channel with queue := [] })

/-- The reader goes away, and what it did not read with it. -/
def close (channel : Channel α) : Channel α := { channel with queue := [], closed := true }

theorem queue_open {capacity : Nat} {channel : Channel α} (h : open? capacity = some channel) :
    channel.queue = [] := by
  unfold open? at h
  split at h
  · cases h
    rfl
  · cases h

theorem queue_send {channel next : Channel α} {item : α} (h : channel.send item = .ok next) :
    next.queue = channel.queue ++ [item] := by
  unfold send at h
  split at h
  · cases h
  · split at h
    · cases h
    · cases h
      rfl

theorem queue_take {channel rest : Channel α} {item : α} (h : channel.take? = some (item, rest)) :
    channel.queue = item :: rest.queue := by
  unfold take? at h
  split at h
  · cases h
  · next hqueue =>
    cases h
    exact hqueue

theorem queue_of_none {channel : Channel α} (h : channel.take? = none) : channel.queue = [] := by
  unfold take? at h
  split at h
  · next hqueue => exact hqueue
  · cases h

instance : Mailbox (Channel α) α where
  open? := open?
  send := send
  take? := take?
  close := close
  waiting := queue
  waiting_open := queue_open
  waiting_send := queue_send
  waiting_take := queue_take
  waiting_of_none := queue_of_none
  waiting_close _ := rfl

end Channel

/-- Events for a subscriber that may fall behind: of those it has not read only the latest are kept.
The room for them is rounded up to a power of two. -/
structure Broadcast (α : Type) where
  room : Nat
  unread : List α := []
  /-- How many were forgotten since the last reading. -/
  missed : Nat := 0

namespace Broadcast

variable {α : Type}

def ofSize (size : Nat) : Broadcast α := { room := size.nextPowerOfTwo }

/-- A broadcast with room of a size that a queue can have. -/
def open? (size : Nat) : Option (Broadcast α) :=
  if Channel.isCapacity size then some (ofSize size) else none

def publish (broadcast : Broadcast α) (event : α) : Broadcast α :=
  let unread := broadcast.unread ++ [event]
  let excess := unread.length - broadcast.room
  { broadcast with unread := unread.drop excess, missed := broadcast.missed + excess }

/-- How many events were forgotten, and those that were not. -/
def read (broadcast : Broadcast α) : (Nat × List α) × Broadcast α :=
  ((broadcast.missed, broadcast.unread), { broadcast with unread := [], missed := 0 })

end Broadcast

end CharacterSim
