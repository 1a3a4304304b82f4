import BuildWatch.Log

/-!
The latest value, offered to any number of subscribers. Each subscriber has a queue of its own; a
subscriber whose queue is full when a value is published is dropped, gets what is still in its
queue and then the end. A new subscriber gets the latest value as a snapshot, and everything
published afterwards through its queue.
-/

namespace BuildWatch

/-- The queue of one subscriber; it is fed as long as it is registered. -/
structure Queue (α : Type) where
  id : Nat
  capacity : Nat
  items : List α
  isRegistered : Bool

namespace Queue

def isFull (queue : Queue α) : Bool :=
  queue.capacity ≤ queue.items.length

def isEvicted (queue : Queue α) : Bool :=
  queue.isRegistered && queue.isFull

def offer (queue : Queue α) (value : α) : Queue α :=
  if queue.isRegistered then
    if queue.isFull then { queue with isRegistered := false }
    else { queue with items := queue.items ++ [value] }
  else queue

end Queue

structure Broadcaster (α : Type) where
  current : α
  capacity : Nat
  nextId : Nat
  queues : List (Queue α)

inductive Received (α : Type) where
  | value (value : α)
  | empty
  | ended
  deriving DecidableEq, Repr

namespace Broadcaster

def create (initial : α) (capacity : Nat) : Broadcaster α :=
  ⟨initial, max 1 capacity, 0, []⟩

def count (states : Broadcaster α) : Nat :=
  states.queues.countP Queue.isRegistered

def subscribeWith (states : Broadcaster α) (capacity : Nat) : Broadcaster α :=
  { states with
    nextId := states.nextId + 1
    queues := states.queues ++ [⟨states.nextId, max 1 capacity, [], true⟩] }

def subscribe (states : Broadcaster α) : Broadcaster α :=
  states.subscribeWith states.capacity

/-- Stops feeding a queue; numbers that are not in use are ignored. -/
def unsubscribe (states : Broadcaster α) (id : Nat) : Broadcaster α :=
  { states with
    queues := states.queues.map fun queue =>
      if queue.id = id then { queue with isRegistered := false } else queue }

def drop (states : Broadcaster α) (id : Nat) : Broadcaster α :=
  { states with queues := states.queues.filter fun queue => queue.id ≠ id }

def close (states : Broadcaster α) : Broadcaster α :=
  { states with queues := states.queues.map fun queue => { queue with isRegistered := false } }

/-- Stores a value and offers it to every subscriber. -/
def publish (states : Broadcaster α) (value : α) : Broadcaster α :=
  { states with
    current := value
    queues := states.queues.map fun queue => queue.offer value }

def nameOf (id : Nat) : String :=
  "SubscriberId(" ++ toString id ++ ")"

def publishLog (states : Broadcaster α) (value : α) : List LogEntry :=
  (states.queues.filter Queue.isEvicted).map
      (fun queue => .debug "serve" ("evicting slow subscriber " ++ nameOf queue.id)) ++
    [.debug "serve" ("published to " ++ toString (states.publish value).count ++ "/" ++
      toString states.count ++ " subscribers")]

def queue? (states : Broadcaster α) (id : Nat) : Option (Queue α) :=
  states.queues.find? fun queue => queue.id = id

def look (states : Broadcaster α) (id : Nat) : Received α :=
  match states.queue? id with
  | none => .ended
  | some queue =>
    match queue.items with
    | value :: _ => .value value
    | [] => if queue.isRegistered then .empty else .ended

def take (states : Broadcaster α) (id : Nat) : Broadcaster α :=
  { states with
    queues := states.queues.map fun queue =>
      if queue.id = id then { queue with items := queue.items.drop 1 } else queue }

end Broadcaster

end BuildWatch
