import BuildWatch.Broadcast.Basic

/-!
Waiting for a value. A waiter subscribes and looks at the snapshot and then at every value of its
queue; when it is dropped as too slow it subscribes again. Leaving the queue behind is its last
step, whether it has its value or its time is over. It works in turns, so that one with a long
queue does not keep others waiting.
-/

namespace BuildWatch

/-- How far a waiter has come: it is to subscribe, reads its queue, leaves the queue behind with
the value that it has found, or without one, or has gone. -/
inductive WaitStage (α : Type) where
  | joining
  | reading (queue : Nat)
  | leaving (queue : Nat) (found : Option α)
  | gone (found : Option α)
  deriving DecidableEq, Repr

structure Waiter (α : Type) where
  accepts : α → Bool
  stage : WaitStage α

/-- How a turn of a waiter ends; one that is paused goes on in its next turn. -/
inductive WaitTurn (α : Type) where
  | finished (value : α)
  | waiting (waiter : Waiter α)
  | paused (waiter : Waiter α)

namespace Waiter

def start (accepts : α → Bool) : Waiter α := ⟨accepts, .joining⟩

def subscription (waiter : Waiter α) : Option Nat :=
  match waiter.stage with
  | .reading id | .leaving id _ => some id
  | .joining | .gone _ => none

def resubscribing : LogEntry :=
  .debug "serve" "waiter evicted, resubscribing"

def onValue (waiter : Waiter α) (id : Nat) (value : α) : Waiter α :=
  { waiter with
    stage := if waiter.accepts value then .leaving id (some value) else .reading id }

def join (waiter : Waiter α) (states : Broadcaster α) : Waiter α × Broadcaster α :=
  (waiter.onValue states.nextId states.current, states.subscribe)

/-- One look into a queue: takes a value, or notices the end and gives the queue up; none when
there is nothing yet. -/
def look? (waiter : Waiter α) (id : Nat) (states : Broadcaster α) :
    Option (Waiter α × Broadcaster α × List LogEntry) :=
  match states.look id with
  | .value value => some (waiter.onValue id value, states.take id, [])
  | .empty => none
  | .ended => some ({ waiter with stage := .joining }, states.drop id, [resubscribing])

def leave (waiter : Waiter α) (states : Broadcaster α) : Waiter α × Broadcaster α :=
  match waiter.stage with
  | .leaving id found => ({ waiter with stage := .gone found }, states.drop id)
  | .joining | .reading _ | .gone _ => (waiter, states)

def step? (waiter : Waiter α) (states : Broadcaster α) :
    Option (Waiter α × Broadcaster α × List LogEntry) :=
  match waiter.stage with
  | .joining => some ((waiter.join states).1, (waiter.join states).2, [])
  | .reading id => waiter.look? id states
  | .leaving .. => some ((waiter.leave states).1, (waiter.leave states).2, [])
  | .gone _ => none

def expire (waiter : Waiter α) : Waiter α :=
  match waiter.stage with
  | .joining => { waiter with stage := .gone none }
  | .reading id => { waiter with stage := .leaving id none }
  | .leaving .. | .gone _ => waiter

def glide (waiter : Waiter α) (states : Broadcaster α) : Waiter α × Broadcaster α :=
  let (waiter, states) := match waiter.stage with
    | .joining => waiter.join states
    | .reading _ | .leaving .. | .gone _ => (waiter, states)
  waiter.leave states

def lookWithin : Nat → Waiter α → Broadcaster α → List LogEntry →
    WaitTurn α × Broadcaster α × List LogEntry
  | allowance, waiter, states, log =>
    match allowance, waiter.stage with
    | _, .gone (some value) => (.finished value, states, log)
    | 0, _ => (.paused waiter, states, log)
    | allowance + 1, .reading id =>
      match waiter.look? id states with
      | none => (.waiting waiter, states, log)
      | some (waiter, states, more) =>
        let (waiter, states) := waiter.glide states
        lookWithin allowance waiter states (log ++ more)
    | _, _ => (.waiting waiter, states, log)

/-- How often a waiter finds something in its queue before its turn is over. -/
def stride : Nat := 128

def turn (waiter : Waiter α) (states : Broadcaster α) :
    WaitTurn α × Broadcaster α × List LogEntry :=
  let (waiter, states) := waiter.glide states
  lookWithin stride waiter states []

end Waiter

end BuildWatch
