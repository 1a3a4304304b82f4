import BuildWatch.Broadcast.Waiter
import BuildWatch.Debounce

/-!
Subscribers and waiters of one broadcaster on a clock that jumps from one due time to the next.
Values that are published together reach the waiters before any of them has a turn; those that
pause have their next turns in the opposite order. A waiter whose time is over takes what it has
been sent first.
-/

namespace BuildWatch.Simulation

structure TimedWait (α : Type) where
  serial : Nat
  label : Int
  waiter : Waiter α
  deadline : Time

structure EndedWait (α : Type) where
  label : Int
  value : Option α
  time : Time

/-- The broadcaster, the subscriptions by the order in which they were made (none once dropped),
and the waiters that are still waiting. -/
structure Fanout (α : Type) where
  now : Time
  states : Broadcaster α
  hasHandle : Bool
  subscriptions : List (Option Nat)
  waits : List (TimedWait α)
  nextWait : Nat
  ended : List (EndedWait α)
  log : List LogEntry

namespace Fanout

def start (initial : α) (capacity : Nat) : Fanout α :=
  ⟨0, .create initial capacity, true, [], [], 0, [], []⟩

def clear (run : Fanout α) : Fanout α :=
  { run with ended := [], log := [] }

def closeUnused (run : Fanout α) : Fanout α :=
  if run.hasHandle || !run.waits.isEmpty then run else { run with states := run.states.close }

/-- Gives one waiter a turn; keeps it if it has to wait on, and adds it to those that pause if it
has not found the end of its queue. -/
def poll (run : Fanout α × List (TimedWait α)) (wait : TimedWait α) :
    Fanout α × List (TimedWait α) :=
  let (run, pausing) := run
  let (turn, states, log) := wait.waiter.turn run.states
  let run := { run with states, log := run.log ++ log }
  match turn with
  | .finished value =>
    ({ run with ended := run.ended ++ [⟨wait.label, some value, run.now⟩] }, pausing)
  | .waiting waiter => ({ run with waits := run.waits ++ [{ wait with waiter }] }, pausing)
  | .paused waiter => (run, { wait with waiter } :: pausing)

def pollAll : Nat → Fanout α → List (TimedWait α) → Fanout α
  | 0, run, waits => { run with waits := run.waits ++ waits }
  | rounds + 1, run, waits =>
    let (run, pausing) := waits.foldl poll (run, [])
    if pausing.isEmpty then run else pollAll rounds run pausing

def expire (run : Fanout α) (wait : TimedWait α) : Fanout α :=
  let now := max run.now wait.deadline
  { run with
    now := now
    states := (wait.waiter.expire.leave run.states).2
    ended := run.ended ++ [⟨wait.label, none, now⟩] }

def expiresFirst (left right : TimedWait α) : Bool :=
  left.deadline < right.deadline ||
    left.deadline = right.deadline && left.serial ≤ right.serial

def expireBy (run : Fanout α) (time : Time) : Fanout α :=
  let due := (run.waits.filter fun wait => wait.deadline ≤ time).mergeSort expiresFirst
  let run := { run with waits := run.waits.filter fun wait => time < wait.deadline }
  (due.foldl expire run).closeUnused

def order (wait : TimedWait α) (states : Broadcaster α) : Nat :=
  wait.waiter.subscription.getD states.nextId

def rounds (run : Fanout α) : Nat :=
  (run.states.queues.map fun queue => queue.items.length / Waiter.stride).foldl max 0 + 3

def settle (run : Fanout α) : Fanout α :=
  let waits := run.waits.mergeSort fun left right =>
    order left run.states ≤ order right run.states
  (pollAll run.rounds { run with waits := [] } waits).expireBy run.now

def publish (run : Fanout α) (values : List α) : Fanout α :=
  let sent := values.foldl
    (fun run value =>
      { run with
        states := run.states.publish value
        log := run.log ++ run.states.publishLog value }) run
  sent.settle

def subscribe (run : Fanout α) (capacity : Option Nat) : Fanout α :=
  { run with
    subscriptions := run.subscriptions ++ [some run.states.nextId]
    states := match capacity with
      | some capacity => run.states.subscribeWith capacity
      | none => run.states.subscribe }

def idOf (run : Fanout α) (subscription : Nat) : Option Nat :=
  (run.subscriptions[subscription]?).join

def drop (run : Fanout α) (subscription : Nat) : Fanout α :=
  match run.idOf subscription with
  | none => run
  | some id =>
    { run with
      subscriptions := run.subscriptions.set subscription none
      states := run.states.drop id }

def advance (run : Fanout α) (time : Time) : Fanout α :=
  let now := run.now + min time longestWait
  { run.expireBy now with now }

def wait (run : Fanout α) (label : Int) (accepts : α → Bool) (time : Time) : Fanout α :=
  let wait : TimedWait α := ⟨run.nextWait, label, .start accepts, run.now + time⟩
  { run with waits := run.waits ++ [wait], nextWait := run.nextWait + 1 }.settle

def dropHandle (run : Fanout α) : Fanout α :=
  { run with hasHandle := false }.closeUnused

def tryReceive (run : Fanout α) (id : Nat) : Option α × Fanout α :=
  match run.states.look id with
  | .value value => (some value, { run with states := run.states.take id })
  | .empty | .ended => (none, run)

def drain (run : Fanout α) (id : Nat) : List α × Fanout α :=
  let items := ((run.states.queue? id).map Queue.items).getD []
  (items, items.foldl (fun run _ => { run with states := run.states.take id }) run)

/-- Waits for the next value of a queue. While nobody publishes, an empty queue stays empty; it
ends before the time is over when the last waiter that could feed it does. -/
def receive (run : Fanout α) (id : Nat) (time : Time) : Received α × Fanout α :=
  match run.states.look id with
  | .value value => (.value value, { run with states := run.states.take id })
  | .ended => (.ended, run)
  | .empty =>
    let limit := run.now + time
    let last := (run.waits.map TimedWait.deadline).foldl max run.now
    if !run.hasHandle && last < limit then (.ended, run.advance (last - run.now))
    else (.empty, run.advance time)

end Fanout

end BuildWatch.Simulation
