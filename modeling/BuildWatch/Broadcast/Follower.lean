import BuildWatch.Broadcast.Basic

/-!
Following a broadcaster. Who follows one shows the snapshot when it subscribes and then every value
of its queue; when the queue ends it was dropped as too slow, and it subscribes again.
-/

namespace BuildWatch

inductive Follower where
  | joining
  | reading (queue : Nat)
  | gone
  deriving DecidableEq, Repr

structure Feed (α : Type) where
  states : Broadcaster α
  follower : Follower

namespace Feed

def create (initial : α) (capacity : Nat) : Feed α :=
  ⟨.create initial capacity, .joining⟩

def publish (feed : Feed α) (value : α) : Feed α :=
  { feed with states := feed.states.publish value }

/-- What the follower does next and what it shows then, unless it has to wait. Subscribing again is
a step of its own, before which more may be published. -/
def next? (feed : Feed α) : Option (Feed α × Option α) :=
  match feed.follower with
  | .joining =>
    some (⟨feed.states.subscribe, .reading feed.states.nextId⟩, some feed.states.current)
  | .reading id =>
    match feed.states.look id with
    | .value value => some ({ feed with states := feed.states.take id }, some value)
    | .ended => some (⟨feed.states.drop id, .joining⟩, none)
    | .empty => none
  | .gone => none

def leave (feed : Feed α) : Feed α :=
  match feed.follower with
  | .reading id => ⟨feed.states.drop id, .gone⟩
  | .joining | .gone => { feed with follower := .gone }

end Feed

end BuildWatch
