import BuildWatch.Proofs.Broadcast.Follower

/-!
A broadcaster and its followers do not look into the values. So a run can be followed with the
numbers of the values in their place, which tells equal values from each other.
-/

namespace BuildWatch

variable {α β : Type} (rename : α → β)

def Queue.map (queue : Queue α) : Queue β :=
  ⟨queue.id, queue.capacity, queue.items.map rename, queue.isRegistered⟩

def Received.map : Received α → Received β
  | value item => value (rename item)
  | empty => empty
  | ended => ended

def Broadcaster.map (states : Broadcaster α) : Broadcaster β :=
  ⟨rename states.current, states.capacity, states.nextId, states.queues.map (Queue.map rename)⟩

def BroadcastAction.map : BroadcastAction α → BroadcastAction β
  | subscribe capacity => subscribe capacity
  | publish value => publish (rename value)
  | unsubscribe id => unsubscribe id
  | drop id => drop id
  | receive id => receive id

def FeedAction.map : FeedAction α → FeedAction β
  | next => next
  | leave => leave
  | other action => other (action.map rename)

def Feed.map (feed : Feed α) : Feed β :=
  ⟨feed.states.map rename, feed.follower⟩

namespace Broadcaster

end Broadcaster

namespace Feed

end Feed

def numbered (count : Nat) : List (FeedAction α) → List (FeedAction Nat)
  | [] => []
  | action :: rest =>
    action.map (fun _ => count) :: numbered (count + action.published?.toList.length) rest

end BuildWatch
