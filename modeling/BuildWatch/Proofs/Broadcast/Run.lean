import BuildWatch.Broadcast.Basic
import Mathlib

/-!
Histories of a broadcaster: what is done with it and with the subscriptions to it, and what one
subscriber gets of that. A subscriber has nothing but its own queue, so of a history only what is
published and what is done with that queue matters to it.
-/

namespace BuildWatch

/-- Something that is done with a broadcaster or with a subscription. Receiving takes the next
value; who waits for one receives again while there is none. -/
inductive BroadcastAction (α : Type) where
  | subscribe (capacity : Nat)
  | publish (value : α)
  | unsubscribe (id : Nat)
  | drop (id : Nat)
  | receive (id : Nat)

inductive QueueAction (α : Type) where
  | offer (value : α)
  | unregister
  | drop
  | take

variable {α : Type}

namespace BroadcastAction

def published? : BroadcastAction α → Option α
  | publish value => some value
  | _ => none

def onQueue? (id : Nat) : BroadcastAction α → Option (QueueAction α)
  | subscribe _ => none
  | publish value => some (.offer value)
  | unsubscribe other => if other = id then some .unregister else none
  | drop other => if other = id then some .drop else none
  | receive other => if other = id then some .take else none

def isReceiveBy (id : Nat) : BroadcastAction α → Bool
  | receive other => other = id
  | _ => false

/-- Does the subscriber itself put an end to its subscription? -/
def isCutOf (id : Nat) : BroadcastAction α → Bool
  | unsubscribe other | drop other => other = id
  | _ => false

end BroadcastAction

def publishedIn (actions : List (BroadcastAction α)) : List α :=
  actions.filterMap BroadcastAction.published?

theorem publishedIn_append (earlier later : List (BroadcastAction α)) :
    publishedIn (earlier ++ later) = publishedIn earlier ++ publishedIn later :=
  List.filterMap_append

def Received.value? : Received α → Option α
  | .value item => some item
  | .empty | .ended => none

namespace Queue

def look : Option (Queue α) → Received α
  | none => .ended
  | some queue =>
    match queue.items with
    | value :: _ => .value value
    | [] => if queue.isRegistered then .empty else .ended

def perform : Option (Queue α) → QueueAction α → Option (Queue α)
  | none, _ => none
  | some queue, .offer value => some (queue.offer value)
  | some queue, .unregister => some { queue with isRegistered := false }
  | some _, .drop => none
  | some queue, .take => some { queue with items := queue.items.drop 1 }

/-- What a queue by itself yields, one reply for each value that is taken. -/
def replies : Option (Queue α) → List (QueueAction α) → List (Received α)
  | _, [] => []
  | queue, .take :: rest => look queue :: replies (perform queue .take) rest
  | queue, action :: rest => replies (perform queue action) rest

@[simp] theorem offer_id (queue : Queue α) (value : α) : (queue.offer value).id = queue.id := by
  unfold offer
  split
  · split <;> rfl
  · rfl

end Queue

namespace Broadcaster

variable {states : Broadcaster α} {id : Nat}

def perform (states : Broadcaster α) : BroadcastAction α → Broadcaster α
  | .subscribe capacity => states.subscribeWith capacity
  | .publish value => states.publish value
  | .unsubscribe id => states.unsubscribe id
  | .drop id => states.drop id
  | .receive id => states.take id

def performAll (states : Broadcaster α) (actions : List (BroadcastAction α)) : Broadcaster α :=
  actions.foldl perform states

/-- What a subscriber gets, one reply for each time it receives. -/
def replies (states : Broadcaster α) (id : Nat) : List (BroadcastAction α) → List (Received α)
  | [] => []
  | action :: rest =>
    if action.isReceiveBy id then states.look id :: (states.perform action).replies id rest
    else (states.perform action).replies id rest

def received (states : Broadcaster α) (id : Nat) (actions : List (BroadcastAction α)) : List α :=
  (states.replies id actions).filterMap Received.value?

def isFed (states : Broadcaster α) (id : Nat) : Bool :=
  (states.queue? id).any Queue.isRegistered

theorem performAll_append (states : Broadcaster α) (earlier later : List (BroadcastAction α)) :
    states.performAll (earlier ++ later) = (states.performAll earlier).performAll later :=
  List.foldl_append

theorem replies_append (states : Broadcaster α) (id : Nat)
    (earlier later : List (BroadcastAction α)) :
    states.replies id (earlier ++ later) =
      states.replies id earlier ++ (states.performAll earlier).replies id later := by
  induction earlier generalizing states with
  | nil => rfl
  | cons action rest ih =>
      simp only [List.cons_append, replies, performAll, List.foldl_cons] at ih ⊢
      split <;> simp [ih]

theorem look_eq (states : Broadcaster α) (id : Nat) :
    states.look id = Queue.look (states.queue? id) := by
  unfold look Queue.look
  cases states.queue? id <;> rfl

theorem queue?_of_look_value {value : α} (found : states.look id = .value value) :
    ∃ queue rest, states.queue? id = some queue ∧ queue.items = value :: rest := by
  rw [look_eq] at found
  cases held : states.queue? id with
  | none => simp [held, Queue.look] at found
  | some queue =>
      rw [held, Queue.look] at found
      split at found
      · rename_i first rest items
        obtain rfl := Received.value.inj found
        exact ⟨queue, rest, rfl, items⟩
      · split at found <;> simp at found

theorem isRegistered_of_look_ended {queue : Queue α} (ended : states.look id = .ended)
    (held : states.queue? id = some queue) : queue.isRegistered = false := by
  rw [look_eq, held, Queue.look] at ended
  split at ended
  · simp at ended
  · split at ended
    · simp at ended
    · rename_i unregistered
      simpa using unregistered

def IsNumbered (states : Broadcaster α) : Prop :=
  ∀ queue ∈ states.queues, queue.id < states.nextId

theorem IsNumbered.queue?_nextId (numbered : states.IsNumbered) :
    states.queue? states.nextId = none := by
  refine List.find?_eq_none.mpr fun queue member => ?_
  have below := numbered queue member
  simp only [decide_eq_true_eq]
  omega

theorem IsNumbered.queue?_subscribeWith (numbered : states.IsNumbered) (capacity : Nat) :
    (states.subscribeWith capacity).queue? states.nextId =
      some ⟨states.nextId, max 1 capacity, [], true⟩ := by
  have none_yet := numbered.queue?_nextId
  rw [queue?] at none_yet
  rw [subscribeWith, queue?, List.find?_append, none_yet]
  simp

theorem id_of_queue? {queue : Queue α} (found : states.queue? id = some queue) :
    queue.id = id := by
  simpa using List.find?_some found

theorem find?_map_id (change : Queue α → Queue α) (keeps : ∀ queue, (change queue).id = queue.id)
    (states : Broadcaster α) (id : Nat) :
    (states.queues.map change).find? (fun queue => queue.id = id) =
      (states.queue? id).map change := by
  rw [List.find?_map, queue?]
  congr 2
  funext queue
  simp [keeps]

theorem find?_map_of_id (change : Queue α → Queue α)
    (keeps : ∀ queue, (change queue).id = queue.id)
    (states : Broadcaster α) (other id : Nat) :
    (states.queues.map fun queue => if queue.id = other then change queue else queue).find?
        (fun queue => queue.id = id) =
      if other = id then (states.queue? id).map change else states.queue? id := by
  rw [find?_map_id _ fun queue => by split <;> simp [keeps]]
  cases found : states.queue? id with
  | none => simp
  | some queue =>
      have number := id_of_queue? found
      by_cases same : other = id
      · simp [number, same]
      · simp [number, same, Ne.symm same]

theorem perform_current (states : Broadcaster α) (action : BroadcastAction α) :
    (states.perform action).current = action.published?.getD states.current := by
  cases action <;> rfl

theorem nextId_le_perform (states : Broadcaster α) (action : BroadcastAction α) :
    states.nextId ≤ (states.perform action).nextId := by
  cases action <;> simp [perform, subscribeWith, publish, unsubscribe, drop, take]

theorem nextId_le_performAll (states : Broadcaster α) (actions : List (BroadcastAction α)) :
    states.nextId ≤ (states.performAll actions).nextId := by
  induction actions generalizing states with
  | nil => exact Nat.le_refl _
  | cons action rest ih => exact Nat.le_trans (nextId_le_perform states action) (ih _)

theorem IsNumbered.perform (numbered : states.IsNumbered) (action : BroadcastAction α) :
    (states.perform action).IsNumbered := by
  intro queue member
  cases action with
  | subscribe capacity =>
      rcases List.mem_append.mp member with among | last
      · exact Nat.lt_succ_of_lt (numbered queue among)
      · rw [List.mem_singleton.mp last]
        exact Nat.lt_succ_self _
  | publish value =>
      obtain ⟨earlier, among, rfl⟩ := List.mem_map.mp member
      rw [Queue.offer_id]
      exact numbered earlier among
  | unsubscribe other | receive other =>
      obtain ⟨earlier, among, rfl⟩ := List.mem_map.mp member
      have below := numbered earlier among
      split <;> exact below
  | drop other => exact numbered queue (List.mem_filter.mp member).1

theorem IsNumbered.lt_nextId {queue : Queue α} (numbered : states.IsNumbered)
    (found : states.queue? id = some queue) : id < states.nextId := by
  rw [← id_of_queue? found]
  exact numbered queue (List.mem_of_find?_eq_some found)

theorem IsNumbered.performAll (numbered : states.IsNumbered)
    (actions : List (BroadcastAction α)) : (states.performAll actions).IsNumbered := by
  induction actions generalizing states with
  | nil => exact numbered
  | cons action rest ih => exact ih (numbered.perform action)

theorem isNumbered_create (initial : α) (size : Nat) : (create initial size).IsNumbered := nofun

theorem queue?_drop (states : Broadcaster α) (id : Nat) : (states.drop id).queue? id = none := by
  rw [drop, queue?, List.find?_filter]
  exact List.find?_eq_none.mpr (by simp)

theorem queue?_perform (known : id < states.nextId) (action : BroadcastAction α) :
    (states.perform action).queue? id =
      (action.onQueue? id).elim (states.queue? id) (Queue.perform (states.queue? id)) := by
  cases action with
  | subscribe capacity =>
      have other : states.nextId ≠ id := by omega
      simp [perform, subscribeWith, queue?, List.find?_append, BroadcastAction.onQueue?, other]
  | publish value =>
      rw [perform, publish, queue?, find?_map_id _ fun queue => queue.offer_id value]
      cases states.queue? id <;> rfl
  | unsubscribe other =>
      rw [perform, unsubscribe, queue?, BroadcastAction.onQueue?,
        find?_map_of_id (fun queue => { queue with isRegistered := false }) fun _ => rfl]
      split
      · cases states.queue? id <;> rfl
      · rfl
  | drop other =>
      rw [perform, BroadcastAction.onQueue?]
      by_cases same : other = id
      · subst other
        rw [queue?_drop, if_pos rfl]
        cases states.queue? id <;> rfl
      · rw [if_neg same, Option.elim_none, drop, queue?, List.find?_filter, queue?]
        congr 1
        funext queue
        by_cases found : queue.id = id
        · simp [found, Ne.symm same]
        · simp [found]
  | receive other =>
      rw [perform, take, queue?, BroadcastAction.onQueue?,
        find?_map_of_id (fun queue => { queue with items := queue.items.drop 1 }) fun _ => rfl]
      split
      · cases states.queue? id <;> rfl
      · rfl

theorem queue?_perform_none (known : id < states.nextId) (free : states.queue? id = none)
    (action : BroadcastAction α) : (states.perform action).queue? id = none := by
  rw [queue?_perform known, free]
  cases action.onQueue? id <;> rfl

theorem queue?_performAll (known : id < states.nextId) (actions : List (BroadcastAction α)) :
    (states.performAll actions).queue? id =
      (actions.filterMap (BroadcastAction.onQueue? id)).foldl Queue.perform
        (states.queue? id) := by
  induction actions generalizing states with
  | nil => rfl
  | cons action rest ih =>
      have after := ih (Nat.lt_of_lt_of_le known (nextId_le_perform states action))
      rw [queue?_perform known] at after
      rw [performAll, List.foldl_cons, ← performAll, after, List.filterMap_cons]
      cases action.onQueue? id <;> rfl

theorem replies_eq (known : id < states.nextId) (actions : List (BroadcastAction α)) :
    states.replies id actions =
      Queue.replies (states.queue? id) (actions.filterMap (BroadcastAction.onQueue? id)) := by
  induction actions generalizing states with
  | nil => rfl
  | cons action rest ih =>
      have after := ih (Nat.lt_of_lt_of_le known (nextId_le_perform states action))
      rw [queue?_perform known] at after
      rw [replies, after, look_eq]
      cases action with
      | subscribe | publish => rfl
      | unsubscribe other | drop other | receive other =>
          by_cases same : other = id <;>
            simp [BroadcastAction.isReceiveBy, BroadcastAction.onQueue?, same, Queue.replies]

end Broadcaster

end BuildWatch
