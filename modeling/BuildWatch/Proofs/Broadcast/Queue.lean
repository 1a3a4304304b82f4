import BuildWatch.Proofs.Broadcast.Run

/-!
One queue against what is offered to it. Nothing is lost between what was taken and what waits, a
queue that is not fed any more yields what it holds and then the end, and its number plays no part.
-/

namespace BuildWatch

variable {α : Type}

def QueueAction.offered? : QueueAction α → Option α
  | offer value => some value
  | unregister | drop | take => none

def QueueAction.isTake : QueueAction α → Bool
  | take => true
  | offer _ | unregister | drop => false

theorem Queue.isRegistered_offer (queue : Queue α) (value : α) :
    (queue.offer value).isRegistered = (queue.isRegistered && !queue.isFull) := by
  unfold Queue.offer
  by_cases registered : queue.isRegistered = true
  · by_cases full : queue.isFull = true <;> simp [registered, full]
  · simp [registered]

theorem Queue.unregistered_perform {queue : Option (Queue α)}
    (ended : queue.any Queue.isRegistered = false) (action : QueueAction α) :
    (Queue.perform queue action).any Queue.isRegistered = false := by
  cases queue with
  | none => rfl
  | some queue =>
      cases action with
      | offer value =>
          rw [Option.any_some] at ended
          rw [Queue.perform, Option.any_some, Queue.isRegistered_offer, ended, Bool.false_and]
      | unregister | drop => rfl
      | take => exact ended

theorem offered_onQueue (id : Nat) (actions : List (BroadcastAction α)) :
    (actions.filterMap (BroadcastAction.onQueue? id)).filterMap QueueAction.offered? =
      publishedIn actions := by
  rw [List.filterMap_filterMap]
  congr 1
  funext action
  cases action with
  | subscribe | publish => rfl
  | unsubscribe other | drop other | receive other =>
      by_cases same : other = id <;> simp [BroadcastAction.onQueue?, same] <;> rfl

theorem takes_onQueue (id : Nat) (actions : List (BroadcastAction α)) :
    (actions.filterMap (BroadcastAction.onQueue? id)).countP QueueAction.isTake =
      actions.countP (BroadcastAction.isReceiveBy id) := by
  rw [List.countP_filterMap]
  congr 1
  funext action
  cases action with
  | subscribe | publish => rfl
  | unsubscribe other | drop other | receive other =>
      by_cases same : other = id <;>
        simp [BroadcastAction.onQueue?, BroadcastAction.isReceiveBy, QueueAction.isTake, same]

theorem drop_of_onQueue {id : Nat} {actions : List (BroadcastAction α)}
    (dropped : .drop ∈ actions.filterMap (BroadcastAction.onQueue? id)) : .drop id ∈ actions := by
  obtain ⟨action, member, change⟩ := List.mem_filterMap.mp dropped
  cases action with
  | subscribe | publish => simp [BroadcastAction.onQueue?] at change
  | unsubscribe other | drop other | receive other =>
      by_cases same : other = id <;> simp_all [BroadcastAction.onQueue?]

/-- A queue against the values that were received and those that were published. -/
structure Queue.Holds (queue : Queue α) (capacity : Nat) (received published : List α) : Prop
    where
  sized : queue.capacity = capacity
  room : queue.items.length ≤ capacity
  part : received ++ queue.items <+: published
  whole : queue.isRegistered = true → received ++ queue.items = published

def Holds (capacity : Nat) (received published : List α) : Option (Queue α) → Prop
  | none => received <+: published
  | some queue => queue.Holds capacity received published

namespace Holds

variable {capacity : Nat} {received published : List α} {queue : Option (Queue α)}

theorem part (holds : Holds capacity received published queue) : received <+: published := by
  cases queue with
  | none => exact holds
  | some queue => exact (List.prefix_append ..).trans (Queue.Holds.part holds)

theorem fresh (id capacity : Nat) :
    Holds capacity [] [] (some (⟨id, capacity, [], true⟩ : Queue α)) :=
  Queue.Holds.mk rfl (Nat.zero_le _) List.prefix_rfl fun _ => rfl

theorem offer (holds : Holds capacity received published queue) (value : α) :
    Holds capacity received (published ++ [value]) (Queue.perform queue (.offer value)) := by
  cases queue with
  | none => exact List.IsPrefix.trans holds (List.prefix_append ..)
  | some queue =>
      obtain ⟨sized, room, part, whole⟩ := holds
      have further : received ++ queue.items <+: published ++ [value] :=
        part.trans (List.prefix_append ..)
      rw [Queue.perform, Queue.offer]
      by_cases registered : queue.isRegistered = true
      · by_cases full : queue.isFull = true
        · rw [if_pos registered, if_pos full]
          exact ⟨sized, room, further, nofun⟩
        · have longer : received ++ (queue.items ++ [value]) = published ++ [value] := by
            rw [← List.append_assoc, whole registered]
          have below : queue.items.length < capacity := by
            simpa [Queue.isFull, sized] using full
          rw [if_pos registered, if_neg full]
          refine ⟨sized, ?_, ⟨[], (List.append_nil _).trans longer⟩, fun _ => longer⟩
          rw [List.length_append, List.length_singleton]
          omega
      · rw [if_neg registered]
        exact ⟨sized, room, further, fun fed => absurd fed registered⟩

theorem unregister (holds : Holds capacity received published queue) :
    Holds capacity received published (Queue.perform queue .unregister) := by
  cases queue with
  | none => exact holds
  | some queue =>
      obtain ⟨sized, room, part, -⟩ := holds
      exact ⟨sized, room, part, nofun⟩

theorem drop (holds : Holds capacity received published queue) :
    Holds capacity received published (Queue.perform queue .drop) := by
  cases queue <;> exact holds.part

theorem take (holds : Holds capacity received published queue) :
    Holds capacity (received ++ (Queue.look queue).value?.toList) published
      (Queue.perform queue .take) := by
  cases queue with
  | none =>
      rw [show (Queue.look (none : Option (Queue α))).value?.toList = [] from rfl,
        List.append_nil]
      exact holds
  | some queue =>
      obtain ⟨sized, room, part, whole⟩ := holds
      have same : received ++ (Queue.look (some queue)).value?.toList ++ queue.items.drop 1 =
          received ++ queue.items := by
        cases items : queue.items with
        | nil =>
            simp only [Queue.look, items]
            split <;> simp [Received.value?]
        | cons value rest => simp [Queue.look, items, Received.value?]
      refine ⟨sized, ?_, same ▸ part, fun fed => same.trans (whole fed)⟩
      rw [List.length_drop]
      omega

theorem run (holds : Holds capacity received published queue) (actions : List (QueueAction α)) :
    Holds capacity (received ++ (Queue.replies queue actions).filterMap Received.value?)
      (published ++ actions.filterMap QueueAction.offered?)
      (actions.foldl Queue.perform queue) := by
  induction actions generalizing received published queue with
  | nil => simpa [Queue.replies] using holds
  | cons action rest ih =>
      cases action with
      | offer value => simpa [Queue.replies, QueueAction.offered?] using ih (holds.offer value)
      | unregister => exact ih holds.unregister
      | drop => exact ih holds.drop
      | take =>
          -- a value that is taken goes over from what waits to what was received
          have after := ih holds.take
          rw [List.append_assoc] at after
          rw [Queue.replies, List.filterMap_cons]
          cases reply : (Queue.look queue).value? <;> rw [reply] at after <;> exact after

end Holds

theorem Queue.replies_unregistered {queue : Queue α} (ended : queue.isRegistered = false)
    {actions : List (QueueAction α)} (kept : .drop ∉ actions) :
    Queue.replies (some queue) actions =
      (List.range (actions.countP QueueAction.isTake)).map fun index =>
        (queue.items[index]?).elim .ended .value := by
  induction actions generalizing queue with
  | nil => rfl
  | cons action rest ih =>
      have later : .drop ∉ rest := fun dropped => kept (List.mem_cons_of_mem _ dropped)
      cases action with
      | drop => exact absurd List.mem_cons_self kept
      | offer value =>
          have same : queue.offer value = queue := by simp [Queue.offer, ended]
          simpa [Queue.replies, Queue.perform, same, QueueAction.isTake] using ih ended later
      | unregister =>
          have same : { queue with isRegistered := false } = queue := by rw [← ended]
          simpa [Queue.replies, Queue.perform, same, QueueAction.isTake] using ih ended later
      | take =>
          let after : Queue α := { queue with items := queue.items.drop 1 }
          have rest_eq : Queue.replies (some after) rest = _ := ih ended later
          rw [Queue.replies, Queue.perform, rest_eq, List.countP_cons_of_pos rfl,
            List.range_succ_eq_map, List.map_cons, List.map_map]
          cases items : queue.items <;>
            simp [after, Queue.look, items, ended, Function.comp_def]

theorem Queue.replies_id (queue : Queue α) (id : Nat) (actions : List (QueueAction α)) :
    Queue.replies (some { queue with id := id }) actions = Queue.replies (some queue) actions := by
  induction actions generalizing queue with
  | nil => rfl
  | cons action rest ih =>
      cases action with
      | offer value =>
          have same : Queue.offer { queue with id := id } value =
              { queue.offer value with id := id } := by
            by_cases fed : queue.isRegistered = true
            · by_cases full : queue.capacity ≤ queue.items.length <;>
                simp [Queue.offer, Queue.isFull, fed, full]
            · simp [Queue.offer, fed]
          simpa only [Queue.replies, Queue.perform, same] using ih (queue.offer value)
      | unregister => exact ih { queue with isRegistered := false }
      | drop => rfl
      | take => exact congrArg _ (ih { queue with items := queue.items.drop 1 })

end BuildWatch
