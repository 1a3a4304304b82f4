import BuildWatch.Proofs.Broadcast.Queue

/-!
What a subscription delivers. As long as it is fed, the values that were received and those that
wait are together the values published since it was made. It is fed until it is ended or a value is
published while its queue is full, and what waits then is still received before the end.
-/

namespace BuildWatch

variable {α : Type}

/-- A subscription to a broadcaster with which something was done before. -/
structure Subscription (α : Type) where
  initial : α
  size : Nat
  earlier : List (BroadcastAction α)
  capacity : Nat

namespace Subscription

variable (subscription : Subscription α) (actions : List (BroadcastAction α))

def origin : Broadcaster α :=
  (Broadcaster.create subscription.initial subscription.size).performAll subscription.earlier

def id : Nat :=
  subscription.origin.nextId

def snapshot : α :=
  subscription.origin.current

def room : Nat :=
  max 1 subscription.capacity

def after : Broadcaster α :=
  (subscription.origin.subscribeWith subscription.capacity).performAll actions

def isFed : Bool :=
  (subscription.after actions).isFed subscription.id

/-- What the subscriber is given, one reply for each time it receives. -/
def replies : List (Received α) :=
  (subscription.origin.subscribeWith subscription.capacity).replies subscription.id actions

def received : List α :=
  (subscription.replies actions).filterMap Received.value?

def unread : List α :=
  (publishedIn actions).drop (subscription.received actions).length

theorem id_lt : subscription.id <
    (subscription.origin.subscribeWith subscription.capacity).nextId :=
  Nat.lt_succ_self _

theorem isNumbered_origin : subscription.origin.IsNumbered :=
  Broadcaster.IsNumbered.performAll (Broadcaster.isNumbered_create _ _) _

theorem snapshot_eq :
    subscription.snapshot =
      ((publishedIn subscription.earlier).getLast?).getD subscription.initial := by
  unfold snapshot origin
  induction subscription.earlier using List.reverseRecOn with
  | nil => rfl
  | append_singleton earlier action ih =>
      rw [Broadcaster.performAll_append, publishedIn_append, List.getLast?_append]
      cases action with
      | publish value => rfl
      | subscribe | unsubscribe | drop | receive => exact ih

theorem queue?_nil :
    (subscription.after []).queue? subscription.id =
      some ⟨subscription.id, subscription.room, [], true⟩ := by
  exact subscription.isNumbered_origin.queue?_subscribeWith subscription.capacity

theorem queue?_after :
    (subscription.after actions).queue? subscription.id =
      (actions.filterMap (BroadcastAction.onQueue? subscription.id)).foldl Queue.perform
        (some ⟨subscription.id, subscription.room, [], true⟩) := by
  have joined := subscription.queue?_nil
  rw [after, Broadcaster.performAll, List.foldl_nil] at joined
  rw [after, Broadcaster.queue?_performAll subscription.id_lt, joined]

theorem replies_eq :
    subscription.replies actions =
      Queue.replies (some ⟨subscription.id, subscription.room, [], true⟩)
        (actions.filterMap (BroadcastAction.onQueue? subscription.id)) := by
  have joined := subscription.queue?_nil
  rw [after, Broadcaster.performAll, List.foldl_nil] at joined
  rw [replies, Broadcaster.replies_eq subscription.id_lt, joined]

theorem holds :
    Holds subscription.room (subscription.received actions) (publishedIn actions)
      ((subscription.after actions).queue? subscription.id) := by
  have run := (Holds.fresh subscription.id subscription.room).run
    (actions.filterMap (BroadcastAction.onQueue? subscription.id))
  rwa [← replies_eq, ← queue?_after, offered_onQueue] at run

theorem queue?_of_isFed (fed : subscription.isFed actions = true) :
    ∃ queue, (subscription.after actions).queue? subscription.id = some queue ∧
      queue.isRegistered = true ∧ queue.items = subscription.unread actions ∧
      queue.capacity = subscription.room ∧ queue.items.length ≤ subscription.room := by
  unfold isFed Broadcaster.isFed at fed
  cases found : (subscription.after actions).queue? subscription.id with
  | none =>
      rw [found] at fed
      exact absurd fed Bool.false_ne_true
  | some queue =>
      rw [found] at fed
      have holds := subscription.holds actions
      rw [found] at holds
      obtain ⟨sized, room, -, whole⟩ := holds
      refine ⟨queue, rfl, fed, ?_, sized, room⟩
      rw [unread, ← whole fed, List.drop_left]

theorem replies_append (later : List (BroadcastAction α)) :
    subscription.replies (actions ++ later) =
      subscription.replies actions ++
        (subscription.after actions).replies subscription.id later :=
  Broadcaster.replies_append _ _ _ _

theorem queue?_append_singleton (action : BroadcastAction α) :
    (subscription.after (actions ++ [action])).queue? subscription.id =
      (action.onQueue? subscription.id).elim
        ((subscription.after actions).queue? subscription.id)
        (Queue.perform ((subscription.after actions).queue? subscription.id)) := by
  rw [queue?_after, queue?_after, List.filterMap_append, List.foldl_append, List.filterMap_cons]
  cases action.onQueue? subscription.id <;> rfl

theorem isFed_append_singleton (action : BroadcastAction α) :
    subscription.isFed (actions ++ [action]) = true ↔
      subscription.isFed actions = true ∧ action.isCutOf subscription.id = false ∧
        ∀ value, action = .publish value →
          (subscription.unread actions).length ≠ subscription.room := by
  by_cases fed : subscription.isFed actions = true
  · obtain ⟨queue, found, registered, items, capacity, bound⟩ :=
      subscription.queue?_of_isFed actions fed
    rw [isFed, Broadcaster.isFed, queue?_append_singleton, found, ← items]
    cases action with
    | publish value =>
        have below : queue.items.length < subscription.room ↔
            queue.items.length ≠ subscription.room := by omega
        simp [BroadcastAction.onQueue?, BroadcastAction.isCutOf, Queue.perform, fed, registered,
          Queue.isRegistered_offer, Queue.isFull, capacity, below]
    | subscribe other =>
        simp [BroadcastAction.onQueue?, BroadcastAction.isCutOf, fed, registered]
    | unsubscribe other | drop other | receive other =>
        by_cases same : other = subscription.id <;>
          simp [BroadcastAction.onQueue?, BroadcastAction.isCutOf, Queue.perform, fed, registered,
            same]
  · have ended : ((subscription.after actions).queue? subscription.id).any Queue.isRegistered =
        false := Bool.eq_false_iff.mpr fed
    rw [isFed, Broadcaster.isFed, queue?_append_singleton]
    cases action.onQueue? subscription.id with
    | none => simp [ended, fed]
    | some change => simp [Queue.unregistered_perform ended, fed]

theorem isFed_iff :
    subscription.isFed actions = true ↔
      (∀ action ∈ actions, action.isCutOf subscription.id = false) ∧
        ∀ before value after, actions = before ++ .publish value :: after →
          (subscription.unread before).length ≠ subscription.room := by
  induction actions using List.reverseRecOn with
  | nil =>
      rw [isFed, Broadcaster.isFed, queue?_nil]
      simp
  | append_singleton actions action ih =>
      -- the longer history can be split in one more place, before its last action
      rw [isFed_append_singleton, ih]
      constructor
      · rintro ⟨⟨uncut, unfilled⟩, kept, room⟩
        refine ⟨?_, ?_⟩
        · intro earlier member
          rcases List.mem_append.mp member with among | last
          · exact uncut earlier among
          · rwa [List.mem_singleton.mp last]
        · intro before value after split
          rcases List.eq_nil_or_concat after with rfl | ⟨middle, last, rfl⟩
          · obtain ⟨rfl, same⟩ := List.append_inj' split rfl
            exact room value (List.singleton_inj.mp same)
          · rw [List.concat_eq_append, ← List.cons_append, ← List.append_assoc] at split
            exact unfilled before value middle (List.append_inj' split rfl).1
      · rintro ⟨uncut, unfilled⟩
        refine ⟨⟨?_, ?_⟩, ?_, ?_⟩
        · exact fun earlier among => uncut earlier (List.mem_append_left _ among)
        · rintro before value after rfl
          exact unfilled before value (after ++ [action]) (by simp)
        · exact uncut action (List.mem_append_right _ (List.mem_singleton_self _))
        · rintro value rfl
          exact unfilled actions value [] rfl

theorem replies_receive (fed : subscription.isFed actions = true) :
    subscription.replies (actions ++ [.receive subscription.id]) =
      subscription.replies actions ++
        [((subscription.unread actions).head?).elim .empty .value] := by
  obtain ⟨queue, found, registered, items, -⟩ := subscription.queue?_of_isFed actions fed
  have reply : (subscription.after actions).look subscription.id =
      ((subscription.unread actions).head?).elim .empty .value := by
    rw [Broadcaster.look_eq, found, ← items]
    cases waiting : queue.items <;> simp [Queue.look, waiting, registered]
  rw [replies_append, ← reply]
  simp [Broadcaster.replies, BroadcastAction.isReceiveBy]

theorem queue?_of_ended {action : BroadcastAction α} (fed : subscription.isFed actions = true)
    (ended : subscription.isFed (actions ++ [action]) = false)
    (kept : action ≠ .drop subscription.id) :
    ∃ queue, (subscription.after (actions ++ [action])).queue? subscription.id = some queue ∧
      queue.isRegistered = false ∧ queue.items = subscription.unread actions := by
  obtain ⟨queue, found, registered, items, -⟩ := subscription.queue?_of_isFed actions fed
  rw [isFed, Broadcaster.isFed, queue?_append_singleton, found] at ended
  rw [queue?_append_singleton, found]
  cases action with
  | publish value =>
      refine ⟨queue.offer value, rfl, ended, ?_⟩
      have full : queue.isFull = true := by
        simpa [BroadcastAction.onQueue?, Queue.perform, Queue.isRegistered_offer, registered]
          using ended
      simpa [Queue.offer, registered, full] using items
  | subscribe other => exact absurd registered (Bool.eq_false_iff.mp ended)
  | unsubscribe other =>
      by_cases same : other = subscription.id
      · exact ⟨{ queue with isRegistered := false },
          by simp [BroadcastAction.onQueue?, same, Queue.perform], rfl, items⟩
      · simp [BroadcastAction.onQueue?, same, registered] at ended
  | drop other | receive other =>
      by_cases same : other = subscription.id <;>
        simp_all [BroadcastAction.onQueue?, Queue.perform]

theorem replies_ended {before after : List (BroadcastAction α)} {ending : BroadcastAction α}
    (fed : subscription.isFed before = true)
    (ended : subscription.isFed (before ++ [ending]) = false)
    (kept : .drop subscription.id ∉ ending :: after) :
    subscription.replies (before ++ ending :: after) =
      subscription.replies before ++
        (List.range (after.countP (BroadcastAction.isReceiveBy subscription.id))).map fun index =>
          ((subscription.unread before)[index]?).elim .ended .value := by
  -- receiving ends nothing, so the reply to the ending action is no reply to this subscriber
  have still : ending.isReceiveBy subscription.id = false := by
    cases ending with
    | receive other =>
        refine Bool.eq_false_iff.mpr fun received => ?_
        refine absurd ?_ (Bool.eq_false_iff.mp ended)
        exact (subscription.isFed_append_singleton before _).mpr ⟨fed, rfl, nofun⟩
    | subscribe | publish | unsubscribe | drop => rfl
  obtain ⟨queue, found, unregistered, items⟩ := subscription.queue?_of_ended before fed ended
    fun dropped => kept (dropped ▸ List.mem_cons_self)
  have gone : .drop ∉ after.filterMap (BroadcastAction.onQueue? subscription.id) :=
    fun dropped => kept (List.mem_cons_of_mem _ (drop_of_onQueue dropped))
  have known : subscription.id < (subscription.after (before ++ [ending])).nextId :=
    Nat.lt_of_lt_of_le subscription.id_lt (Broadcaster.nextId_le_performAll _ _)
  have rest : subscription.replies (before ++ ending :: after) =
      subscription.replies (before ++ [ending]) ++
        (subscription.after (before ++ [ending])).replies subscription.id after := by
    rw [← replies_append, List.append_assoc, List.singleton_append]
  have nothing : subscription.replies (before ++ [ending]) = subscription.replies before := by
    rw [replies_append, Broadcaster.replies, still]
    exact List.append_nil _
  rw [rest, nothing, Broadcaster.replies_eq known, found,
    Queue.replies_unregistered unregistered gone, takes_onQueue, items]

theorem replies_congr {other : Subscription α} {others : List (BroadcastAction α)}
    (room : other.room = subscription.room)
    (same : others.filterMap (BroadcastAction.onQueue? other.id) =
      actions.filterMap (BroadcastAction.onQueue? subscription.id)) :
    other.replies others = subscription.replies actions := by
  rw [replies_eq, replies_eq, room, same]
  exact Queue.replies_id ⟨subscription.id, subscription.room, [], true⟩ other.id _

/-- What a subscription gives its subscriber. Of a whole history, the values that are received are
the first ones published since the snapshot; while it is fed each receiving gets the next of them;
it is fed until the subscriber ends it or a value is published while as many values as there is
room for are unread; these are still received, and then the end. -/
theorem delivery (subscription : Subscription α) :
    subscription.snapshot =
        ((publishedIn subscription.earlier).getLast?).getD subscription.initial ∧
      (∀ actions, subscription.received actions <+: publishedIn actions) ∧
      (∀ actions, subscription.isFed actions = true →
        (subscription.unread actions).length ≤ subscription.room ∧
          subscription.replies (actions ++ [.receive subscription.id]) =
            subscription.replies actions ++
              [((subscription.unread actions).head?).elim .empty .value]) ∧
      (∀ actions, subscription.isFed actions = true ↔
        (∀ action ∈ actions, action.isCutOf subscription.id = false) ∧
          ∀ before value after, actions = before ++ .publish value :: after →
            (subscription.unread before).length ≠ subscription.room) ∧
      (∀ before ending after, subscription.isFed before = true →
        subscription.isFed (before ++ [ending]) = false →
        .drop subscription.id ∉ ending :: after →
          subscription.replies (before ++ ending :: after) =
            subscription.replies before ++
              (List.range (after.countP (BroadcastAction.isReceiveBy subscription.id))).map
                fun index => ((subscription.unread before)[index]?).elim .ended .value) ∧
      ∀ (other : Subscription α) (actions others : List (BroadcastAction α)),
        other.room = subscription.room →
        others.filterMap (BroadcastAction.onQueue? other.id) =
          actions.filterMap (BroadcastAction.onQueue? subscription.id) →
          other.replies others = subscription.replies actions := by
  refine ⟨subscription.snapshot_eq, ?_, ?_, subscription.isFed_iff, ?_, ?_⟩
  · exact fun actions => (subscription.holds actions).part
  · intro actions fed
    obtain ⟨queue, -, -, items, -, bound⟩ := subscription.queue?_of_isFed actions fed
    exact ⟨items ▸ bound, subscription.replies_receive actions fed⟩
  · exact fun before ending after => subscription.replies_ended
  · exact fun other actions others => subscription.replies_congr actions

def narrow : Subscription Nat :=
  ⟨0, 4, [.publish 7, .subscribe 8], 1⟩

theorem delivery_narrow :
    narrow.snapshot = 7 ∧
      narrow.isFed [.publish 8, .receive 0] = true ∧
      narrow.isFed ([.publish 8, .receive 0] ++ [.publish 9]) = false ∧
      narrow.replies [.publish 8, .receive 0, .publish 9, .receive 1, .publish 10, .receive 1] =
        [.value 8, .ended] := by
  have fed : narrow.isFed [.publish 8, .receive 0] = true := rfl
  have ended : narrow.isFed ([.publish 8, .receive 0] ++ [.publish 9]) = false := rfl
  obtain ⟨snapshot, -, -, -, drained, -⟩ := delivery narrow
  have later := drained [.publish 8, .receive 0] (.publish 9)
    [.receive 1, .publish 10, .receive 1] fed ended (by simp)
  exact ⟨snapshot, fed, ended, later⟩

end Subscription

end BuildWatch
