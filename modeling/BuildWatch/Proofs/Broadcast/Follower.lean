import BuildWatch.Broadcast.Follower
import BuildWatch.Proofs.Broadcast.Queue

/-!
What a follower shows of a broadcaster, however its steps and those of others come. It has passed
some of the values that there have been, and shown some of these. What is left to pass is in its
queue, unless it was dropped: then the queue has less than is left, and the latest value is yet to
be shown when the follower subscribes again. As long as nothing is published, a follower that goes on
comes to where it has nothing left to do.
-/

namespace BuildWatch

variable {α : Type}

/-- A step of the follower, or something that others do with the broadcaster and subscriptions of
their own. -/
inductive FeedAction (α : Type) where
  | next
  | leave
  | other (action : BroadcastAction α)

namespace FeedAction

def published? : FeedAction α → Option α
  | other action => action.published?
  | next | leave => none

end FeedAction

namespace Feed

/-- The subscription belongs to the follower; nobody else reads it or puts an end to it. -/
def owns (feed : Feed α) (action : BroadcastAction α) : Bool :=
  match feed.follower with
  | .reading id => action.isReceiveBy id || action.isCutOf id
  | .joining | .gone => false

/-- What becomes of a feed, and what the follower shows; while it waits, nothing changes. -/
def step (feed : Feed α) : FeedAction α → Feed α × Option α
  | .next => feed.next?.getD (feed, none)
  | .leave => (feed.leave, none)
  | .other action =>
    (if feed.owns action then feed else { feed with states := feed.states.perform action }, none)

def run (feed : Feed α) (actions : List (FeedAction α)) : Feed α × List α :=
  actions.foldl (fun reached action =>
    let (after, shown) := reached.1.step action
    (after, reached.2 ++ shown.toList)) (feed, [])

end Feed

/-- How a follower stands to the values that it has passed, those that are left and those that it
has shown. -/
inductive Follower.Stands (states : Broadcaster α) (passed left shown : List α) : Follower → Prop
  | joining : left ≠ [] → Stands states passed left shown .joining
  | fed {id queue} : states.queue? id = some queue → queue.isRegistered = true →
      queue.items = left → shown.getLast? = passed.getLast? →
      Stands states passed left shown (.reading id)
  | dropped {id queue} : states.queue? id = some queue → queue.isRegistered = false →
      queue.items <+: left → queue.items ≠ left → Stands states passed left shown (.reading id)
  | gone : Stands states passed left shown .gone

/-- What a follower has shown of all values that there have been, in the order of their coming. -/
structure Feed.Shows (feed : Feed α) (history shown : List α) : Prop where
  numbered : feed.states.IsNumbered
  known : ∀ id, feed.follower = .reading id → id < feed.states.nextId
  latest : history.getLast? = some feed.states.current
  stands : ∃ passed left, history = passed ++ left ∧ shown.Sublist passed ∧
    feed.follower.Stands feed.states passed left shown

theorem Broadcaster.queue?_other {states : Broadcaster α} {id : Nat} {action : BroadcastAction α}
    (known : id < states.nextId) (foreign : (action.isReceiveBy id || action.isCutOf id) = false) :
    (states.perform action).queue? id =
      action.published?.elim (states.queue? id) fun value =>
        (states.queue? id).map fun queue => queue.offer value := by
  rw [queue?_perform known]
  cases action with
  | subscribe => rfl
  | publish value => cases states.queue? id <;> rfl
  | unsubscribe other | drop other | receive other =>
      have different : other ≠ id := by
        simpa [BroadcastAction.isReceiveBy, BroadcastAction.isCutOf] using foreign
      simp [BroadcastAction.onQueue?, different, BroadcastAction.published?]

namespace Follower.Stands

variable {states next : Broadcaster α} {passed left shown : List α} {follower : Follower}

theorem publish (stands : follower.Stands states passed left shown) (value : α)
    (offered : ∀ id, follower = .reading id →
      next.queue? id = (states.queue? id).map fun queue => queue.offer value) :
    follower.Stands next passed (left ++ [value]) shown := by
  cases stands with
  | joining => exact .joining (by simp)
  | gone => exact .gone
  | @fed id queue found registered items same =>
      have after := offered id rfl
      rw [found, Option.map_some, Queue.offer, if_pos registered] at after
      by_cases full : queue.isFull = true
      · -- the value that drops a full queue is not put into it, but it is left to be shown
        rw [if_pos full] at after
        refine .dropped after rfl ?_ ?_
        · rw [items]
          exact List.prefix_append ..
        · simp [items]
      · rw [if_neg full] at after
        refine .fed after registered ?_ same
        simp [items]
  | @dropped id queue found unregistered part shorter =>
      have after := offered id rfl
      have untouched : queue.offer value = queue := by simp [Queue.offer, unregistered]
      rw [found, Option.map_some, untouched] at after
      refine .dropped after unregistered (part.trans (List.prefix_append ..)) ?_
      intro whole
      have bound := part.length_le
      simp [whole] at bound

theorem congr (stands : follower.Stands states passed left shown)
    (same : ∀ id, follower = .reading id → next.queue? id = states.queue? id) :
    follower.Stands next passed left shown := by
  cases stands with
  | joining some => exact .joining some
  | gone => exact .gone
  | fed found registered items last =>
      exact .fed ((same _ rfl).trans found) registered items last
  | dropped found unregistered part shorter =>
      exact .dropped ((same _ rfl).trans found) unregistered part shorter

theorem take {id : Nat} {value : α}
    (stands : (Follower.reading id).Stands states passed left shown)
    (found : states.look id = .value value)
    (taken : next.queue? id =
      (states.queue? id).map fun queue => { queue with items := queue.items.drop 1 }) :
    ∃ rest, left = value :: rest ∧
      (Follower.reading id).Stands next (passed ++ [value]) rest (shown ++ [value]) := by
  obtain ⟨queue, waiting, held, items⟩ := Broadcaster.queue?_of_look_value found
  rw [held] at taken
  cases stands with
  | fed again registered all same =>
      obtain rfl := Option.some.inj (held.symm.trans again)
      refine ⟨waiting, all.symm.trans items, .fed taken registered ?_ ?_⟩
      · simp [items]
      · simp
  | dropped again unregistered part shorter =>
      obtain rfl := Option.some.inj (held.symm.trans again)
      rw [items] at part shorter
      obtain ⟨more, rfl⟩ := part
      refine ⟨waiting ++ more, rfl, .dropped taken unregistered ?_ ?_⟩
      · simp [items]
      · intro whole
        simp only [items, List.drop_one, List.tail_cons] at whole
        exact shorter (congrArg (value :: ·) whole)

theorem ended {id : Nat} (stands : (Follower.reading id).Stands states passed left shown)
    (ends : states.look id = .ended) : left ≠ [] := by
  cases stands with
  | fed held registered =>
      have unregistered := Broadcaster.isRegistered_of_look_ended ends held
      simp [registered] at unregistered
  | @dropped _ queue held unregistered part shorter =>
      cases items : queue.items with
      | nil => exact fun none => shorter (items.trans none.symm)
      | cons => simp [Broadcaster.look, held, items] at ends

end Follower.Stands

namespace Feed.Shows

variable {feed : Feed α} {history shown : List α}

theorem create (initial : α) (capacity : Nat) :
    (Feed.create initial capacity).Shows [initial] [] where
  numbered := Broadcaster.isNumbered_create initial capacity
  known := nofun
  latest := rfl
  stands := ⟨[], [initial], rfl, .slnil, .joining (by simp)⟩

theorem other {action : BroadcastAction α} (shows : feed.Shows history shown)
    (foreign : feed.owns action = false) :
    Feed.Shows { feed with states := feed.states.perform action }
      (history ++ action.published?.toList) shown where
  numbered := shows.numbered.perform action
  known id reading :=
    Nat.lt_of_lt_of_le (shows.known id reading) (Broadcaster.nextId_le_perform _ action)
  latest := by
    rw [Broadcaster.perform_current]
    cases published : action.published? with
    | none => simpa using shows.latest
    | some value => simp
  stands := by
    obtain ⟨passed, left, rfl, part, stands⟩ := shows.stands
    have untouched : ∀ id, feed.follower = .reading id →
        (feed.states.perform action).queue? id =
          action.published?.elim (feed.states.queue? id) fun value =>
            (feed.states.queue? id).map fun queue => queue.offer value := by
      intro id reading
      refine Broadcaster.queue?_other (shows.known id reading) ?_
      simpa [Feed.owns, reading] using foreign
    refine ⟨passed, left ++ action.published?.toList, by simp, part, ?_⟩
    cases published : action.published? with
    | none =>
        rw [published] at untouched
        rw [Option.toList_none, List.append_nil]
        exact stands.congr untouched
    | some value =>
        rw [published] at untouched
        exact stands.publish value untouched

theorem join (shows : feed.Shows history shown) (joining : feed.follower = .joining) :
    Feed.Shows ⟨feed.states.subscribe, .reading feed.states.nextId⟩ history
      (shown ++ [feed.states.current]) where
  numbered := shows.numbered.perform (.subscribe feed.states.capacity)
  known := by
    rintro id ⟨⟩
    exact Nat.lt_succ_self _
  latest := shows.latest
  stands := by
    obtain ⟨passed, left, rfl, part, stands⟩ := shows.stands
    rw [joining] at stands
    cases stands with
    | joining some =>
        have last : left.getLast? = .some feed.states.current := by
          rw [← shows.latest, List.getLast?_append_of_ne_nil _ some]
        have among := List.mem_of_getLast? last
        refine ⟨passed ++ left, [], (List.append_nil _).symm,
          part.append (List.singleton_sublist.mpr among),
          .fed (shows.numbered.queue?_subscribeWith _) rfl rfl ?_⟩
        rw [List.getLast?_concat, shows.latest]

theorem take {id : Nat} {value : α} (shows : feed.Shows history shown)
    (reading : feed.follower = .reading id) (found : feed.states.look id = .value value) :
    Feed.Shows { feed with states := feed.states.take id } history (shown ++ [value]) where
  numbered := shows.numbered.perform (.receive id)
  known := shows.known
  latest := shows.latest
  stands := by
    obtain ⟨passed, left, rfl, part, stands⟩ := shows.stands
    rw [reading] at stands
    have taken : (feed.states.take id).queue? id =
        (feed.states.queue? id).map fun queue => { queue with items := queue.items.drop 1 } := by
      have after := Broadcaster.queue?_perform (shows.known id reading) (.receive id)
      rw [BroadcastAction.onQueue?, if_pos rfl] at after
      rw [Broadcaster.perform] at after
      rw [after]
      cases feed.states.queue? id <;> rfl
    obtain ⟨rest, rfl, after⟩ := stands.take found taken
    refine ⟨passed ++ [value], rest, by simp, part.append (List.Sublist.refl _), ?_⟩
    rw [reading]
    exact after

theorem rejoin {id : Nat} (shows : feed.Shows history shown)
    (reading : feed.follower = .reading id) (ends : feed.states.look id = .ended) :
    Feed.Shows ⟨feed.states.drop id, .joining⟩ history shown where
  numbered := shows.numbered.perform (.drop id)
  known := nofun
  latest := shows.latest
  stands := by
    obtain ⟨passed, left, rfl, part, stands⟩ := shows.stands
    rw [reading] at stands
    exact ⟨passed, left, rfl, part, .joining (stands.ended ends)⟩

theorem leave (shows : feed.Shows history shown) : feed.leave.Shows history shown := by
  obtain ⟨passed, left, rfl, part, -⟩ := shows.stands
  unfold Feed.leave
  split
  · exact ⟨shows.numbered.perform (.drop _), nofun, shows.latest, passed, left, rfl, part, .gone⟩
  · exact ⟨shows.numbered, nofun, shows.latest, passed, left, rfl, part, .gone⟩
  · exact ⟨shows.numbered, nofun, shows.latest, passed, left, rfl, part, .gone⟩

theorem next (shows : feed.Shows history shown) :
    (feed.step .next).1.Shows history (shown ++ (feed.step .next).2.toList) := by
  obtain ⟨states, follower⟩ := feed
  cases follower with
  | joining => exact shows.join rfl
  | gone => simpa [Feed.step, Feed.next?] using shows
  | reading id =>
      cases found : states.look id with
      | value value => simpa [Feed.step, Feed.next?, found] using shows.take rfl found
      | empty => simpa [Feed.step, Feed.next?, found] using shows
      | ended => simpa [Feed.step, Feed.next?, found] using shows.rejoin rfl found

theorem step (shows : feed.Shows history shown) (action : FeedAction α) :
    (feed.step action).1.Shows (history ++ action.published?.toList)
      (shown ++ (feed.step action).2.toList) := by
  cases action with
  | next => simpa [FeedAction.published?] using shows.next
  | leave => simpa [FeedAction.published?, Feed.step] using shows.leave
  | other action =>
      simp only [Feed.step, FeedAction.published?, Option.toList_none, List.append_nil]
      by_cases foreign : feed.owns action = true
      · have silent : action.published? = none := by
          cases action with
          | publish =>
              unfold Feed.owns at foreign
              split at foreign <;>
                simp [BroadcastAction.isReceiveBy, BroadcastAction.isCutOf] at foreign
          | subscribe | unsubscribe | drop | receive => rfl
        simpa [foreign, silent] using shows
      · rw [if_neg foreign]
        exact shows.other (by simpa using foreign)

theorem sublist (shows : feed.Shows history shown) : shown.Sublist history := by
  obtain ⟨passed, left, rfl, part, -⟩ := shows.stands
  exact part.trans (List.sublist_append_left ..)

end Feed.Shows

namespace Feed

def advance (feed : Feed α) : Feed α := (feed.step .next).1

namespace Shows

variable {feed : Feed α} {history shown : List α}

theorem advance (shows : feed.Shows history shown) : ∃ seen, feed.advance.Shows history seen :=
  ⟨_, shows.next⟩

end Shows

def history (initial : α) (actions : List (FeedAction α)) : List α :=
  initial :: actions.filterMap FeedAction.published?

end Feed

end BuildWatch
