import BuildWatch.Broadcast.Waiter
import BuildWatch.Proofs.Broadcast.Queue
import BuildWatch.Proofs.Run

/-!
What a waiter has found, however its steps and those of others come. While its queue is fed, a
latest value that it accepts is the last one in the queue, so a waiter that has nothing left to do
has missed nothing. When it is dropped it looks at the latest value again.
-/

namespace BuildWatch

variable {α : Type}

structure Wait (α : Type) where
  states : Broadcaster α
  waiter : Waiter α

/-- A step of the waiter, the end of its time, or something that others do with the broadcaster
and subscriptions of their own. -/
inductive WaitAction (α : Type) where
  | step
  | expire
  | other (action : BroadcastAction α)

def WaitAction.published? : WaitAction α → Option α
  | other action => action.published?
  | step | expire => none

def WaitStage.isOpen : WaitStage α → Bool
  | joining | reading _ => true
  | leaving .. | gone _ => false

/-- Who has a queue is the only one to receive from it and to drop it; everybody may unsubscribe
everything. -/
def Waiter.owns (waiter : Waiter α) : BroadcastAction α → Bool
  | .receive id | .drop id => waiter.subscription = some id
  | .subscribe _ | .publish _ | .unsubscribe _ => false

namespace Wait

def step? (wait : Wait α) : WaitAction α → Option (Wait α × List LogEntry)
  | .step =>
    (wait.waiter.step? wait.states).map fun (waiter, states, log) => (⟨states, waiter⟩, log)
  | .expire =>
    if wait.waiter.stage.isOpen then some ({ wait with waiter := wait.waiter.expire }, [])
    else none
  | .other action =>
    if wait.waiter.owns action then none
    else some ({ wait with states := wait.states.perform action }, [])

def process : Process (Wait α) (WaitAction α) (List LogEntry) := ⟨fun wait => (wait, []), step?⟩

end Wait

abbrev WaitMove (α : Type) := Move (Wait α) (WaitAction α) (List LogEntry)

namespace Wait

def actionsIn (moves : List (WaitMove α)) : List (WaitAction α) :=
  moves.filterMap Move.action

/-- The latest value at the beginning and those published since. -/
def valuesSince (first : α) (actions : List (WaitAction α)) : List α :=
  first :: actions.filterMap WaitAction.published?

inductive Steps (wait : Wait α) : WaitAction α → Wait α → Prop
  | joined : wait.waiter.stage = .joining →
      Steps wait .step ⟨wait.states.perform (.subscribe wait.states.capacity),
        wait.waiter.onValue wait.states.nextId wait.states.current⟩
  | took {id value} : wait.waiter.stage = .reading id → wait.states.look id = .value value →
      Steps wait .step ⟨wait.states.perform (.receive id), wait.waiter.onValue id value⟩
  | ended {id} : wait.waiter.stage = .reading id → wait.states.look id = .ended →
      Steps wait .step
        ⟨wait.states.perform (.drop id), { wait.waiter with stage := .joining }⟩
  | left {id found} : wait.waiter.stage = .leaving id found →
      Steps wait .step
        ⟨wait.states.perform (.drop id), { wait.waiter with stage := .gone found }⟩
  | expired : wait.waiter.stage.isOpen = true →
      Steps wait .expire { wait with waiter := wait.waiter.expire }
  | other {action} : wait.waiter.owns action = false →
      Steps wait (.other action) { wait with states := wait.states.perform action }

variable {wait : Wait α} {action : WaitAction α} {next : Wait α × List LogEntry}

theorem steps_of_step? (possible : wait.step? action = some next) : wait.Steps action next.1 := by
  obtain ⟨states, accepts, stage⟩ := wait
  cases action with
  | step =>
      cases stage with
      | joining =>
          obtain rfl := Option.some.inj possible
          exact .joined rfl
      | reading id =>
          cases found : states.look id with
          | value value =>
              simp only [step?, Waiter.step?, Waiter.look?, found] at possible
              obtain rfl := Option.some.inj possible
              exact .took rfl found
          | empty => simp [step?, Waiter.step?, Waiter.look?, found] at possible
          | ended =>
              simp only [step?, Waiter.step?, Waiter.look?, found] at possible
              obtain rfl := Option.some.inj possible
              exact .ended rfl found
      | leaving id found =>
          obtain rfl := Option.some.inj possible
          exact .left rfl
      | gone found => simp [step?, Waiter.step?] at possible
  | expire =>
      rw [step?] at possible
      split at possible
      · rename_i isOpen
        obtain rfl := Option.some.inj possible
        exact .expired isOpen
      · simp at possible
  | other action =>
      rw [step?] at possible
      split at possible
      · simp at possible
      · rename_i foreign
        obtain rfl := Option.some.inj possible
        exact .other (by simpa using foreign)

end Wait

/-- A queue has only values that there have been, and as long as it is fed, a latest value that is
accepted is the last one in it. -/
structure Queue.Keeps (queue : Queue α) (accepts : α → Bool) (values : List α) (current : α) :
    Prop where
  known : queue.items ⊆ values
  latest : queue.isRegistered = true → accepts current = true →
    queue.items.getLast? = some current

namespace Queue.Keeps

variable {queue : Queue α} {accepts : α → Bool} {values : List α} {current : α}

theorem offer (keeps : queue.Keeps accepts values current) (value : α) :
    (queue.offer value).Keeps accepts (values ++ [value]) value := by
  have known : queue.items ⊆ values ++ [value] :=
    List.Subset.trans keeps.known (List.subset_append_left ..)
  rw [Queue.offer]
  by_cases registered : queue.isRegistered = true
  · by_cases full : queue.isFull = true
    · rw [if_pos registered, if_pos full]
      exact ⟨known, by simp⟩
    · rw [if_pos registered, if_neg full]
      refine ⟨List.append_subset.mpr ⟨known, by simp⟩, fun _ _ => ?_⟩
      exact List.getLast?_concat
  · rw [if_neg registered]
    exact ⟨known, fun fed => absurd fed registered⟩

theorem unregister (keeps : queue.Keeps accepts values current) :
    Queue.Keeps { queue with isRegistered := false } accepts values current :=
  ⟨keeps.known, nofun⟩

theorem take {value : α} {rest : List α} (keeps : queue.Keeps accepts values current)
    (items : queue.items = value :: rest) (unwanted : accepts value = false) :
    Queue.Keeps { queue with items := queue.items.drop 1 } accepts values current where
  known := List.Subset.trans (List.drop_subset ..) keeps.known
  latest registered wanted := by
    have last := keeps.latest registered wanted
    rw [items] at last ⊢
    cases rest with
    | nil =>
        obtain rfl : value = current := by simpa using last
        simp [wanted] at unwanted
    | cons second more => simpa using last

theorem mono {more : List α} (keeps : queue.Keeps accepts values current)
    (known : values ⊆ more) : queue.Keeps accepts more current :=
  ⟨List.Subset.trans keeps.known known, keeps.latest⟩

end Queue.Keeps

/-- What a waiter may come back with: a value that it accepts and that there has been, or nothing
when its time is over. -/
def Waiter.MayFind (accepts : α → Bool) (values : List α) (isOver : Prop) : Option α → Prop
  | some value => accepts value = true ∧ value ∈ values
  | none => isOver

/-- How a waiter stands to the broadcaster by the stage to which it has come. -/
inductive WaitStage.Stands (accepts : α → Bool) (values : List α) (isOver : Prop)
    (states : Broadcaster α) : WaitStage α → Prop
  | joining : Stands accepts values isOver states .joining
  | reading {id queue} : states.queue? id = some queue →
      queue.Keeps accepts values states.current →
      Stands accepts values isOver states (.reading id)
  | leaving {id found} : Waiter.MayFind accepts values isOver found →
      Stands accepts values isOver states (.leaving id found)
  | gone {found} : Waiter.MayFind accepts values isOver found →
      Stands accepts values isOver states (.gone found)

structure Wait.Sound (wait : Wait α) (accepts : α → Bool) (values : List α) (isOver : Prop) :
    Prop where
  numbered : wait.states.IsNumbered
  same : wait.waiter.accepts = accepts
  latest : wait.states.current ∈ values
  stands : wait.waiter.stage.Stands accepts values isOver wait.states

variable {accepts : α → Bool} {values : List α} {isOver : Prop}

namespace WaitStage.Stands

variable {stage : WaitStage α} {states : Broadcaster α}

theorem mono {more : List α} {isLater : Prop} (stands : stage.Stands accepts values isOver states)
    (known : values ⊆ more) (later : isOver → isLater) :
    stage.Stands accepts more isLater states := by
  have mayFind : ∀ {found}, Waiter.MayFind accepts values isOver found →
      Waiter.MayFind accepts more isLater found := by
    intro found may
    cases found with
    | none => exact later may
    | some value => exact ⟨may.1, known may.2⟩
  cases stands with
  | joining => exact .joining
  | reading held keeps => exact .reading held (keeps.mono known)
  | leaving may => exact .leaving (mayFind may)
  | gone may => exact .gone (mayFind may)

theorem onValue {id : Nat} {value : α} (known : value ∈ values)
    (unwanted : accepts value = false →
      (WaitStage.reading id).Stands accepts values isOver states) :
    (if accepts value then WaitStage.leaving id (some value) else .reading id).Stands accepts
      values isOver states := by
  by_cases wanted : accepts value = true
  · rw [if_pos wanted]
    exact .leaving ⟨wanted, known⟩
  · rw [if_neg wanted]
    exact unwanted (by simpa using wanted)

theorem other {action : BroadcastAction α} {waiter : Waiter α}
    (stands : waiter.stage.Stands accepts values isOver states) (numbered : states.IsNumbered)
    (foreign : waiter.owns action = false) :
    waiter.stage.Stands accepts (values ++ action.published?.toList) isOver
      (states.perform action) := by
  have known : values ⊆ values ++ action.published?.toList := List.subset_append_left ..
  obtain ⟨accepting, stage⟩ := waiter
  cases stands with
  | joining => exact .joining
  | leaving may => exact (WaitStage.Stands.leaving may).mono known id
  | gone may => exact (WaitStage.Stands.gone may).mono known id
  | @reading id queue held keeps =>
      have after := Broadcaster.queue?_perform (numbered.lt_nextId held) action
      rw [held] at after
      cases action with
      | subscribe => exact .reading after (keeps.mono known)
      | publish value => exact .reading after (keeps.offer value)
      | unsubscribe other =>
          by_cases same : other = id
          · rw [BroadcastAction.onQueue?, if_pos same] at after
            exact .reading after (keeps.unregister.mono known)
          · rw [BroadcastAction.onQueue?, if_neg same] at after
            exact .reading after (keeps.mono known)
      | drop other | receive other =>
          have different : other ≠ id := by
            simpa [Waiter.owns, Waiter.subscription, eq_comm] using foreign
          rw [BroadcastAction.onQueue?, if_neg different] at after
          exact .reading after (keeps.mono known)

end WaitStage.Stands

namespace Wait

variable {wait next : Wait α} {action : WaitAction α}

namespace Sound

theorem start (accepts : α → Bool) {states : Broadcaster α} (numbered : states.IsNumbered) :
    Sound ⟨states, .start accepts⟩ accepts [states.current] isOver :=
  ⟨numbered, rfl, List.mem_singleton_self _, .joining⟩

theorem join (sound : wait.Sound accepts values isOver) :
    Sound ⟨wait.states.perform (.subscribe wait.states.capacity),
      wait.waiter.onValue wait.states.nextId wait.states.current⟩ accepts values isOver where
  numbered := sound.numbered.perform _
  same := sound.same
  latest := sound.latest
  stands := by
    rw [Waiter.onValue, sound.same]
    refine .onValue sound.latest fun unwanted => ?_
    refine .reading (sound.numbered.queue?_subscribeWith _) ⟨List.nil_subset _, ?_⟩
    intro registered wanted
    exact absurd (unwanted.symm.trans wanted) (by simp)

theorem take {id : Nat} {value : α} (sound : wait.Sound accepts values isOver)
    (reading : wait.waiter.stage = .reading id) (found : wait.states.look id = .value value) :
    Sound ⟨wait.states.perform (.receive id), wait.waiter.onValue id value⟩ accepts values
      isOver where
  numbered := sound.numbered.perform _
  same := sound.same
  latest := sound.latest
  stands := by
    rw [Waiter.onValue, sound.same]
    have stands := sound.stands
    rw [reading] at stands
    cases stands with
    | @reading _ queue held keeps =>
        have after := Broadcaster.queue?_perform (sound.numbered.lt_nextId held) (.receive id)
        rw [held, BroadcastAction.onQueue?, if_pos rfl] at after
        obtain ⟨same, rest, again, items⟩ := Broadcaster.queue?_of_look_value found
        obtain rfl := Option.some.inj (held.symm.trans again)
        refine .onValue (keeps.known (by simp [items])) fun unwanted => ?_
        exact .reading after (keeps.take items unwanted)

theorem mono {more : List α} {isLater : Prop} (sound : wait.Sound accepts values isOver)
    (known : values ⊆ more) (later : isOver → isLater) : wait.Sound accepts more isLater :=
  ⟨sound.numbered, sound.same, known sound.latest, sound.stands.mono known later⟩

theorem rejoin {id : Nat} (sound : wait.Sound accepts values isOver) :
    Sound ⟨wait.states.perform (.drop id), { wait.waiter with stage := .joining }⟩ accepts values
      isOver :=
  ⟨sound.numbered.perform _, sound.same, sound.latest, .joining⟩

theorem leave {id : Nat} {found : Option α} (sound : wait.Sound accepts values isOver)
    (leaving : wait.waiter.stage = .leaving id found) :
    Sound ⟨wait.states.perform (.drop id), { wait.waiter with stage := .gone found }⟩ accepts
      values isOver where
  numbered := sound.numbered.perform _
  same := sound.same
  latest := sound.latest
  stands := by
    have stands := sound.stands
    rw [leaving] at stands
    cases stands with
    | leaving may => exact .gone may

theorem expire (sound : wait.Sound accepts values isOver) (ended : isOver) :
    Sound { wait with waiter := wait.waiter.expire } accepts values isOver where
  numbered := sound.numbered
  same := by
    unfold Waiter.expire
    split <;> exact sound.same
  latest := sound.latest
  stands := by
    have stands := sound.stands
    unfold Waiter.expire
    split
    · exact .gone ended
    · exact .leaving ended
    · exact stands
    · exact stands

theorem other {action : BroadcastAction α} (sound : wait.Sound accepts values isOver)
    (foreign : wait.waiter.owns action = false) :
    Sound { wait with states := wait.states.perform action } accepts
      (values ++ action.published?.toList) isOver where
  numbered := sound.numbered.perform _
  same := sound.same
  latest := by
    rw [Broadcaster.perform_current]
    cases published : action.published? with
    | none => exact List.mem_append_left _ sound.latest
    | some value => simp
  stands := sound.stands.other sound.numbered foreign

theorem step (sound : wait.Sound accepts values isOver) (steps : wait.Steps action next) :
    next.Sound accepts (values ++ action.published?.toList) (isOver ∨ action = .expire) := by
  have known : values ⊆ values ++ action.published?.toList := List.subset_append_left ..
  cases steps with
  | joined => exact sound.join.mono known .inl
  | took reading found => exact (sound.take reading found).mono known .inl
  | ended => exact sound.rejoin.mono known .inl
  | left leaving => exact (sound.leave leaving).mono known .inl
  | expired => exact (sound.mono known .inl).expire (.inr rfl)
  | other foreign => exact (sound.other foreign).mono (fun _ member => member) .inl

theorem found (sound : wait.Sound accepts values isOver) {value : α}
    (gone : wait.waiter.stage = .gone (some value)) : accepts value = true ∧ value ∈ values := by
  have stands := sound.stands
  rw [gone] at stands
  cases stands with
  | gone may => exact may

end Sound

theorem valuesSince_append_singleton (first : α) (actions : List (WaitAction α))
    (action : WaitAction α) :
    valuesSince first (actions ++ [action]) =
      valuesSince first actions ++ action.published?.toList := by
  cases published : action.published? <;> simp [valuesSince, published]

theorem actionsIn_append (earlier later : List (WaitMove α)) :
    actionsIn (earlier ++ later) = actionsIn earlier ++ actionsIn later :=
  List.filterMap_append

variable {states : Broadcaster α} {moves : List (WaitMove α)}

theorem run_sound (numbered : states.IsNumbered)
    (run : process.Run ⟨states, .start accepts⟩ moves wait) :
    wait.Sound accepts (valuesSince states.current (actionsIn moves))
      (.expire ∈ actionsIn moves) := by
  induction run with
  | begin => exact .start accepts numbered
  | @step moves wait action next run possible ih =>
      have sound := ih.step (steps_of_step? possible)
      rw [actionsIn_append, show actionsIn [_] = [action] from rfl, valuesSince_append_singleton]
      refine sound.mono (fun _ member => member) fun ended => ?_
      rw [List.mem_append, List.mem_singleton]
      exact ended.imp_right Eq.symm

end Wait

end BuildWatch
