import BuildWatch.Proofs.Broadcast.Waiting

/-!
How a waiter comes back. By itself it comes to a rest, and a turn of it is nothing but such steps.
Of the queues that it makes, at most the one that it has at the time is still there.
-/

namespace BuildWatch

variable {α : Type}

theorem Waiter.subscription_onValue (waiter : Waiter α) (id : Nat) (value : α) :
    (waiter.onValue id value).subscription = some id := by
  by_cases wanted : waiter.accepts value = true <;> simp [onValue, subscription, wanted]

theorem Waiter.subscription_expire (waiter : Waiter α) :
    waiter.expire.subscription = waiter.subscription := by
  obtain ⟨accepting, stage⟩ := waiter
  cases stage <;> rfl

namespace Wait

variable {wait next : Wait α} {action : WaitAction α} {moves : List (WaitMove α)}

def Cleared (wait : Wait α) (id : Nat) : Prop :=
  wait.waiter.subscription = some id ∨ wait.states.queue? id = none

theorem Steps.cleared {id : Nat} (steps : wait.Steps action next)
    (known : id < wait.states.nextId) (cleared : wait.Cleared id) : next.Cleared id := by
  have free {action : BroadcastAction α} (free : wait.states.queue? id = none) :
      (wait.states.perform action).queue? id = none :=
    Broadcaster.queue?_perform_none known free action
  rcases cleared with own | gone
  · cases steps with
    | joined joining => simp [Waiter.subscription, joining] at own
    | took reading =>
        obtain rfl := Option.some.inj (by simpa [Waiter.subscription, reading] using own)
        exact .inl (Waiter.subscription_onValue ..)
    | ended stage | left stage =>
        obtain rfl := Option.some.inj (by simpa [Waiter.subscription, stage] using own)
        exact .inr (Broadcaster.queue?_drop ..)
    | expired => exact .inl ((Waiter.subscription_expire _).trans own)
    | other => exact .inl own
  · cases steps with
    | joined | took | ended | left | other => exact .inr (free gone)
    | expired => exact .inr gone

theorem Steps.registered {id : Nat} (steps : wait.Steps .step next)
    (fresh : wait.states.nextId ≤ id) (made : id < next.states.nextId) : next.Cleared id := by
  cases steps with
  | joined =>
      obtain rfl : id = wait.states.nextId := Nat.le_antisymm (Nat.le_of_lt_succ made) fresh
      exact .inl (Waiter.subscription_onValue ..)
  | took | ended | left => exact absurd made fresh.not_gt

inductive Walks : Wait α → List LogEntry → Wait α → Prop
  | rest {wait : Wait α} : Walks wait [] wait
  | step {wait last : Wait α} {next log} : wait.step? .step = some next →
      Walks next.1 log last → Walks wait (next.2 ++ log) last

theorem Steps.numbered (steps : wait.Steps action next) (numbered : wait.states.IsNumbered) :
    next.states.IsNumbered := by
  cases steps with
  | joined | took | ended | left | other => exact numbered.perform _
  | expired => exact numbered

theorem Steps.current (steps : wait.Steps .step next) :
    next.states.current = wait.states.current := by
  cases steps <;> rfl

namespace Walks

variable {log more : List LogEntry} {last final : Wait α}

theorem trans (walks : wait.Walks log next) (further : next.Walks more last) :
    wait.Walks (log ++ more) last := by
  induction walks with
  | rest => exact further
  | step possible rest ih =>
      rw [List.append_assoc]
      exact .step possible (ih further)

theorem current (walks : wait.Walks log last) : last.states.current = wait.states.current := by
  induction walks with
  | rest => rfl
  | step possible rest ih => exact ih.trans (steps_of_step? possible).current

theorem run {origin : Wait α} (walks : wait.Walks log last)
    (run : process.Run origin moves wait) :
    ∃ more, process.Run origin (moves ++ more) last ∧
      ∀ action ∈ actionsIn more, action = .step := by
  induction walks generalizing moves with
  | rest => exact ⟨[], by simpa using run, by simp [actionsIn]⟩
  | @step wait last next log possible rest ih =>
      have longer : process.Run origin (moves ++ [⟨wait, some .step, next.2, next.1⟩]) next.1 :=
        run.step possible
      obtain ⟨more, further, own⟩ := ih longer
      refine ⟨⟨wait, some .step, next.2, next.1⟩ :: more, by simpa using further, ?_⟩
      simpa [actionsIn] using own

end Walks

end Wait

/-- A waiter that reads its queue or has gone; the other stages are left without a look into the
queue. -/
def WaitStage.isSettled : WaitStage α → Bool
  | reading _ | gone _ => true
  | joining | leaving .. => false

def WaitTurn.Leaves : WaitTurn α → Wait α → Prop
  | finished value, wait => wait.waiter.stage = .gone (some value)
  | waiting waiter, wait => wait.waiter = waiter ∧ wait.step? .step = none
  | paused waiter, wait => wait.waiter = waiter

namespace Waiter

theorem leave_walks (waiter : Waiter α) (states : Broadcaster α) :
    Wait.Walks ⟨states, waiter⟩ [] ⟨(waiter.leave states).2, (waiter.leave states).1⟩ := by
  obtain ⟨accepting, stage⟩ := waiter
  cases stage with
  | leaving id found =>
      have left : Wait.step? ⟨states, ⟨accepting, .leaving id found⟩⟩ .step =
          some (⟨states.drop id, ⟨accepting, .gone found⟩⟩, []) := rfl
      exact .step left .rest
  | joining | reading | gone => exact .rest

theorem glide_walks (waiter : Waiter α) (states : Broadcaster α) :
    Wait.Walks ⟨states, waiter⟩ [] ⟨(waiter.glide states).2, (waiter.glide states).1⟩ := by
  obtain ⟨accepting, stage⟩ := waiter
  cases stage with
  | joining =>
      have joined : Wait.step? ⟨states, ⟨accepting, .joining⟩⟩ .step =
          some (⟨states.subscribe, onValue ⟨accepting, .joining⟩ states.nextId states.current⟩,
            []) := rfl
      exact .step joined (leave_walks ..)
  | reading | leaving | gone => exact leave_walks ..

theorem isSettled_glide (waiter : Waiter α) (states : Broadcaster α) :
    (waiter.glide states).1.stage.isSettled = true := by
  obtain ⟨accepting, stage⟩ := waiter
  cases stage with
  | reading | leaving | gone => rfl
  | joining =>
      simp only [glide, join, onValue]
      split <;> rfl

theorem lookWithin_walks (allowance : Nat) {waiter : Waiter α}
    (settled : waiter.stage.isSettled = true) (states : Broadcaster α) (log : List LogEntry) :
    ∃ more last, Wait.Walks ⟨states, waiter⟩ more last ∧
      (lookWithin allowance waiter states log).1.Leaves last ∧
      (lookWithin allowance waiter states log).2 = (last.states, log ++ more) := by
  induction allowance generalizing waiter states log with
  | zero =>
      refine ⟨[], ⟨states, waiter⟩, .rest, ?_⟩
      unfold lookWithin
      split <;> simp_all [WaitTurn.Leaves]
  | succ allowance ih =>
      obtain ⟨accepting, stage⟩ := waiter
      cases stage with
      | joining | leaving => simp [WaitStage.isSettled] at settled
      | gone found =>
          refine ⟨[], ⟨states, _⟩, .rest, ?_⟩
          cases found <;> simp [lookWithin, WaitTurn.Leaves, Wait.step?, step?]
      | reading id =>
          cases possible : look? ⟨accepting, .reading id⟩ id states with
          | none =>
              refine ⟨[], ⟨states, ⟨accepting, .reading id⟩⟩, .rest, ?_⟩
              simp [lookWithin, possible, WaitTurn.Leaves, Wait.step?, step?]
          | some found =>
              obtain ⟨waiter, after, noted⟩ := found
              have looked : Wait.step? ⟨states, ⟨accepting, .reading id⟩⟩ .step =
                  some (⟨after, waiter⟩, noted) := by
                simp [Wait.step?, step?, possible]
              have further : lookWithin (allowance + 1) ⟨accepting, .reading id⟩ states log =
                  lookWithin allowance (waiter.glide after).1 (waiter.glide after).2
                    (log ++ noted) := by
                simp [lookWithin, possible]
              obtain ⟨more, last, walks, leaves, same⟩ :=
                ih (waiter.isSettled_glide after) (waiter.glide after).2 (log ++ noted)
              rw [further, same, List.append_assoc]
              exact ⟨noted ++ more, last, .step looked ((waiter.glide_walks after).trans walks),
                leaves, rfl⟩

/-- A turn is nothing but steps of the waiter, and one that ends with waiting ends because no step
is left. -/
theorem turn_walks (waiter : Waiter α) (states : Broadcaster α) :
    ∃ last, Wait.Walks ⟨states, waiter⟩ (waiter.turn states).2.2 last ∧
      (waiter.turn states).1.Leaves last ∧ (waiter.turn states).2.1 = last.states := by
  obtain ⟨more, last, walks, leaves, same⟩ :=
    lookWithin_walks stride (waiter.isSettled_glide states) (waiter.glide states).2 []
  refine ⟨last, ?_, leaves, congrArg Prod.fst same⟩
  rw [turn, same]
  exact (waiter.glide_walks states).trans walks

end Waiter

namespace Wait

def begun (initial : α) (capacity : Nat) (earlier : List (BroadcastAction α))
    (accepts : α → Bool) : Wait α :=
  ⟨(Broadcaster.create initial capacity).performAll earlier, .start accepts⟩

/-- Two values are published before the waiter reads the first, so that it is dropped; it finds the
third one when it subscribes again. -/
def dropped : List (WaitMove Nat) × Wait Nat :=
  process.attempt (.begun 0 1 [.publish 7] (· == 3))
    [.step, .other (.publish 1), .other (.publish 2), .other (.publish 3), .step, .step,
      .other (.subscribe 1), .step, .step]

end Wait

end BuildWatch
