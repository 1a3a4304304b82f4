import Mathlib

/-!
Runs of something that begins and then takes one action after the other, as long as they are
possible. A run may take every action that is possible at its time, so what holds of all runs holds
for every order in which things can happen.
-/

namespace BuildWatch

/-- How a state begins, and the state after an action if it is possible, each with what is done. -/
structure Process (State Action Output : Type) where
  begin : State → State × Output
  step? : State → Action → Option (State × Output)

/-- What happened between two moments. The first move of a run is the beginning, which is no
action. -/
structure Move (State Action Output : Type) where
  before : State
  action : Option Action
  output : Output
  after : State

theorem take_cons_drop {Item : Type} {items : List Item} {index : Nat} {item : Item}
    (found : items[index]? = some item) :
    items.take index ++ item :: items.drop (index + 1) = items := by
  obtain ⟨bound, rfl⟩ := List.getElem?_eq_some_iff.mp found
  rw [← List.drop_eq_getElem_cons bound, List.take_append_drop]

namespace Process

variable {State Action Output : Type}

def opening (process : Process State Action Output) (origin : State) :
    Move State Action Output :=
  ⟨origin, none, (process.begin origin).2, (process.begin origin).1⟩

/-- The moves by which a state comes to where it is. -/
inductive Run (process : Process State Action Output) (origin : State) :
    List (Move State Action Output) → State → Prop
  | begin : Run process origin [process.opening origin] (process.begin origin).1
  | step {moves state action next} : Run process origin moves state →
      process.step? state action = some next →
      Run process origin (moves ++ [⟨state, some action, next.2, next.1⟩]) next.1

/-- The moves and the state after some actions are tried one after the other, leaving out those
that are not possible. -/
def attempt (process : Process State Action Output) (origin : State) (actions : List Action) :
    List (Move State Action Output) × State :=
  actions.foldl (fun reached action =>
    match process.step? reached.2 action with
    | some next => (reached.1 ++ [⟨reached.2, some action, next.2, next.1⟩], next.1)
    | none => reached) ([process.opening origin], (process.begin origin).1)

namespace Run

variable {process : Process State Action Output} {origin state : State}
  {moves earlier later : List (Move State Action Output)} {move : Move State Action Output}

theorem attempt (process : Process State Action Output) (origin : State)
    (actions : List Action) :
    process.Run origin (process.attempt origin actions).1 (process.attempt origin actions).2 := by
  induction actions using List.reverseRecOn with
  | nil => exact .begin
  | append_singleton earlier action ih =>
      rw [Process.attempt, List.foldl_append]
      simp only [List.foldl_cons, List.foldl_nil]
      split
      · exact ih.step ‹_›
      · exact ih

theorem nonempty (run : process.Run origin moves state) : moves ≠ [] := by
  cases run with
  | begin => simp
  | step => simp

theorem last (run : process.Run origin (moves ++ [move]) state) (longer : moves ≠ []) :
    ∃ previous action next, process.Run origin moves previous ∧
      process.step? previous action = some next ∧
      move = ⟨previous, some action, next.2, next.1⟩ ∧ state = next.1 := by
  generalize whole : moves ++ [move] = all at run
  cases run with
  | begin =>
      have single : moves = [] := by simpa using congrArg List.length whole
      exact absurd single longer
  | @step before previous action next run possible =>
      obtain ⟨rfl, same⟩ := List.append_inj' whole rfl
      obtain rfl := List.singleton_inj.mp same
      exact ⟨previous, action, next, run, possible, rfl, rfl⟩

theorem earlierRun (run : process.Run origin (earlier ++ later) state) (begun : earlier ≠ []) :
    ∃ previous, process.Run origin earlier previous := by
  induction later using List.reverseRecOn generalizing state with
  | nil => exact ⟨state, by simpa using run⟩
  | append_singleton rest move ih =>
      rw [← List.append_assoc] at run
      obtain ⟨previous, -, -, shorter, -⟩ := run.last (by simp [begun])
      exact ih shorter

theorem move_cases (run : process.Run origin (earlier ++ move :: later) state) :
    (earlier = [] ∧ move = process.opening origin) ∨
      ∃ previous action next, process.Run origin earlier previous ∧
        process.step? previous action = some next ∧
        move = ⟨previous, some action, next.2, next.1⟩ := by
  rw [List.append_cons] at run
  obtain ⟨reached, run⟩ := run.earlierRun (by simp)
  by_cases first : earlier = []
  · subst earlier
    generalize whole : [] ++ [move] = moves at run
    cases run with
    | begin => exact .inl ⟨rfl, List.singleton_inj.mp whole⟩
    | step run =>
        obtain ⟨empty, -⟩ := List.append_inj' whole rfl
        exact absurd empty.symm run.nonempty
  · obtain ⟨previous, action, next, shorter, possible, rfl, -⟩ := run.last first
    exact .inr ⟨previous, action, next, shorter, possible, rfl⟩

theorem taken {action : Action} (run : process.Run origin (earlier ++ move :: later) state)
    (acted : move.action = some action) :
    ∃ previous next, process.Run origin earlier previous ∧
      process.step? previous action = some next ∧
      move = ⟨previous, some action, next.2, next.1⟩ := by
  rcases run.move_cases with ⟨-, rfl⟩ | ⟨previous, taken, next, past, possible, rfl⟩
  · simp [opening] at acted
  · obtain rfl := Option.some.inj acted
    exact ⟨previous, next, past, possible, rfl⟩

theorem getLast?_after (run : process.Run origin moves state) :
    moves.getLast?.map Move.after = some state := by
  cases run with
  | begin => rfl
  | step => simp

theorem follow (Holds : List (Move State Action Output) → State → Prop) {reached : State}
    (past : process.Run origin earlier reached) (run : process.Run origin (earlier ++ later) state)
    (held : Holds [] reached)
    (kept : ∀ {between reached action next},
      process.Run origin (earlier ++ between) reached → Holds between reached →
      process.step? reached action = some next →
      Holds (between ++ [⟨reached, some action, next.2, next.1⟩]) next.1) :
    Holds later state := by
  induction later using List.reverseRecOn generalizing state with
  | nil =>
      rw [List.append_nil] at run
      obtain rfl := Option.some.inj (past.getLast?_after.symm.trans run.getLast?_after)
      exact held
  | append_singleton rest last ih =>
      rw [← List.append_assoc] at run
      obtain ⟨previous, action, next, shorter, possible, rfl, rfl⟩ :=
        run.last (by simp [past.nonempty])
      exact kept shorter (ih shorter) possible

theorem since (Holds : List (Move State Action Output) → State → Prop) {action : Action}
    (run : process.Run origin (earlier ++ move :: later) state)
    (acted : move.action = some action)
    (brought : ∀ {reached next}, process.Run origin earlier reached →
      process.step? reached action = some next →
      move = ⟨reached, some action, next.2, next.1⟩ → Holds [] next.1)
    (kept : ∀ {between reached action next},
      process.Run origin (earlier ++ move :: between) reached → Holds between reached →
      process.step? reached action = some next →
      Holds (between ++ [⟨reached, some action, next.2, next.1⟩]) next.1) :
    Holds later state := by
  obtain ⟨previous, next, past, possible, same⟩ := run.taken acted
  have reached : process.Run origin (earlier ++ [move]) next.1 := same ▸ past.step possible
  rw [List.append_cons] at run
  refine reached.follow Holds run (brought past possible same) ?_
  intro between reached action next run held possible
  rw [← List.append_cons] at run
  exact kept run held possible

end Run

end Process

end BuildWatch
