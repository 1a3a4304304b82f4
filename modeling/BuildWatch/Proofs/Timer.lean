import BuildWatch.Proofs.Debounce
import BuildWatch.Proofs.Run

/-!
A timer on a clock that does not pass a wake: whoever owns the timer awaits it as soon as it is due.
However it is asked, the owner accepts one wake for all the requests since the last one that was
accepted, at the very time that the latest of them is for.
-/

namespace BuildWatch

/-- A move of a timer and its owner; its output says whether a wake was accepted. -/
abbrev TimerMove := Move TimerRun TimerAction Bool

namespace TimerMove

/-- The time for which the timer is asked. -/
def due? (move : TimerMove) : Option Time :=
  match move.action with
  | some (.trigger wait) => some (move.before.now + wait)
  | _ => none

end TimerMove

/-- The times that were asked for since a wake was accepted. -/
def awaited (moves : List TimerMove) : List Time :=
  (moves.rtakeWhile fun move => !move.output).filterMap TimerMove.due?

def acceptedTimes (moves : List TimerMove) : List Time :=
  (moves.filter fun move => move.output).map fun move => move.before.now

theorem awaited_append_singleton (moves : List TimerMove) (move : TimerMove) :
    awaited (moves ++ [move]) =
      if move.output then [] else awaited moves ++ (TimerMove.due? move).toList := by
  rw [awaited, List.rtakeWhile_concat]
  by_cases accepted : move.output = true
  · simp [accepted]
  · simp only [accepted, Bool.not_false, if_true, List.filterMap_append, awaited]
    cases due : TimerMove.due? move <;> simp [due]

namespace TimerRun

def process : Process TimerRun TimerAction Bool := ⟨fun run => (run, false), step?⟩

/-- The timer runs just when a request is open, and then it waits for the latest one. -/
structure Stands (asked : List Time) (run : TimerRun) : Prop where
  idle : asked = [] → run.delay.armed = false
  waits : ∀ due, asked.getLast? = some due →
    run.delay.WaitsFor due ∧ run.now ≤ run.delay.wake

variable {start due : Time} {run next : TimerRun} {asked : List Time} {accepted : Bool}
  {moves : List TimerMove} {action : TimerAction}

theorem Stands.open_of_armed (stands : Stands asked run) (armed : run.delay.armed = true) :
    ∃ due, asked.getLast? = some due ∧ run.delay.WaitsFor due ∧ run.now ≤ run.delay.wake := by
  cases latest : asked.getLast? with
  | none =>
      have nothing := stands.idle (List.getLast?_eq_none_iff.mp latest)
      simp [nothing] at armed
  | some due => exact ⟨due, rfl, stands.waits due latest⟩

theorem Stands.pass (stands : Stands asked run) {time : Time}
    (possible : run.step? (.pass time) = some (next, accepted)) :
    accepted = false ∧ Stands asked next := by
  simp only [step?] at possible
  split at possible
  · simp at possible
  · rename_i before
    simp only [Option.some.injEq, Prod.mk.injEq] at possible
    obtain ⟨rfl, rfl⟩ := possible
    refine ⟨rfl, stands.idle, ?_⟩
    intro due latest
    obtain ⟨waits, early⟩ := stands.waits due latest
    have inTime : run.now + time ≤ run.delay.wake := by
      by_contra late
      exact before ⟨waits.armed, by lia⟩
    exact ⟨waits, inTime⟩

theorem Stands.trigger (stands : Stands asked run) (wait : Time) :
    Stands (asked ++ [run.now + wait]) (run.trigger wait) := by
  constructor
  · intro nothing
    simp at nothing
  · intro due latest
    obtain rfl : run.now + wait = due := by simpa using latest
    refine ⟨Delay.trigger_waitsFor run.delay run.now wait, ?_⟩
    apply Delay.le_trigger_wake
    intro armed
    obtain ⟨-, -, -, early⟩ := stands.open_of_armed armed
    exact early

theorem Stands.wake (stands : Stands asked run)
    (possible : run.step? .wake = some (next, accepted)) :
    ∃ due, asked.getLast? = some due ∧ run.now ≤ due ∧ (accepted = true ↔ run.now = due) ∧
      Stands (if accepted then [] else asked) next := by
  simp only [step?, Option.ite_none_right_eq_some] at possible
  obtain ⟨woke, same⟩ := possible
  simp only [Option.some.injEq, Prod.mk.injEq] at same
  obtain ⟨rfl, rfl⟩ := same
  obtain ⟨due, latest, waits, early⟩ := stands.open_of_armed (Delay.armed_of_isDue woke)
  have bound := waits.wake_le
  refine ⟨due, latest, by lia, ?_, ?_⟩
  · constructor
    · intro believed
      have reached := waits.reached woke believed
      lia
    · rintro rfl
      rw [waits.onWake_of_le woke (Nat.le_refl _)]
  · cases believed : (run.delay.onWake run.now).2 with
    | true =>
        have reached := waits.reached woke believed
        refine ⟨fun _ => ?_, by simp⟩
        rw [waits.onWake_of_le woke reached]
        rfl
    | false =>
        refine ⟨?_, ?_⟩
        · rintro rfl
          simp at latest
        · intro other also
          obtain rfl : due = other := by simpa [latest] using also
          exact ⟨waits.postponed woke believed, Delay.le_onWake_wake believed⟩

theorem stands (past : process.Run (unasked start) moves run) : Stands (awaited moves) run := by
  induction past with
  | begin => exact ⟨fun _ => rfl, nofun⟩
  | @step moves run action next _ possible ih =>
      obtain ⟨next, accepted⟩ := next
      rw [awaited_append_singleton]
      cases action with
      | pass time =>
          obtain ⟨rfl, kept⟩ := ih.pass possible
          simpa [TimerMove.due?] using kept
      | trigger wait =>
          obtain ⟨rfl, rfl⟩ := Prod.mk.inj (Option.some.inj possible)
          exact ih.trigger wait
      | wake =>
          obtain ⟨-, -, -, -, kept⟩ := ih.wake possible
          cases accepted <;> simpa [TimerMove.due?] using kept

theorem accepts_on_time (past : process.Run (unasked start) moves run)
    (waits : run.delay.WaitsFor due) (early : run.now ≤ due) (exactly : run.delay.wake = due) :
    ∃ more final, process.Run (unasked start) (moves ++ more) final ∧
      (∀ move ∈ more, TimerMove.due? move = none) ∧ acceptedTimes more = [due] ∧
      final.now = due := by
  have whole : run.now + (due - run.now) = due := by lia
  have passes : process.step? run (.pass (due - run.now)) = some (⟨due, run.delay⟩, false) := by
    simp only [process, step?]
    rw [if_neg (by lia), whole]
  have woke : run.delay.isDue due = true := by
    simp [Delay.isDue, waits.armed, exactly]
  have wakes : process.step? ⟨due, run.delay⟩ .wake = some (⟨due, run.delay.woken⟩, true) := by
    simp only [process, step?]
    rw [if_pos woke, waits.onWake_of_le woke (Nat.le_refl due)]
  have reached := (past.step passes).step wakes
  rw [List.append_assoc] at reached
  exact ⟨_, _, reached, by simp [TimerMove.due?], by simp [acceptedTimes], rfl⟩

theorem accepts (past : process.Run (unasked start) moves run)
    (waits : run.delay.WaitsFor due) (early : run.now ≤ run.delay.wake) :
    ∃ more final, process.Run (unasked start) (moves ++ more) final ∧
      (∀ move ∈ more, TimerMove.due? move = none) ∧ acceptedTimes more = [due] ∧
      final.now = due := by
  have bound := waits.wake_le
  by_cases exactly : run.delay.wake = due
  · exact accepts_on_time past waits (by lia) exactly
  · -- the first wake is too early: it only moves the timer to the latest request
    have whole : run.now + (run.delay.wake - run.now) = run.delay.wake := by lia
    have rest : run.delay.wake + (due - run.delay.wake) = due := by lia
    have passes : process.step? run (.pass (run.delay.wake - run.now)) =
        some (⟨run.delay.wake, run.delay⟩, false) := by
      simp only [process, step?]
      rw [if_neg (by lia), whole]
    have woke : run.delay.isDue run.delay.wake = true := by simp [Delay.isDue, waits.armed]
    have again : run.delay.woken.trigger run.delay.wake (due - run.delay.wake) =
        ⟨true, due, none⟩ := by
      rw [Delay.trigger, if_neg (by simp [Delay.woken]), rest]
    have wakes : process.step? ⟨run.delay.wake, run.delay⟩ .wake =
        some (⟨run.delay.wake, ⟨true, due, none⟩⟩, false) := by
      simp only [process, step?]
      rw [if_pos woke, waits.onWake_of_lt woke (by lia), again]
    have reached := (past.step passes).step wakes
    have moved : (⟨true, due, none⟩ : Delay).WaitsFor due := ⟨rfl, rfl, Nat.le_refl _⟩
    obtain ⟨more, final, past, silent, once, ends⟩ := accepts_on_time reached moved bound rfl
    rw [List.append_assoc, List.append_assoc] at past
    refine ⟨_, final, past, ?_, ?_, ends⟩
    · intro move member
      simp only [List.cons_append, List.nil_append, List.mem_cons] at member
      rcases member with rfl | rfl | later
      · rfl
      · rfl
      · exact silent move later
    · simpa [acceptedTimes] using once

/-- However a timer is asked: it wakes only while a request is open, and the wake is accepted just
when it comes at the time of the latest request. While a request is open, that time has not passed,
and left alone the timer brings one accepted wake, at that time; while none is, it does not run. -/
theorem accepted_at_latest (past : process.Run (unasked start) moves run) :
    (∀ earlier wake later, moves = earlier ++ wake :: later → wake.action = some .wake →
      ∃ due, (awaited earlier).getLast? = some due ∧ wake.before.delay.armed = true ∧
        wake.before.now ≤ due ∧ (wake.output = true ↔ wake.before.now = due)) ∧
    (awaited moves = [] → run.delay.armed = false) ∧
    ∀ due, (awaited moves).getLast? = some due → run.now ≤ due ∧
      ∃ more final, process.Run (unasked start) (moves ++ more) final ∧
        (∀ move ∈ more, TimerMove.due? move = none) ∧ acceptedTimes more = [due] ∧
        final.now = due := by
  refine ⟨?_, (stands past).idle, ?_⟩
  · rintro earlier wake later rfl woke
    obtain ⟨reached, next, before, possible, rfl⟩ := past.taken woke
    obtain ⟨due, latest, inTime, exactly, -⟩ := (stands before).wake possible
    have armed := ((stands before).waits due latest).1.armed
    exact ⟨due, latest, armed, inTime, exactly⟩
  · intro due latest
    obtain ⟨waits, early⟩ := (stands past).waits due latest
    have bound := waits.wake_le
    exact ⟨by lia, accepts past waits early⟩

/-- A timer is asked for a later time, for the same time while it is due, and for an earlier time;
then it is asked for now, then twice for one time, so that the record of the second request is left
behind, and once more. -/
def varied : List TimerMove × TimerRun :=
  process.attempt (unasked 0)
    [.trigger 100, .pass 60, .trigger 100, .pass 40, .trigger 60, .wake, .pass 20, .trigger 10,
      .pass 10, .wake, .trigger 0, .wake, .trigger 50, .trigger 50, .pass 50, .wake, .pass 5,
      .trigger 30]

theorem accepted_at_latest_varied :
    (process.Run (unasked 0) varied.1 varied.2 ∧ acceptedTimes varied.1 = [130, 130, 180] ∧
      (awaited varied.1).getLast? = some 215) ∧ varied.2.now ≤ 215 ∧
      ∃ more final, process.Run (unasked 0) (varied.1 ++ more) final ∧
        (∀ move ∈ more, TimerMove.due? move = none) ∧ acceptedTimes more = [215] ∧
        final.now = 215 := by
  have run : process.Run (unasked 0) varied.1 varied.2 := .attempt process (unasked 0) _
  have latest : (awaited varied.1).getLast? = some 215 := by cbv
  obtain ⟨-, -, answered⟩ := accepted_at_latest run
  exact ⟨⟨run, by cbv, latest⟩, answered 215 latest⟩

end TimerRun

end BuildWatch
