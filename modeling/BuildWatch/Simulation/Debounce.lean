import BuildWatch.Debounce

/-!
A timer and its owner on a clock that jumps from one due time to the next.
-/

namespace BuildWatch.TimerRun

def start : TimerRun := unasked 0

def advance (run : TimerRun) (time : Time) : TimerRun :=
  { run with now := run.now + min time longestWait }

def wakeBy (run : TimerRun) (limit : Time) : Option TimerRun :=
  match run.delay.nextWake run.now with
  | some time => if time ≤ limit then some { run with now := time } else none
  | none => none

def await (run : TimerRun) (time : Time) : Bool × TimerRun :=
  match run.wakeBy (run.now + min time longestWait) with
  | some woken => (true, { woken with delay := woken.delay.woken })
  | none => (false, run.advance time)

/-- Waits until a wake is accepted or a time is reached, and counts the wakes. A timer that was
asked again by its owner has no recorded request, so its second wake is accepted. -/
def settleBy (limit : Time) : Nat → Nat → TimerRun → Option Nat × TimerRun
  | 0, _, run => (none, { run with now := limit })
  | tries + 1, wakes, run =>
    match run.wakeBy limit with
    | none => (none, { run with now := limit })
    | some woken =>
      match woken.delay.onWake woken.now with
      | (delay, true) => (some (wakes + 1), { woken with delay })
      | (delay, false) => settleBy limit tries (wakes + 1) { woken with delay }

def settle (run : TimerRun) (time : Time) : Option Nat × TimerRun :=
  settleBy (run.now + min time longestWait) 2 0 run

end BuildWatch.TimerRun
