/-!
A timer that waits for quiet. Asked again while it runs, it does not move its wake to a later time
but records the request; its owner asks after each wake how much time remains and asks again for
that. An earlier request moves the wake.
-/

namespace BuildWatch

/-- Milliseconds since the start. -/
abbrev Time := Nat

/-- Thirty years: whoever waits for longer waits for that long. -/
def longestWait : Time := 30 * 365 * 24 * 60 * 60 * 1000

/-- The timer: whether it runs, when it wakes, and the latest request made while it ran. -/
structure Delay where
  armed : Bool
  wake : Time
  requested : Option Time
  deriving DecidableEq, Repr

namespace Delay

def idle : Delay := ⟨false, 0, none⟩

def trigger (delay : Delay) (now wait : Time) : Delay :=
  if delay.armed ∧ delay.wake ≤ now + wait then { delay with requested := some (now + wait) }
  else ⟨true, now + wait, none⟩

def remaining (delay : Delay) (now : Time) : Time :=
  match delay.requested with
  | some due => due - now
  | none => 0

def isDue (delay : Delay) (now : Time) : Bool :=
  delay.armed && delay.wake ≤ now

def woken (delay : Delay) : Delay :=
  { delay with armed := false }

def nextWake (delay : Delay) (now : Time) : Option Time :=
  if delay.armed then some (max now delay.wake) else none

/-- What its owner does after a wake: the timer is asked again for the time that remains, or the
wake is accepted when none does. -/
def onWake (delay : Delay) (now : Time) : Delay × Bool :=
  let after := delay.woken
  if after.remaining now = 0 then (after, true)
  else (after.trigger now (after.remaining now), false)

end Delay

structure TimerRun where
  now : Time
  delay : Delay
  deriving DecidableEq, Repr

inductive TimerAction where
  | pass (time : Time)
  | trigger (wait : Time)
  | wake

namespace TimerRun

def unasked (start : Time) : TimerRun := ⟨start, .idle⟩

def trigger (run : TimerRun) (wait : Time) : TimerRun :=
  { run with delay := run.delay.trigger run.now wait }

/-- What becomes of a timer whose owner awaits it as soon as it is due, and whether a wake was
accepted. Time does not pass a wake. -/
def step? (run : TimerRun) : TimerAction → Option (TimerRun × Bool)
  | .pass time =>
    if run.delay.armed = true ∧ run.delay.wake < run.now + time then none
    else some ({ run with now := run.now + time }, false)
  | .trigger wait => some (run.trigger wait, false)
  | .wake =>
    if run.delay.isDue run.now then
      some ({ run with delay := (run.delay.onWake run.now).1 }, (run.delay.onWake run.now).2)
    else none

end TimerRun

end BuildWatch
