import BuildWatch.Coordinator
import BuildWatch.Simulation.Music
import BuildWatch.Simulation.Scheduler

/-!
Both build loops on one clock, and observers that wait for their states. Nothing of the server runs
before somebody waits for the first time. An observer whose time is over goes away before what is
due at that moment happens.
-/

namespace BuildWatch.Simulation

structure CoordinatorRun where
  code : SchedulerRun
  music : MusicRun
  hasBegun : Bool
  isStopping : Bool
  hasEnded : Bool
  log : List LogEntry

namespace CoordinatorRun

def now (run : CoordinatorRun) : Time := run.code.system.now

def create (settings : Settings) (tree : FileTree) (compiler : ScriptedCompiler)
    (songs : ScriptedSongs) (log : List LogEntry) : Except StartError CoordinatorRun := do
  settings.checkWatch tree
  let inbox := Inbox.ofSize changeCapacity
  .ok ⟨.create (settings.codeSystem tree) inbox compiler settings.subscriberCapacity,
    .create settings.musicSystem inbox songs settings.subscriberCapacity, false, false, false, log⟩

def clear (run : CoordinatorRun) : CoordinatorRun :=
  { run with code := run.code.clear, music := run.music.clear, log := [] }

def gather (run : CoordinatorRun) : CoordinatorRun :=
  { run with
    log := run.log ++ run.code.log ++ run.music.log
    code := { run.code with log := [] }
    music := { run.music with log := [] } }

def onCode (run : CoordinatorRun) (step : SchedulerRun → SchedulerRun) : CoordinatorRun :=
  { run with code := step run.code }.gather

def onMusic (run : CoordinatorRun) (step : MusicRun → MusicRun) : CoordinatorRun :=
  { run with music := step run.music }.gather

def takeAnswer (run : SchedulerRun) : SchedulerRun :=
  match run.next? with
  | some (.answer build use) => run.take (.answer build use)
  | _ => run

/-- Lets everything happen that is due. Builds learn the answer of the compiler first; then the
music goes on, whose builds need not read the project, and then the code. -/
def settle (run : CoordinatorRun) : CoordinatorRun :=
  if run.hasBegun then
    ((run.onCode takeAnswer).onMusic MusicRun.settle).onCode SchedulerRun.settle
  else { (run.onMusic MusicRun.start).onCode SchedulerRun.start with hasBegun := true }

def nextTime? (run : CoordinatorRun) : Option Time :=
  match run.code.nextTime?, run.music.nextTime? with
  | some code, some music => some (min code music)
  | some code, none => some code
  | none, music => music

def passTo (run : CoordinatorRun) (time : Time) : CoordinatorRun :=
  { run with code := run.code.passTo time, music := run.music.passTo time }

/-- Lets time pass until a condition holds, at most up to a limit; what is due at the limit has not
happened yet when it is reached. -/
def waitWithin (limit : Time) (holds : CoordinatorRun → Bool) :
    Nat → CoordinatorRun → CoordinatorRun
  | 0, run => run.passTo limit
  | fuel + 1, run =>
    if holds run then run
    else match run.nextTime? with
    | some time =>
      if time < limit then waitWithin limit holds fuel (run.passTo time).settle
      else run.passTo limit
    | none => run.passTo limit

def waitFor (run : CoordinatorRun) (time : Time) (holds : CoordinatorRun → Bool) :
    CoordinatorRun :=
  if holds run || time = 0 then run
  else waitWithin (run.now + min time longestWait) holds 16 run.settle

def advance (run : CoordinatorRun) (time : Time) : CoordinatorRun :=
  (run.waitFor time fun _ => false).settle

/-- Waits for the end of a build, for at most `time`; there is nothing to wait for once the server
stops. -/
def awaitState (run : CoordinatorRun) (time : Time) (state : CoordinatorRun → α)
    (isTerminal : α → Bool) : Option α × CoordinatorRun :=
  if run.isStopping then (none, run)
  else
    let after := run.waitFor time fun run => isTerminal (state run)
    (if isTerminal (state after) then some (state after) else none, after)

def currentBuild (run : CoordinatorRun) (time : Time) : Option BuildState × CoordinatorRun :=
  run.awaitState time (·.code.states.current) BuildState.isTerminal

def currentMusic (run : CoordinatorRun) (time : Time) : Option MusicState × CoordinatorRun :=
  run.awaitState time (·.music.states.current) MusicState.isTerminal

def awaitStop (run : CoordinatorRun) (time : Time) : Bool × CoordinatorRun :=
  if run.isStopping then (true, run) else (false, run.waitFor time fun _ => false)

def cancel (run : CoordinatorRun) : CoordinatorRun :=
  { run with
    isStopping := true
    code := { run.code with stopRequested := true }
    music := { run.music with stopRequested := true } }

def awaitEnd (run : CoordinatorRun) (hasEnded : CoordinatorRun → Bool) : CoordinatorRun :=
  let after := run.waitFor stopGrace hasEnded
  if hasEnded after then after else { after with log := after.log ++ [stopOverdue] }

def shutdown (run : CoordinatorRun) : CoordinatorRun :=
  let stopped := (run.cancel.awaitEnd (·.code.system.hasStopped)).awaitEnd
    (·.music.system.stage = .stopped)
  { stopped with hasEnded := true }

end CoordinatorRun

end BuildWatch.Simulation
