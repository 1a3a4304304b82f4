import BuildWatch.Broadcast.Basic
import BuildWatch.Scheduler.System
import BuildWatch.Simulation.Compiler
import BuildWatch.Simulation.Inbox

/-!
The build loop with a scripted compiler on a clock that jumps from one due time to the next. Of
the actions that are possible at one time, a request to stop comes first, then the changes that
wait, the timer, the end of a build, and last what builds and compilers do by themselves.
-/

namespace BuildWatch.Simulation

structure PendingAnswer where
  time : Time
  build : Nat
  use : ClientUse

structure SchedulerRun where
  system : BuildSystem
  inbox : Inbox
  compiler : ScriptedCompiler
  due : Option PendingAnswer
  states : Broadcaster BuildState
  stopRequested : Bool
  published : List BuildState
  log : List LogEntry

namespace SchedulerRun

def create (system : BuildSystem) (inbox : Inbox) (compiler : ScriptedCompiler)
    (capacity : Nat) : SchedulerRun :=
  ⟨system, inbox, compiler.make, none, .create .loading capacity, false, [], []⟩

def clear (run : SchedulerRun) : SchedulerRun :=
  { run with compiler := { run.compiler with calls := [] }, published := [], log := [] }

def taskAction? (run : SchedulerRun) (task : BuildTask) : Option BuildAction :=
  if task.isAborted then some (.unwind task.build.number)
  else match task.stage with
  | .starting => some (.load task.build.number)
  | .loaded _ => some (.list task.build.number)
  | .prepared _ _ => some (.ask task.build.number)
  | .compiling _ =>
    match run.due with
    | some due =>
      if due.build = task.build.number ∧ due.time ≤ run.system.now then
        some (.answer due.build due.use)
      else none
    | none => none
  | .finished _ => none

def closeAction? (run : SchedulerRun) : Option BuildAction :=
  (run.system.compilers.findIdx? fun state => 0 < state.pendingCloses).map .close

def backgroundAction? (run : SchedulerRun) : Option BuildAction :=
  (run.system.tasks.findSome? run.taskAction?).or run.closeAction?

def isFinished (task : BuildTask) : Bool :=
  match task.stage with
  | .finished _ => true
  | _ => false

def next? (run : SchedulerRun) : Option BuildAction :=
  if run.system.hasStopped then run.backgroundAction?
  else if run.system.stage = .stopping then
    some ((run.system.tasks.findSome? run.taskAction?).getD .leave)
  else if run.stopRequested then some .stop
  else match run.inbox.items with
  | change :: _ => some (.change change)
  | [] =>
    if run.inbox.isOver then some .stop
    else if run.system.scheduler.delay.isDue run.system.now then some .wake
    else if run.system.tasks.any isFinished then some .finish
    else run.backgroundAction?

def record (run : SchedulerRun) : Effect → SchedulerRun
  | .log entry => { run with log := run.log ++ [entry] }
  | .publish state =>
    { run with
      states := run.states.publish state
      published := run.published ++ [state]
      log := run.log ++ run.states.publishLog state }
  | .make _ => { run with compiler := run.compiler.make }
  | .start _ | .cancel _ | .abort _ | .close _ => run

def ask (run : SchedulerRun) (build : Nat) (request : Request) : SchedulerRun :=
  let (compiler, use, duration) := run.compiler.ask run.system.now request
  { run with compiler, due := some ⟨run.system.now + duration, build, use⟩ }

def request? (run : SchedulerRun) (build : Nat) : Option Request :=
  (run.system.task? build).bind fun task =>
    match task.stage with
    | .prepared _ request => if task.isCancelled then none else some request
    | _ => none

def account (run : SchedulerRun) : BuildAction → SchedulerRun
  | .change _ => { run with inbox := run.inbox.pop }
  | .ask build =>
    match run.request? build with
    | some request => run.ask build request
    | none => run
  | .answer _ _ => { run with compiler := run.compiler.leave, due := none }
  | .unwind _ =>
    if run.due.isSome then { run with compiler := run.compiler.leave, due := none } else run
  | .close _ => { run with compiler := run.compiler.close }
  | _ => run

def adopt (run : SchedulerRun) (moved : BuildSystem × List Effect) : SchedulerRun :=
  moved.2.foldl record { run with system := moved.1 }

def take (run : SchedulerRun) (action : BuildAction) : SchedulerRun :=
  match run.system.step? action with
  | some moved => (run.account action).adopt moved
  | none => run

def settleWithin : Nat → SchedulerRun → SchedulerRun
  | 0, run => run
  | fuel + 1, run =>
    match run.next? with
    | some action => settleWithin fuel (run.take action)
    | none => run

/-- Lets everything happen that is due. A change causes at most two wakes and one build, and a
build takes at most six actions. -/
def settle (run : SchedulerRun) : SchedulerRun :=
  settleWithin (16 * (run.inbox.items.length + 4)) run

def start (run : SchedulerRun) : SchedulerRun :=
  (run.adopt run.system.begin).settle

def nextTime? (run : SchedulerRun) : Option Time :=
  let answer := run.due.map PendingAnswer.time
  let wake :=
    if run.system.hasStopped then none else run.system.scheduler.delay.nextWake run.system.now
  match answer, wake with
  | some answer, some wake => some (min answer wake)
  | some answer, none => some answer
  | none, wake => wake

def passTo (run : SchedulerRun) (time : Time) : SchedulerRun :=
  run.take (.pass (time - run.system.now))

def advanceWithin (limit : Time) : Nat → SchedulerRun → SchedulerRun
  | 0, run => run.passTo limit
  | fuel + 1, run =>
    match run.nextTime? with
    | some time =>
      if time ≤ limit then advanceWithin limit fuel (run.passTo time).settle
      else run.passTo limit
    | none => run.passTo limit

/-- Lets time pass. Without changes the timer wakes at most twice, and the build that runs is
followed by at most two more. -/
def advance (run : SchedulerRun) (time : Time) : SchedulerRun :=
  advanceWithin (run.system.now + min time longestWait) 8 run

def edit (run : SchedulerRun) (change : FileTree → FileTree) : SchedulerRun :=
  run.take (.edit (change run.system.tree))

def send (run : SchedulerRun) (changes : List Change) : List Sent × SchedulerRun :=
  let (sent, inbox) := run.inbox.sendAll (!run.system.hasStopped) changes
  (sent, { run with inbox })

end SchedulerRun

end BuildWatch.Simulation
