import BuildWatch.LoopStage
import BuildWatch.Scheduler.Basic

/-!
The build loop together with what it works with: the tasks of its builds, the compilers that were
made for it, the files, and the time. Every action that can happen is a step; which of those that
are possible comes next is left open, so whatever is said of all lists of steps holds for every
order in which things can happen.
-/

namespace BuildWatch

inductive TaskStage where
  | starting
  | loaded (project : Project)
  | prepared (project : Project) (request : Request)
  | compiling (project : Project)
  | finished (result : Except String BuildOutcome)

/-- The task of a build. One that was aborted may still go on for a while. -/
structure BuildTask where
  build : Build
  isCancelled : Bool
  isAborted : Bool
  stage : TaskStage

def BuildTask.start (build : Build) : BuildTask := ⟨build, false, false, .starting⟩

/-- A compiler that was made: whether a round trip is under way, whether it has become unusable,
how often it is still to be closed, and how often it was. -/
structure CompilerInstance where
  isBusy : Bool
  hasFailed : Bool
  pendingCloses : Nat
  closes : Nat
  deriving DecidableEq, Repr

def CompilerInstance.fresh : CompilerInstance := ⟨false, false, 0, 0⟩

/-- The build loop and all it works with; the compilers stand at the places of their numbers. -/
structure BuildSystem where
  now : Time
  tree : FileTree
  scheduler : Scheduler
  tasks : List BuildTask
  compilers : List CompilerInstance
  stage : LoopStage

/-- What can happen. `crash` ends what a build does before it asks the compiler, which the build
itself survives; `die` is the end of the whole build. -/
inductive BuildAction where
  | pass (time : Time)
  | edit (tree : FileTree)
  | change (change : Change)
  | wake
  | finish
  | stop
  | leave
  | load (build : Nat)
  | list (build : Nat)
  | crash (build : Nat) (message : String)
  | ask (build : Nat)
  | answer (build : Nat) (use : ClientUse)
  | die (build : Nat) (message : String)
  | unwind (build : Nat)
  | close (compiler : Nat)

namespace BuildSystem

def create (tree : FileTree) (source : ProjectSource) (debounce : Time) : BuildSystem :=
  ⟨0, tree, .create source debounce, [], [.fresh], .running⟩

def hasStopped (system : BuildSystem) : Bool := system.stage = .stopped

def task? (system : BuildSystem) (build : Nat) : Option BuildTask :=
  system.tasks.find? fun task => task.build.number = build

def mapTask (system : BuildSystem) (build : Nat) (change : BuildTask → BuildTask) : BuildSystem :=
  { system with
    tasks := system.tasks.map fun task =>
      if task.build.number = build then change task else task }

def setStage (system : BuildSystem) (build : Nat) (stage : TaskStage) : BuildSystem :=
  system.mapTask build fun task => { task with stage }

def dropTask (system : BuildSystem) (build : Nat) : BuildSystem :=
  { system with tasks := system.tasks.filter fun task => task.build.number ≠ build }

def mapCompiler (system : BuildSystem) (compiler : Nat)
    (change : CompilerInstance → CompilerInstance) : BuildSystem :=
  { system with compilers := system.compilers.modify compiler change }

def setBusy (system : BuildSystem) (compiler : Nat) (isBusy : Bool) : BuildSystem :=
  system.mapCompiler compiler fun state => { state with isBusy }

def isBusy (system : BuildSystem) (compiler : Nat) : Bool :=
  (system.compilers[compiler]?).any CompilerInstance.isBusy

def release (system : BuildSystem) (task : BuildTask) : BuildSystem :=
  match task.stage with
  | .compiling _ => system.setBusy task.build.compiler false
  | _ => system

def perform (system : BuildSystem) : Effect → BuildSystem
  | .log _ | .publish _ => system
  | .start build => { system with tasks := system.tasks ++ [.start build] }
  | .cancel build => system.mapTask build.number fun task => { task with isCancelled := true }
  | .abort build => system.mapTask build.number fun task => { task with isAborted := true }
  | .make _ => { system with compilers := system.compilers ++ [.fresh] }
  | .close compiler => system.mapCompiler compiler fun state =>
    { state with pendingCloses := state.pendingCloses + 1 }

def adopt (system : BuildSystem) (decided : Scheduler × List Effect) : BuildSystem × List Effect :=
  (decided.2.foldl perform { system with scheduler := decided.1 }, decided.2)

def goOn (system : BuildSystem) (decided : Scheduler × List Effect) : BuildSystem × List Effect :=
  system.adopt (Scheduler.thenLaunch decided)

def begin (system : BuildSystem) : BuildSystem × List Effect :=
  system.goOn (system.scheduler, [])

def settleTask (system : BuildSystem) (build : Nat) (result : Except String BuildOutcome)
    (log : List LogEntry) : BuildSystem × List Effect :=
  (system.setStage build (.finished result), log.map .log)

def fail (system : BuildSystem) (build : Build) (failure : PrepareFailure) :
    BuildSystem × List Effect :=
  system.settleTask build.number (.ok (.ofFailure build.plan failure))
    [BuildOutcome.logError failure.error.chain]

def load (system : BuildSystem) (build : Build) : BuildSystem × List Effect :=
  match build.plan.load system.tree system.scheduler.source with
  | .ok (project, log) => (system.setStage build.number (.loaded project), log.map .log)
  | .error failure => system.fail build failure

def list (system : BuildSystem) (build : Build) (project : Project) :
    BuildSystem × List Effect :=
  match BuildPlan.requestOf system.tree system.scheduler.source project with
  | .ok request => (system.setStage build.number (.prepared project request), [])
  | .error failure => system.fail build failure

def conclude (system : BuildSystem) (build : Build) (project : Project)
    (result : Except CompileError Compiled) (log : List LogEntry) : BuildSystem × List Effect :=
  system.settleTask build.number (.ok (.ofResult build.plan project result))
    (log ++ BuildOutcome.resultLog result)

/-- The task of a build that was not cancelled asks the compiler; it waits while the compiler is
busy. -/
def ask? (system : BuildSystem) (task : BuildTask) (project : Project) :
    Option (BuildSystem × List Effect) :=
  if task.isCancelled then some (system.conclude task.build project (.error .cancelled) [])
  else if system.isBusy task.build.compiler then none
  else some ((system.setBusy task.build.compiler true).setStage task.build.number
    (.compiling project), [])

def answer (system : BuildSystem) (build : Build) (project : Project) (use : ClientUse) :
    BuildSystem × List Effect :=
  let freed := system.setBusy build.compiler false
  match use.result with
  | .compiled result =>
    let marked := freed.mapCompiler build.compiler fun state =>
      { state with hasFailed := state.hasFailed || BuildOutcome.isFatalResult result }
    marked.conclude build project result use.log
  | .crashed message => freed.settleTask build.number (.error message) []
  | .closed => freed.conclude build project (.error .closed) []

def result? (system : BuildSystem) : Option (Build × Except String BuildOutcome) :=
  match system.scheduler.running with
  | none => none
  | some running =>
    match system.task? running.build.number with
    | some ⟨_, _, _, .finished result⟩ => some (running.build, result)
    | _ => none

def loopStep? (system : BuildSystem) : BuildAction → Option (BuildSystem × List Effect)
  | .change change => some (system.goOn (system.scheduler.onChange system.now change))
  | .wake =>
    if system.scheduler.delay.isDue system.now then
      some (system.goOn (system.scheduler.onWake system.now, []))
    else none
  | .finish =>
    match system.result? with
    | some (build, result) =>
      some ((system.dropTask build.number).goOn (system.scheduler.onFinished result))
    | none => none
  | .stop => some ({ system with stage := .stopping }.adopt system.scheduler.stop)
  | _ => none

def taskStep? (system : BuildSystem) (task : BuildTask) :
    BuildAction → Option (BuildSystem × List Effect)
  | .load _ =>
    match task.stage with
    | .starting => some (system.load task.build)
    | _ => none
  | .list _ =>
    match task.stage with
    | .loaded project => some (system.list task.build project)
    | _ => none
  | .crash _ message =>
    match task.stage with
    | .starting | .loaded _ =>
      some (system.settleTask task.build.number (.ok (.ofCrash message)) [])
    | _ => none
  | .ask _ =>
    match task.stage with
    | .prepared project _ => system.ask? task project
    | _ => none
  | .answer _ use =>
    match task.stage with
    | .compiling project => some (system.answer task.build project use)
    | _ => none
  | .die _ message =>
    match task.stage with
    | .finished _ => none
    | _ => some ((system.release task).settleTask task.build.number (.error message) [])
  | .unwind _ =>
    if task.isAborted then some ((system.release task).dropTask task.build.number, []) else none
  | _ => none

def closeStep? (system : BuildSystem) (compiler : Nat) : Option (BuildSystem × List Effect) :=
  match system.compilers[compiler]? with
  | some state =>
    if 0 < state.pendingCloses ∧ state.isBusy = false then
      some (system.mapCompiler compiler fun state =>
        { state with pendingCloses := state.pendingCloses - 1, closes := state.closes + 1 }, [])
    else none
  | none => none

def leave? (system : BuildSystem) : Option (BuildSystem × List Effect) :=
  if system.stage = .stopping ∧ system.tasks.isEmpty = true then
    some ({ system with stage := .stopped }.adopt system.scheduler.leave)
  else none

/-- The system after an action and what was done, or nothing if the action is not possible. -/
def step? (system : BuildSystem) (action : BuildAction) : Option (BuildSystem × List Effect) :=
  match action with
  | .pass time => some ({ system with now := system.now + time }, [])
  | .edit tree => some ({ system with tree }, [])
  | .close compiler => system.closeStep? compiler
  | .leave => system.leave?
  | .load build | .list build | .crash build _ | .ask build | .answer build _ | .die build _
  | .unwind build => (system.task? build).bind (system.taskStep? · action)
  | .change _ | .wake | .finish | .stop =>
    if system.stage = .running then system.loopStep? action else none

end BuildSystem

end BuildWatch
