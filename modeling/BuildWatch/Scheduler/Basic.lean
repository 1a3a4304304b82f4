import BuildWatch.Change
import BuildWatch.Debounce
import BuildWatch.Scheduler.Build

/-!
The loop that builds the code. It reacts to changes, to its timer and to the end of the build that
it runs, of which there is at most one. A change of the project file cancels that build and shows
at once that something new is coming; other changes only ask the timer again. The state of a build
is published unless the build was cancelled, so nobody sees an older state after a newer one.
-/

namespace BuildWatch

/-- A build by its number, the compiler it uses, and its project. -/
structure Build where
  number : Nat
  compiler : Nat
  plan : BuildPlan
  deriving DecidableEq

/-- The build that the loop waits for. -/
structure RunningBuild where
  build : Build
  isCancelled : Bool
  deriving DecidableEq

def RunningBuild.cancel (running : RunningBuild) : RunningBuild :=
  { running with isCancelled := true }

/-- A coarse view of the loop, for the log. -/
inductive Phase where
  | idle
  | awaitingDebounce
  | building
  | cancelRequested
  deriving DecidableEq, Repr

def Phase.label : Phase → String
  | idle => "Idle"
  | awaitingDebounce => "AwaitingDebounce"
  | building => "Building"
  | cancelRequested => "CancelRequested"

/-- The state of the loop. `project` is the last one that was loaded and `reloadPending` says that
the project file has to be read again before the next build. -/
structure Scheduler where
  source : ProjectSource
  debounce : Time
  delay : Delay
  project : Option Project
  reloadPending : Bool
  wantsBuild : Bool
  running : Option RunningBuild
  compiler : Nat
  builds : Nat
  sourceDir : Option Path

inductive Effect where
  | log (entry : LogEntry)
  | publish (state : BuildState)
  | start (build : Build)
  | cancel (build : Build)
  | abort (build : Build)
  | make (compiler : Nat)
  | close (compiler : Nat)

namespace Scheduler

def debug (message : String) : Effect := .log (.debug "build" message)

def create (source : ProjectSource) (debounce : Time) : Scheduler where
  source := source
  debounce := debounce
  delay := .idle
  project := none
  reloadPending := true
  wantsBuild := true
  running := none
  compiler := 0
  builds := 0
  sourceDir := none

def phase (scheduler : Scheduler) : Phase :=
  match scheduler.running with
  | some running => if running.isCancelled then .cancelRequested else .building
  | none =>
    if scheduler.wantsBuild || scheduler.delay.armed then .awaitingDebounce else .idle

/-- Has the loop a project, or will it read one? After a project file that could not be loaded only
a change of that file helps. -/
def canBuild (scheduler : Scheduler) : Bool :=
  scheduler.project.isSome || scheduler.reloadPending

def plan? (scheduler : Scheduler) : Option BuildPlan :=
  if scheduler.reloadPending then some .reload else scheduler.project.map .reuse

def startNotice (plan : BuildPlan) : Effect :=
  debug ("starting build" ++ if plan.isReload then " (reloading config)" else "")

/-- Starts the build that is wanted, once no other runs. -/
def launch (scheduler : Scheduler) : Scheduler × List Effect :=
  if scheduler.wantsBuild && scheduler.running.isNone then
    match scheduler.plan? with
    | none => ({ scheduler with wantsBuild := false }, [debug "no project loaded, skipping build"])
    | some plan =>
      let build : Build := ⟨scheduler.builds, scheduler.compiler, plan⟩
      ({ scheduler with
          wantsBuild := false
          reloadPending := false
          running := some ⟨build, false⟩
          builds := scheduler.builds + 1 },
        [startNotice plan, .start build])
  else (scheduler, [])

/-- A decision of the loop, and the start of the build that is wanted after it. -/
def thenLaunch (decided : Scheduler × List Effect) : Scheduler × List Effect :=
  let launched := decided.1.launch
  (launched.1, decided.2 ++ launched.2)

def rearm (scheduler : Scheduler) (now : Time) : Scheduler :=
  { scheduler with delay := scheduler.delay.trigger now scheduler.debounce }

def cancelRunning (scheduler : Scheduler) : List Effect :=
  match scheduler.running with
  | some running => [.cancel running.build, debug "cancelled running build"]
  | none => []

def changeNotice (scheduler : Scheduler) (change : Change) : Effect :=
  debug (change.label ++ " changed (" ++ scheduler.phase.label ++ ")")

def onConfigChange (scheduler : Scheduler) (now : Time) : Scheduler × List Effect :=
  let pending := { scheduler with
    running := scheduler.running.map RunningBuild.cancel
    wantsBuild := false
    reloadPending := true }
  (pending.rearm now, scheduler.cancelRunning ++ [.publish .loading])

def onChange (scheduler : Scheduler) (now : Time) (change : Change) :
    Scheduler × List Effect :=
  let (after, effects) := match change with
    | .config => scheduler.onConfigChange now
    | .source | .music => (if scheduler.canBuild then scheduler.rearm now else scheduler, [])
  (after, scheduler.changeNotice change :: effects)

def onWake (scheduler : Scheduler) (now : Time) : Scheduler :=
  if scheduler.canBuild then
    let (delay, isAccepted) := scheduler.delay.onWake now
    { scheduler with delay, wantsBuild := scheduler.wantsBuild || isAccepted }
  else { scheduler with delay := scheduler.delay.woken }

def replaceCompiler (scheduler : Scheduler) : Scheduler × List Effect :=
  ({ scheduler with compiler := scheduler.compiler + 1 },
    [debug "recreating compiler", .make (scheduler.compiler + 1), .close scheduler.compiler])

def adopt (scheduler : Scheduler) : Option (Option Project) → Scheduler
  | none => scheduler
  | some project =>
    { scheduler with
      project
      sourceDir := project.map fun project => Path.ofText project.config.sourceDir }

/-- The end of a build that came to an outcome. A compiler that cannot be used is replaced even if
nobody waits for the build any more. -/
def onOutcome (scheduler : Scheduler) (isStale : Bool) (outcome : BuildOutcome) :
    Scheduler × List Effect :=
  let (after, effects) := if outcome.isFatal then scheduler.replaceCompiler else (scheduler, [])
  if isStale then
    (after, effects ++ [debug ("discarding stale result (" ++ outcome.state.label ++ ")")])
  else
    (after.adopt outcome.reloaded,
      effects ++ [debug ("build " ++ outcome.state.label), .publish outcome.state])

def onCrash (isStale : Bool) (message : String) : List Effect :=
  .log (BuildOutcome.logError (BuildOutcome.crashMessage message)) ::
    if isStale then [] else [.publish (.plainFailure (BuildOutcome.crashMessage message) none)]

def onFinished (scheduler : Scheduler) (result : Except String BuildOutcome) :
    Scheduler × List Effect :=
  let isStale := scheduler.running.any RunningBuild.isCancelled
  let rest := { scheduler with running := none }
  match result with
  | .ok outcome => rest.onOutcome isStale outcome
  | .error message => (rest, onCrash isStale message)

def stop (scheduler : Scheduler) : Scheduler × List Effect :=
  ({ scheduler with running := scheduler.running.map RunningBuild.cancel },
    match scheduler.running with
    | some running => [.cancel running.build, .abort running.build]
    | none => [])

def leave (scheduler : Scheduler) : Scheduler × List Effect :=
  ({ scheduler with running := none },
    (if scheduler.running.isSome then [debug "aborted running build"] else []) ++
      [.close scheduler.compiler, debug "stopped"])

end Scheduler

end BuildWatch
