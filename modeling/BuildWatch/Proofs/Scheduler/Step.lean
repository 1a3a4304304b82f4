import BuildWatch.Scheduler.System
import Mathlib

/-!
What an action can do, said once. A task moves on by itself and leaves the loop alone; the loop
reacts to what it takes in and then starts the build that it wants. Everything that holds of all
runs is read off these two lists of cases.
-/

namespace BuildWatch

namespace BuildAction

def isOfLoop : BuildAction → Bool
  | change _ | wake | finish | stop | leave => true
  | _ => false

def build? : BuildAction → Option Nat
  | load build | list build | crash build _ | ask build | answer build _ | die build _
  | unwind build => some build
  | _ => none

end BuildAction

namespace TaskStage

def isEarly : TaskStage → Bool
  | starting | loaded _ => true
  | _ => false

def isFinished : TaskStage → Bool
  | finished _ => true
  | _ => false

def isCompiling : TaskStage → Bool
  | compiling _ => true
  | _ => false

end TaskStage

namespace BuildSystem

/-- The stage to which an action takes a task, the compilers after it, and what is logged. -/
inductive Progress (system : BuildSystem) (task : BuildTask) :
    BuildAction → TaskStage → List CompilerInstance → List LogEntry → Prop
  | loaded {number project log} : task.stage = .starting →
      task.build.plan.load system.tree system.scheduler.source = .ok (project, log) →
      Progress system task (.load number) (.loaded project) system.compilers log
  | notLoaded {number failure} : task.stage = .starting →
      task.build.plan.load system.tree system.scheduler.source = .error failure →
      Progress system task (.load number) (.finished (.ok (.ofFailure task.build.plan failure)))
        system.compilers [BuildOutcome.logError failure.error.chain]
  | listed {number project request} : task.stage = .loaded project →
      BuildPlan.requestOf system.tree system.scheduler.source project = .ok request →
      Progress system task (.list number) (.prepared project request) system.compilers []
  | notListed {number project failure} : task.stage = .loaded project →
      BuildPlan.requestOf system.tree system.scheduler.source project = .error failure →
      Progress system task (.list number) (.finished (.ok (.ofFailure task.build.plan failure)))
        system.compilers [BuildOutcome.logError failure.error.chain]
  | crashed {number message} : task.stage.isEarly = true →
      Progress system task (.crash number message) (.finished (.ok (.ofCrash message)))
        system.compilers []
  | refused {number project request} : task.stage = .prepared project request →
      task.isCancelled = true →
      Progress system task (.ask number)
        (.finished (.ok (.ofResult task.build.plan project (.error .cancelled))))
        system.compilers (BuildOutcome.resultLog (.error .cancelled))
  | asked {number project request} : task.stage = .prepared project request →
      task.isCancelled = false → system.isBusy task.build.compiler = false →
      Progress system task (.ask number) (.compiling project)
        (system.setBusy task.build.compiler true).compilers []
  | answered {number use project result} : task.stage = .compiling project →
      use.result = .compiled result →
      Progress system task (.answer number use)
        (.finished (.ok (.ofResult task.build.plan project result)))
        ((system.setBusy task.build.compiler false).mapCompiler task.build.compiler fun state =>
          { state with
            hasFailed := state.hasFailed || BuildOutcome.isFatalResult result }).compilers
        (use.log ++ BuildOutcome.resultLog result)
  | closed {number use project} : task.stage = .compiling project → use.result = .closed →
      Progress system task (.answer number use)
        (.finished (.ok (.ofResult task.build.plan project (.error .closed))))
        (system.setBusy task.build.compiler false).compilers
        (BuildOutcome.resultLog (.error .closed))
  | broken {number use project message} : task.stage = .compiling project →
      use.result = .crashed message →
      Progress system task (.answer number use) (.finished (.error message))
        (system.setBusy task.build.compiler false).compilers []
  | died {number message} : task.stage.isFinished = false →
      Progress system task (.die number message) (.finished (.error message))
        (system.release task).compilers []

variable {system : BuildSystem} {task : BuildTask} {moved : BuildSystem × List Effect}
  {action : BuildAction}

def advanced (system : BuildSystem) (task : BuildTask) (stage : TaskStage)
    (compilers : List CompilerInstance) : BuildSystem :=
  { system.setStage task.build.number stage with compilers }

theorem release_eq (system : BuildSystem) (task : BuildTask) :
    system.release task = { system with compilers := (system.release task).compilers } := by
  unfold release
  split <;> rfl

theorem load_progress (number : Nat) (starting : task.stage = .starting) :
    ∃ stage compilers log, Progress system task (.load number) stage compilers log ∧
      system.load task.build = (system.advanced task stage compilers, log.map .log) := by
  unfold load
  split
  · exact ⟨_, _, _, .loaded starting ‹_›, rfl⟩
  · exact ⟨_, _, _, .notLoaded starting ‹_›, rfl⟩

theorem list_progress {project : Project} (number : Nat)
    (loaded : task.stage = .loaded project) :
    ∃ stage compilers log, Progress system task (.list number) stage compilers log ∧
      system.list task.build project =
        (system.advanced task stage compilers, log.map .log) := by
  unfold list
  split
  · exact ⟨_, _, _, .listed loaded ‹_›, rfl⟩
  · exact ⟨_, _, _, .notListed loaded ‹_›, rfl⟩

theorem ask?_progress {project : Project} {request : Request} (number : Nat)
    (prepared : task.stage = .prepared project request)
    (possible : system.ask? task project = some moved) :
    ∃ stage compilers log, Progress system task (.ask number) stage compilers log ∧
      moved = (system.advanced task stage compilers, log.map .log) := by
  unfold ask? at possible
  split at possible
  · obtain rfl := Option.some.inj possible
    exact ⟨_, _, _, .refused prepared ‹_›, rfl⟩
  · split at possible
    · simp at possible
    · obtain rfl := Option.some.inj possible
      rename_i live free
      exact ⟨_, _, _, .asked prepared (by simpa using live) (by simpa using free), rfl⟩

theorem answer_progress {project : Project} (number : Nat) (use : ClientUse)
    (compiling : task.stage = .compiling project) :
    ∃ stage compilers log, Progress system task (.answer number use) stage compilers log ∧
      system.answer task.build project use =
        (system.advanced task stage compilers, log.map .log) := by
  unfold answer
  cases outcome : use.result with
  | compiled result => exact ⟨_, _, _, .answered compiling outcome, rfl⟩
  | closed => exact ⟨_, _, _, .closed compiling outcome, rfl⟩
  | crashed message => exact ⟨_, _, _, .broken compiling outcome, rfl⟩

theorem die_progress (number : Nat) (message : String) (alive : task.stage.isFinished = false) :
    ∃ stage compilers log, Progress system task (.die number message) stage compilers log ∧
      (system.release task).settleTask task.build.number (.error message) [] =
        (system.advanced task stage compilers, log.map .log) := by
  refine ⟨_, _, _, .died alive, ?_⟩
  rw [release_eq]
  rfl

theorem taskStep?_cases (possible : system.taskStep? task action = some moved) :
    (∃ stage compilers log, Progress system task action stage compilers log ∧
      moved = (system.advanced task stage compilers, log.map .log)) ∨
    (∃ number, action = .unwind number ∧ task.isAborted = true ∧
      moved = ((system.release task).dropTask task.build.number, [])) := by
  cases action with
  | load number =>
      cases stage : task.stage <;>
        simp only [taskStep?, stage, reduceCtorEq, Option.some.injEq] at possible
      rw [← possible]
      exact .inl (load_progress number stage)
  | list number =>
      cases stage : task.stage <;>
        simp only [taskStep?, stage, reduceCtorEq, Option.some.injEq] at possible
      rw [← possible]
      exact .inl (list_progress number stage)
  | crash number message =>
      cases stage : task.stage <;>
        simp only [taskStep?, stage, reduceCtorEq, Option.some.injEq] at possible
      all_goals
        rw [← possible]
        exact .inl ⟨_, _, _, .crashed (by rw [stage]; rfl), rfl⟩
  | ask number =>
      cases stage : task.stage <;> simp only [taskStep?, stage, reduceCtorEq] at possible
      exact .inl (ask?_progress number stage possible)
  | answer number use =>
      cases stage : task.stage <;>
        simp only [taskStep?, stage, reduceCtorEq, Option.some.injEq] at possible
      rw [← possible]
      exact .inl (answer_progress number use stage)
  | die number message =>
      cases stage : task.stage <;>
        simp only [taskStep?, stage, reduceCtorEq, Option.some.injEq] at possible
      all_goals
        rw [← possible]
        exact .inl (die_progress number message (by rw [stage]; rfl))
  | unwind number =>
      simp only [taskStep?] at possible
      split at possible
      · exact .inr ⟨number, rfl, ‹_›, (Option.some.inj possible).symm⟩
      · simp at possible
  | _ => simp [taskStep?] at possible

theorem finished_of_result? {build : Build} {result : Except String BuildOutcome}
    (ended : system.result? = some (build, result)) :
    ∃ running task, system.scheduler.running = some running ∧ running.build = build ∧
      system.task? build.number = some task ∧ task.stage = .finished result := by
  unfold result? at ended
  split at ended
  · simp at ended
  · rename_i running waiting
    split at ended
    · rename_i found
      obtain ⟨rfl, rfl⟩ := Prod.mk.inj (Option.some.inj ended)
      exact ⟨running, _, waiting, rfl, found, rfl⟩
    · simp at ended

inductive Happens (system : BuildSystem) : BuildAction → BuildSystem × List Effect → Prop
  | passed {time} : Happens system (.pass time) ({ system with now := system.now + time }, [])
  | edited {tree} : Happens system (.edit tree) ({ system with tree }, [])
  | closed {compiler state} : system.compilers[compiler]? = some state →
      0 < state.pendingCloses → state.isBusy = false →
      Happens system (.close compiler) (system.mapCompiler compiler fun state =>
        { state with pendingCloses := state.pendingCloses - 1, closes := state.closes + 1 }, [])
  | progressed {action number task stage compilers log} : action.build? = some number →
      system.task? number = some task →
      Progress system task action stage compilers log →
      Happens system action (system.advanced task stage compilers, log.map .log)
  | unwound {number task} : system.task? number = some task → task.isAborted = true →
      Happens system (.unwind number) ((system.release task).dropTask task.build.number, [])
  | changed {change} : system.stage = .running →
      Happens system (.change change) (system.goOn (system.scheduler.onChange system.now change))
  | woken : system.stage = .running → system.scheduler.delay.isDue system.now = true →
      Happens system .wake (system.goOn (system.scheduler.onWake system.now, []))
  | finished {build result} : system.stage = .running → system.result? = some (build, result) →
      Happens system .finish
        ((system.dropTask build.number).goOn (system.scheduler.onFinished result))
  | stopped : system.stage = .running →
      Happens system .stop ({ system with stage := .stopping }.adopt system.scheduler.stop)
  | left : system.stage = .stopping → system.tasks = [] →
      Happens system .leave ({ system with stage := .stopped }.adopt system.scheduler.leave)

theorem happens_of_taskStep? {number : Nat} (acting : action.build? = some number)
    (possible : (system.task? number).bind (system.taskStep? · action) = some moved) :
    Happens system action moved := by
  obtain ⟨task, found, possible⟩ := Option.bind_eq_some_iff.mp possible
  rcases taskStep?_cases possible with ⟨_, _, _, progress, rfl⟩ | ⟨_, rfl, aborted, rfl⟩
  · exact .progressed acting found progress
  · obtain rfl := Option.some.inj acting
    exact .unwound found aborted

theorem happens_of_loopStep? (running : system.stage = .running)
    (possible : system.loopStep? action = some moved) : Happens system action moved := by
  cases action with
  | change change =>
      obtain rfl := Option.some.inj possible
      exact .changed running
  | wake =>
      simp only [loopStep?, Option.ite_none_right_eq_some] at possible
      obtain ⟨due, same⟩ := possible
      obtain rfl := Option.some.inj same
      exact .woken running due
  | finish =>
      simp only [loopStep?] at possible
      split at possible
      · obtain rfl := Option.some.inj possible
        exact .finished running ‹_›
      · simp at possible
  | stop =>
      obtain rfl := Option.some.inj possible
      exact .stopped running
  | _ => simp [loopStep?] at possible

theorem happens_of_step? (possible : system.step? action = some moved) :
    Happens system action moved := by
  cases action with
  | pass time =>
      obtain rfl := Option.some.inj possible
      exact .passed
  | edit tree =>
      obtain rfl := Option.some.inj possible
      exact .edited
  | close compiler =>
      simp only [step?, closeStep?] at possible
      split at possible
      · split at possible
        · obtain rfl := Option.some.inj possible
          rename_i found idle
          exact .closed found idle.1 idle.2
        · simp at possible
      · simp at possible
  | leave =>
      simp only [step?, leave?, Option.ite_none_right_eq_some] at possible
      obtain ⟨⟨stopping, gone⟩, same⟩ := possible
      obtain rfl := Option.some.inj same
      exact .left stopping (List.isEmpty_iff.mp gone)
  | load _ | list _ | crash _ _ | ask _ | answer _ _ | die _ _ | unwind _ =>
      exact happens_of_taskStep? rfl possible
  | change _ | wake | finish | stop =>
      simp only [step?, Option.ite_none_right_eq_some] at possible
      exact happens_of_loopStep? possible.1 possible.2

end BuildSystem

end BuildWatch
