import BuildWatch.Proofs.Scheduler.Decision
import BuildWatch.Proofs.Scheduler.Step

/-!
What a turn does to the state of the build loop. Tasks, compilers, time and files leave that state
alone; a change, a wake of the timer or the end of a build changes it, and then the build that is
wanted is started.
-/

namespace BuildWatch

namespace BuildSystem

theorem perform_scheduler (system : BuildSystem) (effect : Effect) :
    (system.perform effect).scheduler = system.scheduler := by
  cases effect <;> rfl

theorem perform_stage (system : BuildSystem) (effect : Effect) :
    (system.perform effect).stage = system.stage := by
  cases effect <;> rfl

theorem foldl_perform_scheduler (effects : List Effect) (system : BuildSystem) :
    (effects.foldl perform system).scheduler = system.scheduler := by
  induction effects generalizing system with
  | nil => rfl
  | cons effect rest ih => rw [List.foldl_cons, ih, perform_scheduler]

theorem foldl_perform_stage (effects : List Effect) (system : BuildSystem) :
    (effects.foldl perform system).stage = system.stage := by
  induction effects generalizing system with
  | nil => rfl
  | cons effect rest ih => rw [List.foldl_cons, ih, perform_stage]

theorem foldl_perform_of_scheduler (effects : List Effect) (system : BuildSystem)
    (scheduler : Scheduler) :
    effects.foldl perform { system with scheduler } =
      { effects.foldl perform system with scheduler } := by
  induction effects generalizing system with
  | nil => rfl
  | cons effect rest ih =>
      have same : perform { system with scheduler } effect =
          { system.perform effect with scheduler } := by
        cases effect <;> rfl
      rw [List.foldl_cons, same, ih, List.foldl_cons]

@[simp] theorem adopt_scheduler (system : BuildSystem) (decided : Scheduler × List Effect) :
    (system.adopt decided).1.scheduler = decided.1 :=
  foldl_perform_scheduler ..

@[simp] theorem adopt_stage (system : BuildSystem) (decided : Scheduler × List Effect) :
    (system.adopt decided).1.stage = system.stage :=
  foldl_perform_stage ..

theorem goOn_fst (system : BuildSystem) (decided : Scheduler × List Effect) :
    (system.goOn decided).1 = ((system.adopt decided).1.adopt decided.1.launch).1 := by
  simp only [goOn, adopt, Scheduler.thenLaunch, List.foldl_append, foldl_perform_of_scheduler]

@[simp] theorem begin_scheduler (origin : BuildSystem) :
    origin.begin.1.scheduler = origin.scheduler.launch.1 :=
  adopt_scheduler ..

@[simp] theorem begin_stage (origin : BuildSystem) : origin.begin.1.stage = origin.stage :=
  adopt_stage ..

@[simp] theorem opening_started (origin : BuildSystem) :
    origin.opening.started = origin.scheduler.launch.2.filterMap Effect.started? := rfl

@[simp] theorem opening_published (origin : BuildSystem) : origin.opening.published = [] :=
  Scheduler.launch_published origin.scheduler

@[simp] theorem release_scheduler (system : BuildSystem) (task : BuildTask) :
    (system.release task).scheduler = system.scheduler := by
  rw [release_eq]

@[simp] theorem release_stage (system : BuildSystem) (task : BuildTask) :
    (system.release task).stage = system.stage := by
  rw [release_eq]

inductive Reaction (system : BuildSystem) :
    BuildAction → LoopStage → Scheduler × List Effect → Prop
  | quiet {action} {log : List LogEntry} : action.isOfLoop = false →
      Reaction system action system.stage (system.scheduler, log.map .log)
  | changed {change} : system.stage = .running →
      Reaction system (.change change) .running
        (Scheduler.thenLaunch (system.scheduler.onChange system.now change))
  | woken : system.stage = .running → system.scheduler.delay.isDue system.now = true →
      Reaction system .wake .running
        (Scheduler.thenLaunch (system.scheduler.onWake system.now, []))
  | finished {build result} : system.stage = .running → system.result? = some (build, result) →
      Reaction system .finish .running
        (Scheduler.thenLaunch (system.scheduler.onFinished result))
  | stopped : system.stage = .running → Reaction system .stop .stopping system.scheduler.stop
  | left : system.stage = .stopping → Reaction system .leave .stopped system.scheduler.leave

variable {system : BuildSystem} {moved : BuildSystem × List Effect} {action : BuildAction}

theorem Reaction.still (aside : action.isOfLoop = false) :
    Reaction system action system.stage (system.scheduler, []) :=
  @Reaction.quiet system action [] aside

theorem Progress.isOfLoop {task : BuildTask} {stage : TaskStage}
    {compilers : List CompilerInstance} {log : List LogEntry}
    (progress : Progress system task action stage compilers log) : action.isOfLoop = false := by
  cases progress <;> rfl

theorem reaction_of_step? (possible : system.step? action = some moved) :
    ∃ stage decided, Reaction system action stage decided ∧ moved.1.stage = stage ∧
      moved.1.scheduler = decided.1 ∧ moved.2 = decided.2 := by
  cases happens_of_step? possible with
  | passed | edited | closed => exact ⟨_, _, .still rfl, rfl, rfl, rfl⟩
  | progressed _ _ progress => exact ⟨_, _, .quiet progress.isOfLoop, rfl, rfl, rfl⟩
  | unwound => exact ⟨_, _, .still rfl, release_stage .., release_scheduler .., rfl⟩
  | changed running =>
      exact ⟨_, _, .changed running, by rw [goOn, adopt_stage, running], adopt_scheduler .., rfl⟩
  | woken running due =>
      exact ⟨_, _, .woken running due, by rw [goOn, adopt_stage, running], adopt_scheduler ..,
        rfl⟩
  | finished running ended =>
      refine ⟨_, _, .finished running ended, ?_, adopt_scheduler .., rfl⟩
      rw [goOn, adopt_stage]
      exact running
  | stopped running => exact ⟨_, _, .stopped running, adopt_stage .., adopt_scheduler .., rfl⟩
  | left stopping => exact ⟨_, _, .left stopping, adopt_stage .., adopt_scheduler .., rfl⟩

theorem running_of_step? (possible : system.step? action = some moved)
    (running : moved.1.stage = .running) : system.stage = .running := by
  obtain ⟨stage, decided, reaction, after, -, -⟩ := reaction_of_step? possible
  cases reaction with
  | quiet => exact after.symm.trans running
  | changed loops | woken loops | finished loops => exact loops
  | stopped | left => simp [after] at running

end BuildSystem

theorem Turn.isConfigChange_of_aside {action : BuildAction} (aside : action.isOfLoop = false)
    (before : BuildSystem) (effects : List Effect) (after : BuildSystem) :
    Turn.isConfigChange ⟨before, some action, effects, after⟩ = false := by
  cases action <;> first | rfl | simp [BuildAction.isOfLoop] at aside

theorem Turn.ended?_of_aside {action : BuildAction} (aside : action.isOfLoop = false)
    (before : BuildSystem) (effects : List Effect) (after : BuildSystem) :
    Turn.ended? ⟨before, some action, effects, after⟩ = none := by
  cases action <;> first | rfl | simp [BuildAction.isOfLoop] at aside

end BuildWatch
