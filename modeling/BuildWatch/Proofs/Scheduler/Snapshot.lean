import BuildWatch.Proofs.Scheduler.Fresh
import BuildWatch.Proofs.Scheduler.History
import BuildWatch.Proofs.Scheduler.Task

/-!
Where the project of a build comes from. A build that reads the project file again works with what
it read, any other with the project that it was started with. A build whose task or preparation
dies brings nothing back, whatever it has read.
-/

namespace BuildWatch

namespace Turn

def actor? (turn : Turn) : Option BuildTask := turn.action.bind turn.before.actor?

/-- The build that read the project file again and what it read: nothing if the file could not be
loaded. -/
def reading? (turn : Turn) : Option (Build × Option Project) :=
  match turn.action, turn.actor? with
  | some (.load _), some task =>
    let source := turn.before.scheduler.source
    if task.build.plan.isReload then
      some (task.build,
        (Project.load turn.before.tree source.baseDir source.configName).toOption.map Prod.fst)
    else none
  | _, _ => none

/-- The build whose task or preparation died. -/
def killed? (turn : Turn) : Option Build :=
  match turn.action, turn.actor? with
  | some (.crash ..), some task | some (.die ..), some task
  | some (.answer _ (.crashed _)), some task => some task.build
  | _, _ => none

/-- The build that asked the compiler, with its project and its request. -/
def asked? (turn : Turn) : Option (Build × Project × Request) :=
  match turn.action, turn.actor? with
  | some (.ask _), some ⟨build, false, _, .prepared project request⟩ =>
    some (build, project, request)
  | _, _ => none

end Turn

def WasRead (turns : List Turn) (build : Build) (project : Option Project) : Prop :=
  ∃ turn ∈ turns, turn.reading? = some (build, project)

def WasKilled (turns : List Turn) (build : Build) : Prop :=
  ∃ turn ∈ turns, turn.killed? = some build

def WasRequested (turns : List Turn) (project : Project) (request : Request) : Prop :=
  ∃ turn ∈ turns,
    BuildPlan.requestOf turn.before.tree turn.before.scheduler.source project = .ok request

def Takes (turns : List Turn) (build : Build) (project : Project) : Prop :=
  match build.plan with
  | .reuse kept => project = kept
  | .reload => WasRead turns build (some project)

def Brings (turns : List Turn) (build : Build) (result : Except String BuildOutcome) : Prop :=
  match Scheduler.reloadedAtEnd result with
  | none => build.plan.isReload = true → WasKilled turns build
  | some project =>
    build.plan = .reload ∧ ¬WasKilled turns build ∧ WasRead turns build project

def TaskStage.project? : TaskStage → Option Project
  | loaded project | prepared project _ | compiling project => some project
  | starting | finished _ => none

/-- What a task works with and comes to is what its build read. -/
structure Sourced (turns : List Turn) (task : BuildTask) : Prop where
  alive : task.stage.isFinished = false → ¬WasKilled turns task.build
  takes : ∀ project, task.stage.project? = some project → Takes turns task.build project
  requests : ∀ project request, task.stage = .prepared project request →
    WasRequested turns project request
  brings : ∀ result, task.stage = .finished result → Brings turns task.build result

section Later

variable {turns : List Turn} {turn : Turn} {build : Build}

theorem WasRead.mono {more : List Turn} {project : Option Project}
    (read : WasRead turns build project) (fewer : turns ⊆ more) : WasRead more build project := by
  obtain ⟨earlier, member, same⟩ := read
  exact ⟨earlier, fewer member, same⟩

theorem WasKilled.mono {more : List Turn} (killed : WasKilled turns build)
    (fewer : turns ⊆ more) : WasKilled more build := by
  obtain ⟨earlier, member, same⟩ := killed
  exact ⟨earlier, fewer member, same⟩

theorem WasRequested.mono {more : List Turn} {project : Project} {request : Request}
    (requested : WasRequested turns project request) (fewer : turns ⊆ more) :
    WasRequested more project request := by
  obtain ⟨earlier, member, same⟩ := requested
  exact ⟨earlier, fewer member, same⟩

theorem wasKilled_append_singleton :
    WasKilled (turns ++ [turn]) build ↔ WasKilled turns build ∨ turn.killed? = some build := by
  simp [WasKilled, or_and_right, exists_or]

theorem Takes.later {project : Project} (takes : Takes turns build project) (turn : Turn) :
    Takes (turns ++ [turn]) build project := by
  unfold Takes at takes ⊢
  cases plan : build.plan with
  | reuse kept =>
      rw [plan] at takes
      exact takes
  | reload =>
      rw [plan] at takes
      exact takes.mono (List.subset_append_left ..)

theorem Brings.later {result : Except String BuildOutcome} (brings : Brings turns build result)
    (still : turn.killed? ≠ some build) : Brings (turns ++ [turn]) build result := by
  unfold Brings at brings ⊢
  split at brings
  · exact fun reload => (brings reload).mono (List.subset_append_left ..)
  · obtain ⟨reload, alive, read⟩ := brings
    refine ⟨reload, fun killed => ?_, read.mono (List.subset_append_left ..)⟩
    rcases wasKilled_append_singleton.mp killed with earlier | now
    · exact alive earlier
    · exact still now

end Later

namespace Sourced

variable {turns : List Turn} {turn : Turn} {task earlier : BuildTask}

theorem begun (alive : ¬WasKilled turns task.build) (starting : task.stage = .starting) :
    Sourced turns task where
  alive _ := alive
  takes _ taken := by simp [starting, TaskStage.project?] at taken
  requests _ _ prepared := by simp [starting] at prepared
  brings _ finished := by simp [starting] at finished

theorem keep (sourced : Sourced turns earlier) (build : task.build = earlier.build)
    (stage : task.stage = earlier.stage) (still : turn.killed? = none) :
    Sourced (turns ++ [turn]) task := by
  refine ⟨?_, ?_, ?_, ?_⟩
  · rw [build, stage, wasKilled_append_singleton, still]
    simpa using sourced.alive
  · rw [build, stage]
    exact fun project taken => (sourced.takes project taken).later turn
  · rw [stage]
    exact fun project request prepared =>
      (sourced.requests project request prepared).mono (List.subset_append_left ..)
  · rw [build, stage]
    exact fun result finished => (sourced.brings result finished).later (by simp [still])

theorem going {stage : TaskStage} {project : Project} (alive : ¬WasKilled turns task.build)
    (taken : stage.project? = some project) (takes : Takes turns task.build project)
    (requests : ∀ request, stage = .prepared project request →
      WasRequested turns project request) : Sourced turns { task with stage } := by
  refine ⟨fun _ => alive, ?_, ?_, ?_⟩
  · intro other also
    rw [taken, Option.some.injEq] at also
    exact also ▸ takes
  · rintro other request rfl
    obtain rfl := Option.some.inj taken
    exact requests request rfl
  · rintro result rfl
    simp [TaskStage.project?] at taken

theorem ended {stage : TaskStage} {result : Except String BuildOutcome}
    (finished : stage = .finished result) (brings : Brings turns task.build result) :
    Sourced turns { task with stage } := by
  subst stage
  refine ⟨by simp [TaskStage.isFinished], by simp [TaskStage.project?], by simp, ?_⟩
  intro other also
  obtain rfl := TaskStage.finished.inj also
  exact brings

end Sourced

theorem Takes.brings {turns : List Turn} {build : Build} {project : Project}
    {outcome : BuildOutcome} (takes : Takes turns build project)
    (alive : ¬WasKilled turns build)
    (reloaded : outcome.reloaded = build.plan.reloadedBy (some project)) :
    Brings turns build (.ok outcome) := by
  unfold Takes at takes
  unfold Brings
  simp only [Scheduler.reloadedAtEnd, reloaded, BuildPlan.reloadedBy]
  cases plan : build.plan with
  | reuse kept => simp [BuildPlan.isReload]
  | reload =>
      rw [plan] at takes
      exact ⟨rfl, alive, takes⟩

theorem WasKilled.brings {turns : List Turn} {build : Build} {result : Except String BuildOutcome}
    (killed : WasKilled turns build) (lost : Scheduler.reloadedAtEnd result = none) :
    Brings turns build result := by
  simp [Brings, lost, killed]

theorem mapError_eq_error {Error Other Value : Type} {change : Error → Other}
    {outcome : Except Error Value} {error : Other}
    (failed : outcome.mapError change = .error error) :
    ∃ earlier, change earlier = error := by
  cases outcome with
  | ok value => simp [Except.mapError] at failed
  | error earlier => exact ⟨earlier, Except.error.inj failed⟩

theorem BuildPlan.load_failure {tree : FileTree} {source : ProjectSource}
    {failure : PrepareFailure} (failed : BuildPlan.reload.load tree source = .error failure) :
    failure.project = none := by
  obtain ⟨error, rfl⟩ := mapError_eq_error failed
  rfl

theorem BuildPlan.requestOf_failure {tree : FileTree} {source : ProjectSource}
    {project : Project} {failure : PrepareFailure}
    (failed : BuildPlan.requestOf tree source project = .error failure) :
    failure.project = some project := by
  obtain ⟨error, rfl⟩ := mapError_eq_error failed
  rfl

section Progress

variable {turns : List Turn} {turn : Turn} {task : BuildTask} {action : BuildAction}
  {stage : TaskStage} {compilers : List CompilerInstance} {log : List LogEntry}

theorem wasRead_of_load {number : Nat} (acted : turn.action = some (.load number))
    (acting : turn.actor? = some task) (reload : task.build.plan = .reload) :
    WasRead (turns ++ [turn]) task.build
      ((BuildPlan.reload.load turn.before.tree turn.before.scheduler.source).toOption.map
        Prod.fst) := by
  refine ⟨turn, List.mem_append_right _ (List.mem_singleton.mpr rfl), ?_⟩
  simp only [Turn.reading?, acted, acting, reload, BuildPlan.isReload, if_true, BuildPlan.load]
  cases Project.load turn.before.tree turn.before.scheduler.source.baseDir
    turn.before.scheduler.source.configName <;> rfl

theorem takes_of_load {number : Nat} {project : Project}
    (acted : turn.action = some (.load number)) (acting : turn.actor? = some task)
    (loaded : task.build.plan.load turn.before.tree turn.before.scheduler.source =
      .ok (project, log)) :
    Takes (turns ++ [turn]) task.build project := by
  unfold Takes
  cases plan : task.build.plan with
  | reuse kept =>
      rw [plan, BuildPlan.load, Except.ok.injEq, Prod.mk.injEq] at loaded
      exact loaded.1.symm
  | reload =>
      have read : WasRead (turns ++ [turn]) task.build _ := wasRead_of_load acted acting plan
      rw [plan] at loaded
      rwa [loaded] at read

theorem brings_of_load {number : Nat} {failure : PrepareFailure}
    (alive : ¬WasKilled (turns ++ [turn]) task.build)
    (acted : turn.action = some (.load number)) (acting : turn.actor? = some task)
    (failed : task.build.plan.load turn.before.tree turn.before.scheduler.source =
      .error failure) :
    Brings (turns ++ [turn]) task.build (.ok (.ofFailure task.build.plan failure)) := by
  cases plan : task.build.plan with
  | reuse kept =>
      rw [plan, BuildPlan.load] at failed
      simp at failed
  | reload =>
      have read : WasRead (turns ++ [turn]) task.build _ := wasRead_of_load acted acting plan
      rw [plan] at failed
      rw [failed] at read
      simp only [Brings, Scheduler.reloadedAtEnd, BuildOutcome.ofFailure, BuildPlan.reloadedBy,
        BuildPlan.load_failure failed, BuildPlan.isReload, if_true]
      exact ⟨plan, alive, read⟩

theorem unfinished_of_progress {system : BuildSystem}
    (progress : system.Progress task action stage compilers log) :
    task.stage.isFinished = false := by
  cases progress with
  | crashed early =>
      cases reached : task.stage <;> simp [reached, TaskStage.isEarly] at early <;> rfl
  | died alive => exact alive
  | loaded reached | notLoaded reached | listed reached | notListed reached | refused reached
  | asked reached | answered reached | closed reached | broken reached => rw [reached]; rfl

theorem wasKilled_now (now : turn.killed? = some task.build) :
    WasKilled (turns ++ [turn]) task.build :=
  wasKilled_append_singleton.mpr (.inr now)

theorem killed?_of_answer {number : Nat} {use : ClientUse}
    (acted : turn.action = some (.answer number use)) (acting : turn.actor? = some task) :
    turn.killed? =
      match use.result with
      | .crashed _ => some task.build
      | _ => none := by
  cases use <;> simp [Turn.killed?, acted, acting, ClientUse.result]

theorem Sourced.progress (sourced : Sourced turns task) (acted : turn.action = some action)
    (acting : turn.actor? = some task)
    (progress : turn.before.Progress task action stage compilers log) :
    Sourced (turns ++ [turn]) { task with stage } := by
  have alive (still : turn.killed? = none) : ¬WasKilled (turns ++ [turn]) task.build := by
    rw [wasKilled_append_singleton, still]
    simpa using sourced.alive (unfinished_of_progress progress)
  have takes {project : Project} (taken : task.stage.project? = some project) :
      Takes (turns ++ [turn]) task.build project :=
    (sourced.takes project taken).later turn
  cases progress with
  | loaded starting loaded =>
      refine .going (alive ?_) rfl (takes_of_load acted acting loaded) (by simp)
      simp [Turn.killed?, acted]
  | notLoaded starting failed =>
      refine .ended rfl (brings_of_load (alive ?_) acted acting failed)
      simp [Turn.killed?, acted]
  | @listed number project request reached requested =>
      refine .going (alive ?_) rfl (takes (by rw [reached]; rfl)) ?_
      · simp [Turn.killed?, acted]
      · rintro _ ⟨rfl⟩
        exact ⟨turn, List.mem_append_right _ (List.mem_singleton.mpr rfl), requested⟩
  | @notListed number project failure reached failed =>
      refine .ended rfl ((takes (by rw [reached]; rfl)).brings (alive ?_) ?_)
      · simp [Turn.killed?, acted]
      · rw [BuildOutcome.ofFailure, BuildPlan.requestOf_failure failed]
  | crashed early =>
      exact .ended rfl ((wasKilled_now (by simp [Turn.killed?, acted, acting])).brings rfl)
  | refused reached =>
      refine .ended rfl ((takes (by rw [reached]; rfl)).brings (alive ?_) rfl)
      simp [Turn.killed?, acted]
  | asked reached =>
      refine .going (alive ?_) rfl (takes (by rw [reached]; rfl)) (by simp)
      simp [Turn.killed?, acted]
  | answered reached answer =>
      refine .ended rfl ((takes (by rw [reached]; rfl)).brings (alive ?_) rfl)
      rw [killed?_of_answer acted acting, answer]
  | closed reached answer =>
      refine .ended rfl ((takes (by rw [reached]; rfl)).brings (alive ?_) rfl)
      rw [killed?_of_answer acted acting, answer]
  | broken reached answer =>
      refine .ended rfl ((wasKilled_now ?_).brings rfl)
      rw [killed?_of_answer acted acting, answer]
  | died unfinished =>
      exact .ended rfl ((wasKilled_now (by simp [Turn.killed?, acted, acting])).brings rfl)

end Progress

theorem Turn.killed?_of_aside {action : BuildAction}
    (aside : ∀ number, action.build? = some number → action = .unwind number)
    (before : BuildSystem) (effects : List Effect) (after : BuildSystem) :
    Turn.killed? ⟨before, some action, effects, after⟩ = none := by
  cases action with
  | crash number | die number | answer number => exact absurd (aside number rfl) (by simp)
  | _ => simp [Turn.killed?]

theorem Turn.actor?_of_killed? {turn : Turn} {build : Build}
    (killed : turn.killed? = some build) :
    ∃ task, turn.actor? = some task ∧ task.build = build := by
  unfold killed? at killed
  split at killed
  all_goals first
    | exact ⟨_, ‹_›, Option.some.inj killed⟩
    | simp at killed

theorem Turn.actor?_of_asked? {turn : Turn} {build : Build} {project : Project}
    {request : Request} (asked : turn.asked? = some (build, project, request)) :
    ∃ isAborted, turn.actor? = some ⟨build, false, isAborted, .prepared project request⟩ := by
  unfold asked? at asked
  split at asked
  · obtain ⟨rfl, rfl, rfl⟩ : _ ∧ _ ∧ _ := by simpa using asked
    exact ⟨_, ‹_›⟩
  · simp at asked

namespace BuildRun

variable {tree : FileTree} {source : ProjectSource} {debounce : Time}
  {turns : List Turn} {system : BuildSystem} {turn : Turn} {build : Build}

theorem started_actor {task : BuildTask}
    (run : BuildRun (.create tree source debounce) turns system) (member : turn ∈ turns)
    (acting : turn.actor? = some task) : task.build ∈ startedIn turns := by
  obtain ⟨earlier, later, rfl⟩ := List.append_of_mem member
  rcases run.turn_cases with ⟨rfl, rfl⟩ | ⟨before, action, moved, past, possible, rfl⟩
  · simp [Turn.actor?, BuildSystem.opening] at acting
  · rw [startedIn_append]
    exact List.mem_append_left _ (past.started_task (before.mem_of_actor? acting))

theorem started_killed (run : BuildRun (.create tree source debounce) turns system)
    (killed : WasKilled turns build) : build ∈ startedIn turns := by
  obtain ⟨turn, member, killed⟩ := killed
  obtain ⟨task, acting, rfl⟩ := Turn.actor?_of_killed? killed
  exact run.started_actor member acting

theorem sourced {task : BuildTask} (run : BuildRun (.create tree source debounce) turns system)
    (running : system.stage = .running) (member : task ∈ system.tasks)
    (live : task.isCancelled = false) : Sourced (sinceConfigChange turns) task := by
  induction run generalizing task with
  | begin =>
      cases Descends.of_adopt member with
      | kept among => simp [BuildSystem.create] at among
      | begun start starting =>
          refine .begun ?_ starting
          rintro ⟨turn, among, killed⟩
          rw [List.mem_singleton.mp ((sinceConfigChange_suffix _).subset among)] at killed
          simp [Turn.killed?, BuildSystem.opening] at killed
  | @step turns before action moved run possible ih =>
      have whole := run.step possible
      have loops := BuildSystem.running_of_step? possible running
      have owned := whole.coherent.owned task member
      have fresh := ((whole.fresh running).live _ owned).mpr live
      have other : Turn.isConfigChange ⟨before, some action, moved.2, moved.1⟩ = false := by
        rw [startedSince_append_singleton] at fresh
        by_contra changed
        simp [changed] at fresh
      rw [sinceConfigChange_append_singleton, other]
      rcases run.coherent.task_cases possible member with
        ⟨descends, aside⟩ | ⟨earlier, compilers, log, acting, progress, same⟩
      · have still := Turn.killed?_of_aside aside before moved.2 moved.1
        cases descends with
        | kept among build stage kept =>
            exact (ih loops among (kept live)).keep build stage still
        | begun start starting =>
            refine .begun (fun killed => ?_) starting
            rcases wasKilled_append_singleton.mp killed with earlier | now
            · have old := run.started_killed (earlier.mono (sinceConfigChange_suffix turns).subset)
              exact run.unstarted_of_start possible start old
            · simp [still] at now
      · have among := before.mem_of_actor? acting
        have alive : earlier.isCancelled = false := by
          rw [same] at live
          exact live
        rw [same]
        exact (ih loops among alive).progress rfl acting progress

theorem brings {running : RunningBuild} {result : Except String BuildOutcome}
    (run : BuildRun (.create tree source debounce) turns system)
    (loops : system.stage = .running) (ended : system.result? = some (running.build, result))
    (waiting : system.scheduler.running = some running) (live : running.isCancelled = false) :
    Brings (sinceConfigChange turns) running.build result := by
  obtain ⟨-, task, -, -, found, finished⟩ := system.finished_of_result? ended
  have member := List.mem_of_find?_eq_some found
  have owned := run.coherent.owned task member
  rw [waiting, Option.some.injEq] at owned
  rw [owned] at live ⊢
  exact (run.sourced loops member live).brings result finished

end BuildRun

end BuildWatch
