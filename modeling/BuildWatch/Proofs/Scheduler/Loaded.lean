import BuildWatch.Proofs.Scheduler.Rebuild
import BuildWatch.Proofs.Scheduler.Reload

/-!
The project that the loop has loaded. A build reads the project file at most once, so once the loop
has taken in the end of a build that read it, the loop keeps what was read, and the watcher knows
its source directory, until the project file changes again.
-/

namespace BuildWatch

section Reading

variable {turns : List Turn} {turn : Turn} {build : Build} {project : Option Project}

theorem wasRead_append_singleton :
    WasRead (turns ++ [turn]) build project ↔
      WasRead turns build project ∨ turn.reading? = some (build, project) := by
  simp [WasRead, or_and_right, exists_or]

theorem Turn.reading?_cases (read : turn.reading? = some (build, project)) :
    ∃ number task, turn.action = some (.load number) ∧ turn.actor? = some task ∧
      task.build = build ∧ build.plan.isReload = true := by
  unfold reading? at read
  split at read
  · rename_i number task acted acting
    split at read
    · rename_i reload
      obtain ⟨rfl, -⟩ := Prod.mk.inj (Option.some.inj read)
      exact ⟨number, task, acted, acting, rfl, reload⟩
    · simp at read
  · simp at read

theorem Turn.reading?_of_aside {action : BuildAction}
    (aside : ∀ number, action.build? = some number → action = .unwind number)
    (before : BuildSystem) (effects : List Effect) (after : BuildSystem) :
    Turn.reading? ⟨before, some action, effects, after⟩ = none := by
  cases action with
  | load number => exact absurd (aside number rfl) (by simp)
  | _ => simp [reading?]

theorem WasRead.isReload (read : WasRead turns build project) : build.plan.isReload = true := by
  obtain ⟨turn, -, reading⟩ := read
  obtain ⟨-, -, -, -, -, reload⟩ := Turn.reading?_cases reading
  exact reload

end Reading

/-- The loop has a project, and no build that it waits for reads the project file again. -/
structure HasLoaded (project : Project) (scheduler : Scheduler) : Prop where
  loaded : scheduler.project = some project
  settled : ∀ running, scheduler.running = some running → running.isCancelled = false →
    running.build.plan.isReload = false

namespace HasLoaded

variable {project : Project} {scheduler next : Scheduler}

theorem canBuild (has : HasLoaded project scheduler) : scheduler.canBuild = true := by
  simp [Scheduler.canBuild, has.loaded]

theorem launch (has : HasLoaded project scheduler) :
    scheduler.launch.2.filterMap Effect.started? ≠ [] ∨ HasLoaded project scheduler.launch.1 := by
  generalize scheduler.launch.2.filterMap Effect.started? = new, scheduler.launch.1 = next,
    scheduler.launches = launched
  cases launched with
  | held | skipped => exact .inr ⟨has.loaded, has.settled⟩
  | started => exact .inl (by simp)

theorem thenLaunch {decided : Scheduler × List Effect} (has : HasLoaded project decided.1)
    (none : decided.2.filterMap Effect.started? = []) :
    (Scheduler.thenLaunch decided).2.filterMap Effect.started? ≠ [] ∨
      HasLoaded project (Scheduler.thenLaunch decided).1 := by
  rw [Scheduler.thenLaunch_started none]
  exact has.launch

theorem onWake (has : HasLoaded project scheduler) (now : Time) :
    HasLoaded project (scheduler.onWake now) := by
  obtain ⟨delay, wantsBuild, same⟩ := scheduler.onWake_frame now
  rw [same]
  exact ⟨has.loaded, has.settled⟩

theorem onFinished {result : Except String BuildOutcome} (has : HasLoaded project scheduler)
    (kept : scheduler.running.any RunningBuild.isCancelled = false →
      Scheduler.reloadedAtEnd result = none) :
    HasLoaded project (scheduler.onFinished result).1 := by
  refine ⟨?_, by simp⟩
  rw [Scheduler.onFinished_project]
  split
  · exact has.loaded
  · rename_i live
    rw [kept (by simpa using live)]
    exact has.loaded

end HasLoaded

/-- A build has read the project file at most once, and not before its task has begun. -/
structure ReadOnce (turns : List Turn) (system : BuildSystem) : Prop where
  fresh : ∀ task ∈ system.tasks, task.stage = .starting →
    ∀ project, ¬WasRead turns task.build project
  once : ∀ build left right, WasRead turns build left → WasRead turns build right → left = right

namespace Scheduler

def SharesSourceDir (scheduler : Scheduler) : Prop :=
  scheduler.sourceDir = scheduler.project.map fun project => Path.ofText project.config.sourceDir

namespace SharesSourceDir

variable {scheduler : Scheduler}

theorem launch (shares : scheduler.SharesSourceDir) : scheduler.launch.1.SharesSourceDir := by
  generalize scheduler.launch.2.filterMap Effect.started? = new, scheduler.launch.1 = next,
    scheduler.launches = launched
  cases launched <;> exact shares

theorem onChange (shares : scheduler.SharesSourceDir) (now : Time) (change : Change) :
    (scheduler.onChange now change).1.SharesSourceDir := by
  by_cases config : change = .config
  · subst change
    exact shares
  · obtain ⟨delay, same⟩ := onChange_frame config scheduler now
    rw [same]
    exact shares

theorem onWake (shares : scheduler.SharesSourceDir) (now : Time) :
    (scheduler.onWake now).SharesSourceDir := by
  obtain ⟨delay, wantsBuild, same⟩ := scheduler.onWake_frame now
  rw [same]
  exact shares

theorem onFinished (shares : scheduler.SharesSourceDir) (result : Except String BuildOutcome) :
    (scheduler.onFinished result).1.SharesSourceDir := by
  rw [onFinished_fst]
  generalize (if scheduler.running.any RunningBuild.isCancelled then none
    else reloadedAtEnd result) = reloaded
  cases reloaded with
  | none => exact shares
  | some project => rfl

end SharesSourceDir

end Scheduler

namespace BuildRun

variable {tree : FileTree} {source : ProjectSource} {debounce : Time} {turns : List Turn}
  {system : BuildSystem} {build : Build}

theorem sharesSourceDir (run : BuildRun (.create tree source debounce) turns system) :
    system.scheduler.SharesSourceDir := by
  induction run with
  | begin =>
      have created : (Scheduler.create source debounce).SharesSourceDir := rfl
      rw [BuildSystem.begin_scheduler]
      exact created.launch
  | step run possible ih =>
      obtain ⟨stage, decided, reaction, -, same, -⟩ := BuildSystem.reaction_of_step? possible
      rw [same]
      cases reaction with
      | quiet | stopped | left => exact ih
      | changed => exact (ih.onChange ..).launch
      | woken => exact (ih.onWake _).launch
      | finished => exact (ih.onFinished _).launch

theorem started_read {project : Option Project}
    (run : BuildRun (.create tree source debounce) turns system)
    (read : WasRead turns build project) : build ∈ startedIn turns := by
  obtain ⟨turn, member, reading⟩ := read
  obtain ⟨number, task, -, acting, rfl, -⟩ := Turn.reading?_cases reading
  exact run.started_actor member acting

theorem starting_of_load {number : Nat} {moved : BuildSystem × List Effect} {task : BuildTask}
    (possible : system.step? (.load number) = some moved)
    (acting : system.actor? (.load number) = some task) : task.stage = .starting := by
  cases BuildSystem.happens_of_step? possible with
  | progressed same found progress =>
      obtain rfl := Option.some.inj same
      obtain rfl := Option.some.inj (found.symm.trans acting)
      cases progress with
      | loaded starting | notLoaded starting => exact starting

theorem readOnce (run : BuildRun (.create tree source debounce) turns system) :
    ReadOnce turns system := by
  induction run with
  | begin =>
      have unread : ∀ build project,
          ¬WasRead [(BuildSystem.create tree source debounce).opening] build project := by
        rintro build project ⟨turn, among, reading⟩
        rw [List.mem_singleton.mp among] at reading
        simp [Turn.reading?, BuildSystem.opening] at reading
      exact ⟨fun _ _ _ => unread _, fun build left _ read => absurd read (unread build left)⟩
  | @step turns before action moved run possible ih =>
      have unread : ∀ build project left,
          Turn.reading? ⟨before, some action, moved.2, moved.1⟩ = some (build, project) →
          ¬WasRead turns build left := by
        intro build project left reading
        obtain ⟨number, task, acted, acting, rfl, -⟩ := Turn.reading?_cases reading
        obtain rfl := Option.some.inj acted
        change before.actor? (.load number) = some task at acting
        exact ih.fresh task (before.mem_of_actor? acting) (starting_of_load possible acting) left
      refine ⟨fun task member starting project read => ?_, fun build left right readLeft readRight =>
        ?_⟩
      · rcases run.coherent.task_cases possible member with
          ⟨descends, aside⟩ | ⟨earlier, compilers, log, -, progress, -⟩
        · have still := Turn.reading?_of_aside aside before moved.2 moved.1
          have old : WasRead turns task.build project := by
            simpa [still] using wasRead_append_singleton.mp read
          cases descends with
          | kept among build stage =>
              rw [build] at old
              exact ih.fresh _ among (stage.symm.trans starting) project old
          | begun start =>
              exact absurd (run.started_read old) (run.unstarted_of_start possible start)
        · rw [starting] at progress
          cases progress
      · rcases wasRead_append_singleton.mp readLeft with before | now <;>
          rcases wasRead_append_singleton.mp readRight with also | again
        · exact ih.once build left right before also
        · exact absurd before (unread build right left again)
        · exact absurd also (unread build left right now)
        · exact (Prod.mk.inj (Option.some.inj (now.symm.trans again))).2

theorem hasLoaded_of_ended {project : Project}
    (run : BuildRun (.create tree source debounce) turns system) (loads : Loads turns)
    (unharmed : ∀ turn ∈ turns, turn.killed? = none) (running : system.stage = .running)
    (fresh : build ∈ startedIn (sinceConfigChange turns))
    (read : WasRead turns build (some project)) (ended : build ∈ endedIn turns) :
    HasLoaded project system.scheduler := by
  -- Of the builds since the latest change only the first reads the file, so it is the reader; the
  -- loop has taken in its end and waits for it no more.
  have since := run.fresh running
  obtain ⟨first, rest, whole⟩ := List.exists_cons_of_ne_nil (List.ne_nil_of_mem fresh)
  obtain ⟨reload, reuse⟩ := since.reloads first rest whole
  have reader : build = first := by
    rw [whole] at fresh
    rcases List.mem_cons.mp fresh with same | later
    · exact same
    · have other := reuse build later
      simp [read.isReload] at other
  have gone : system.scheduler.waiting ≠ [build] := by
    intro waits
    have nodup := run.started_nodup
    rw [run.sequential.complete (by simp [running]), waits] at nodup
    exact (List.nodup_append.mp nodup).2.2 build ended build (List.mem_singleton.mpr rfl) rfl
  have others : ∀ waiting, system.scheduler.running = some waiting →
      waiting.isCancelled = false → waiting.build.plan.isReload = false := by
    intro waiting found live
    have among := (since.live waiting found).mpr live
    rw [whole] at among
    rcases List.mem_cons.mp among with same | later
    · exact absurd (by simp [Scheduler.waiting, found, same, reader]) gone
    · exact reuse _ later
  refine ⟨?_, others⟩
  cases run.known running with
  | old _ reading =>
      rcases reading first rest whole with ⟨turn, member, killed⟩ | waits
      · have alive := unharmed turn ((sinceConfigChange_suffix turns).subset member)
        simp [killed] at alive
      · exact absurd (reader ▸ waits) gone
  | @read again _ also _ _ reads =>
      obtain rfl := (List.cons.inj (whole.symm.trans also)).1
      cases kept : system.scheduler.project with
      | some loaded =>
          have same := (reads loaded kept).mono (sinceConfigChange_suffix turns).subset
          rw [← reader] at same
          exact run.readOnce.once build _ _ same read
      | none =>
          rcases run.awaits_project loads running kept with
            lost | pending | ⟨waiting, found, live, plan, -⟩
          · obtain ⟨turn, member, killed⟩ := lost.killed
            exact absurd (unharmed turn member) killed
          · have empty := since.pending.symm.trans pending
            simp [whole] at empty
          · have other := others waiting found live
            simp [plan, BuildPlan.isReload] at other

theorem hasLoaded_step {project : Project} {action : BuildAction}
    {moved : BuildSystem × List Effect}
    (run : BuildRun (.create tree source debounce) turns system)
    (has : HasLoaded project system.scheduler) (possible : system.step? action = some moved)
    (other : ∀ change, action ≠ .change change) (running : moved.1.stage = .running) :
    Turn.started ⟨system, some action, moved.2, moved.1⟩ ≠ [] ∨
      HasLoaded project moved.1.scheduler := by
  obtain ⟨stage, decided, reaction, after, same, effects⟩ :=
    BuildSystem.reaction_of_step? possible
  rw [Turn.started, effects, same]
  cases reaction with
  | quiet => exact .inr has
  | changed => exact absurd rfl (other _)
  | woken => exact (has.onWake _).thenLaunch rfl
  | @finished build result loops ended =>
      obtain ⟨waiting, -, found, rfl, -⟩ := system.finished_of_result? ended
      refine (has.onFinished fun live => ?_).thenLaunch (Scheduler.onFinished_started ..)
      have alive : waiting.isCancelled = false := by simpa [found] using live
      have brings := run.brings loops ended found alive
      cases brought : Scheduler.reloadedAtEnd result with
      | none => rfl
      | some project =>
          rw [Brings, brought] at brings
          have settled := has.settled waiting found alive
          simp [brings.1, BuildPlan.isReload] at settled
  | stopped | left => simp [after] at running

end BuildRun

end BuildWatch
