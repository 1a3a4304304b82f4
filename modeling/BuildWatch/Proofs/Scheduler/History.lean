import BuildWatch.Proofs.Scheduler.OneBuild

/-!
Builds come one after the other. Each is numbered by how many were started before it, and the loop
takes in their ends in the order of their starts; at most the last one is still waited for.
-/

namespace BuildWatch

def endedIn (turns : List Turn) : List Build :=
  turns.filterMap fun turn => turn.ended?.map Prod.fst

theorem endedIn_append_singleton (turns : List Turn) (turn : Turn) :
    endedIn (turns ++ [turn]) = endedIn turns ++ (turn.ended?.map Prod.fst).toList := by
  rw [endedIn, List.filterMap_append]
  cases ended : turn.ended? <;> simp [endedIn, ended]

namespace Scheduler

variable {scheduler : Scheduler}

def waiting (scheduler : Scheduler) : List Build :=
  (scheduler.running.map RunningBuild.build).toList

theorem waiting_congr {next : Scheduler} (same : next.running = scheduler.running) :
    next.waiting = scheduler.waiting := by
  rw [waiting, waiting, same]

theorem waiting_cancel {next : Scheduler}
    (cancelled : next.running = scheduler.running.map RunningBuild.cancel) :
    next.waiting = scheduler.waiting := by
  cases running : scheduler.running <;>
    simp [waiting, cancelled, running, RunningBuild.cancel]

theorem launch_waiting (scheduler : Scheduler) :
    scheduler.launch.1.waiting =
      scheduler.waiting ++ scheduler.launch.2.filterMap Effect.started? := by
  generalize scheduler.launch.2.filterMap Effect.started? = new, scheduler.launch.1 = next,
    scheduler.launches = launched
  cases launched with
  | held => simp
  | skipped => simp [waiting]
  | started wanted free => simp [waiting, free]

theorem launch_started_cases (scheduler : Scheduler) :
    scheduler.launch.2.filterMap Effect.started? = [] ∨
      scheduler.waiting = [] ∧ ∃ build, scheduler.launch.2.filterMap Effect.started? = [build] := by
  generalize scheduler.launch.2.filterMap Effect.started? = new, scheduler.launch.1 = next,
    scheduler.launches = launched
  cases launched with
  | held | skipped => exact .inl rfl
  | started wanted free => exact .inr ⟨by simp [waiting, free], _, rfl⟩

theorem thenLaunch_waiting {decided : Scheduler × List Effect}
    (none : decided.2.filterMap Effect.started? = []) :
    (thenLaunch decided).1.waiting =
      decided.1.waiting ++ (thenLaunch decided).2.filterMap Effect.started? := by
  rw [thenLaunch_started none, thenLaunch_fst, launch_waiting]

@[simp] theorem onChange_waiting (scheduler : Scheduler) (now : Time) (change : Change) :
    (scheduler.onChange now change).1.waiting = scheduler.waiting := by
  by_cases config : change = .config
  · subst change
    exact waiting_cancel rfl
  · obtain ⟨delay, same⟩ := onChange_frame config scheduler now
    exact waiting_congr (by rw [same])

@[simp] theorem onWake_waiting (scheduler : Scheduler) (now : Time) :
    (scheduler.onWake now).waiting = scheduler.waiting := by
  obtain ⟨delay, wantsBuild, same⟩ := scheduler.onWake_frame now
  exact waiting_congr (by rw [same])

theorem waiting_onFinished (scheduler : Scheduler) (result : Except String BuildOutcome) :
    (scheduler.onFinished result).1.waiting = [] := by
  simp [waiting]

theorem launch_builds (scheduler : Scheduler) :
    List.range scheduler.launch.1.builds = List.range scheduler.builds ++
      (scheduler.launch.2.filterMap Effect.started?).map Build.number := by
  generalize scheduler.launch.2.filterMap Effect.started? = new, scheduler.launch.1 = next,
    scheduler.launches = launched
  cases launched with
  | held | skipped => simp
  | started => simp [List.range_succ]

theorem thenLaunch_builds {decided : Scheduler × List Effect}
    (none : decided.2.filterMap Effect.started? = []) :
    List.range (thenLaunch decided).1.builds = List.range decided.1.builds ++
      ((thenLaunch decided).2.filterMap Effect.started?).map Build.number := by
  rw [thenLaunch_started none, thenLaunch_fst, launch_builds]

@[simp] theorem onChange_builds (scheduler : Scheduler) (now : Time) (change : Change) :
    (scheduler.onChange now change).1.builds = scheduler.builds := by
  by_cases config : change = .config
  · subst change
    rfl
  · obtain ⟨delay, same⟩ := onChange_frame config scheduler now
    rw [same]

@[simp] theorem onWake_builds (scheduler : Scheduler) (now : Time) :
    (scheduler.onWake now).builds = scheduler.builds := by
  obtain ⟨delay, wantsBuild, same⟩ := scheduler.onWake_frame now
  rw [same]

@[simp] theorem onFinished_builds (scheduler : Scheduler) (result : Except String BuildOutcome) :
    (scheduler.onFinished result).1.builds = scheduler.builds := by
  obtain ⟨project, sourceDir, compiler, same⟩ := scheduler.onFinished_frame result
  rw [same]

end Scheduler

/-- The builds of some turns, one after the other, and the one that is still waited for. -/
structure Sequential (turns : List Turn) (system : BuildSystem) : Prop where
  numbered : (startedIn turns).map Build.number = List.range system.scheduler.builds
  ordered : endedIn turns <+: startedIn turns
  complete : system.stage ≠ .stopped →
    startedIn turns = endedIn turns ++ system.scheduler.waiting
  left : system.stage = .stopped → system.scheduler.running = none
  givenUp : system.stage ≠ .running → ∀ running, system.scheduler.running = some running →
    running.isCancelled = true

namespace Sequential

variable {turns : List Turn} {system next : BuildSystem} {turn : Turn}

theorem goOn (sequential : Sequential turns system) (before : system.stage = .running)
    (after : next.stage = .running)
    (waits : (turn.ended?.map Prod.fst).toList ++ next.scheduler.waiting =
      system.scheduler.waiting ++ turn.started)
    (counts : List.range next.scheduler.builds =
      List.range system.scheduler.builds ++ turn.started.map Build.number) :
    Sequential (turns ++ [turn]) next := by
  have whole : startedIn (turns ++ [turn]) =
      endedIn (turns ++ [turn]) ++ next.scheduler.waiting := by
    rw [startedIn_append, startedIn_singleton, endedIn_append_singleton, List.append_assoc, waits,
      sequential.complete (by simp [before]), List.append_assoc]
  refine ⟨?_, ?_, fun _ => whole, by simp [after], by simp [after]⟩
  · rw [startedIn_append, List.map_append, sequential.numbered, startedIn_singleton, counts]
  · rw [whole]
    exact List.prefix_append ..

theorem quiet (sequential : Sequential turns system) (started : turn.started = [])
    (ended : turn.ended? = none) (builds : next.scheduler.builds = system.scheduler.builds)
    (complete : next.stage ≠ .stopped →
      system.stage ≠ .stopped ∧ next.scheduler.waiting = system.scheduler.waiting)
    (left : next.stage = .stopped → next.scheduler.running = none)
    (givenUp : next.stage ≠ .running → ∀ running, next.scheduler.running = some running →
      running.isCancelled = true) :
    Sequential (turns ++ [turn]) next := by
  have starts : startedIn (turns ++ [turn]) = startedIn turns := by simp [started]
  have ends : endedIn (turns ++ [turn]) = endedIn turns := by
    simp [endedIn_append_singleton, ended]
  refine ⟨?_, ?_, fun going => ?_, left, givenUp⟩
  · rw [starts, sequential.numbered, builds]
  · rw [starts, ends]
    exact sequential.ordered
  · rw [starts, ends, (complete going).2]
    exact sequential.complete (complete going).1

end Sequential

namespace BuildRun

variable {tree : FileTree} {source : ProjectSource} {debounce : Time} {turns : List Turn}
  {system : BuildSystem}

theorem sequential (run : BuildRun (.create tree source debounce) turns system) :
    Sequential turns system := by
  induction run with
  | begin =>
      have created : Sequential [] (.create tree source debounce) :=
        ⟨rfl, List.nil_prefix, fun _ => rfl, by simp [BuildSystem.create],
          by simp [BuildSystem.create]⟩
      refine created.goOn rfl (BuildSystem.begin_stage _) ?_ ?_
      · rw [BuildSystem.begin_scheduler, BuildSystem.opening_started, Scheduler.launch_waiting]
        rfl
      · rw [BuildSystem.begin_scheduler, BuildSystem.opening_started, Scheduler.launch_builds]
  | @step turns before action moved run possible ih =>
      obtain ⟨stage, decided, reaction, after, same, effects⟩ :=
        BuildSystem.reaction_of_step? possible
      cases reaction with
      | quiet aside =>
          refine ih.quiet ?_ (Turn.ended?_of_aside aside ..) (by rw [same]) ?_ ?_ ?_
          · rw [Turn.started, effects, filterMap_started_log]
          · rw [same, after]
            exact fun going => ⟨going, rfl⟩
          · rw [same, after]
            exact ih.left
          · rw [same, after]
            exact ih.givenUp
      | changed loops =>
          refine ih.goOn loops after ?_ ?_
          · rw [same, Scheduler.thenLaunch_waiting (Scheduler.onChange_started ..),
              Scheduler.onChange_waiting, Turn.started, effects]
            rfl
          · rw [same, Scheduler.thenLaunch_builds (Scheduler.onChange_started ..),
              Scheduler.onChange_builds, Turn.started, effects]
      | woken loops due =>
          refine ih.goOn loops after ?_ ?_
          · rw [same, Scheduler.thenLaunch_waiting rfl, Scheduler.onWake_waiting, Turn.started,
              effects]
            rfl
          · rw [same, Scheduler.thenLaunch_builds rfl, Scheduler.onWake_builds, Turn.started,
              effects]
      | @finished build result loops ended =>
          obtain ⟨running, -, waiting, rfl, -⟩ := before.finished_of_result? ended
          refine ih.goOn loops after ?_ ?_
          · rw [same, Scheduler.thenLaunch_waiting (Scheduler.onFinished_started ..),
              Scheduler.waiting_onFinished, Turn.started, effects]
            simp [Turn.ended?, ended, Scheduler.waiting, waiting]
          · rw [same, Scheduler.thenLaunch_builds (Scheduler.onFinished_started ..),
              Scheduler.onFinished_builds, Turn.started, effects]
      | stopped loops =>
          refine ih.quiet ?_ rfl (by rw [same]; rfl) ?_ (by simp [after]) ?_
          · rw [Turn.started, effects, Scheduler.stop_started]
          · rw [same]
            exact fun _ => ⟨by simp [loops], Scheduler.waiting_cancel rfl⟩
          · rw [same]
            intro _ running found
            obtain ⟨earlier, -, rfl⟩ := Option.map_eq_some_iff.mp found
            rfl
      | left stopping =>
          have free : moved.1.scheduler.running = none := by
            rw [same]
            rfl
          refine ih.quiet ?_ rfl (by rw [same]; rfl) (by simp [after]) (fun _ => free) ?_
          · rw [Turn.started, effects, Scheduler.leave_started]
          · simp [free]

theorem started_nodup (run : BuildRun (.create tree source debounce) turns system) :
    (startedIn turns).Nodup := by
  refine List.Nodup.of_map Build.number ?_
  rw [run.sequential.numbered]
  exact List.nodup_range

theorem started_running {running : RunningBuild}
    (run : BuildRun (.create tree source debounce) turns system)
    (waiting : system.scheduler.running = some running) : running.build ∈ startedIn turns := by
  by_cases stopped : system.stage = .stopped
  · rw [run.sequential.left stopped] at waiting
    simp at waiting
  · rw [run.sequential.complete stopped]
    simp [Scheduler.waiting, waiting]

theorem started_task {task : BuildTask}
    (run : BuildRun (.create tree source debounce) turns system)
    (member : task ∈ system.tasks) : task.build ∈ startedIn turns :=
  run.started_running (run.coherent.owned task member)

theorem unstarted_of_start {action : BuildAction} {moved : BuildSystem × List Effect}
    {build : Build} (run : BuildRun (.create tree source debounce) turns system)
    (possible : system.step? action = some moved) (start : .start build ∈ moved.2) :
    build ∉ startedIn turns := by
  have nodup := (run.step possible).started_nodup
  rw [startedIn_append, startedIn_singleton] at nodup
  have new : build ∈ Turn.started ⟨system, some action, moved.2, moved.1⟩ :=
    List.mem_filterMap.mpr ⟨_, start, rfl⟩
  intro old
  exact (List.nodup_append.mp nodup).2.2 build old build new rfl

end BuildRun

end BuildWatch
