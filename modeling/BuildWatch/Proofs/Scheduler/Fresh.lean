import BuildWatch.Proofs.Scheduler.Reaction

/-!
The builds that were started since the project file last changed. A running build is one of them
exactly if it was not cancelled; the first of them reads the project file again and the others use
what was read before.
-/

namespace BuildWatch

/-- What the builds started since the latest change of the project file say about the loop. -/
structure Fresh (started : List Build) (scheduler : Scheduler) : Prop where
  live : ∀ running, scheduler.running = some running →
    (running.build ∈ started ↔ running.isCancelled = false)
  pending : scheduler.reloadPending = started.isEmpty
  reloads : ∀ first rest, started = first :: rest →
    first.plan = .reload ∧ ∀ build ∈ rest, build.plan.isReload = false

namespace Fresh

variable {started : List Build} {scheduler : Scheduler}

theorem create (source : ProjectSource) (debounce : Time) :
    Fresh [] (Scheduler.create source debounce) :=
  ⟨nofun, rfl, nofun⟩

theorem launch (fresh : Fresh started scheduler) :
    Fresh (started ++ scheduler.launch.2.filterMap Effect.started?) scheduler.launch.1 := by
  generalize scheduler.launch.2.filterMap Effect.started? = new, scheduler.launch.1 = next,
    scheduler.launches = launched
  cases launched with
  | held => simpa using fresh
  | skipped wanted free stuck =>
      rw [List.append_nil]
      exact ⟨by simp [free], fresh.pending, fresh.reloads⟩
  | @started plan wanted free planned =>
      refine ⟨by simp, by simp, ?_⟩
      intro first rest whole
      cases started with
      | nil =>
          have pending : scheduler.reloadPending = true := fresh.pending
          simp only [Scheduler.plan?, pending, if_true, Option.some.injEq] at planned
          obtain ⟨rfl, rfl⟩ := List.cons.inj whole
          exact ⟨planned.symm, nofun⟩
      | cons head tail =>
          have settled : scheduler.reloadPending = false := fresh.pending
          obtain ⟨project, -, rfl⟩ : ∃ project, scheduler.project = some project ∧
              BuildPlan.reuse project = plan := by
            simpa [Scheduler.plan?, settled] using planned
          obtain ⟨reload, reuse⟩ := fresh.reloads head tail rfl
          obtain ⟨rfl, rfl⟩ := List.cons.inj whole
          refine ⟨reload, fun build member => ?_⟩
          rcases List.mem_append.mp member with earlier | last
          · exact reuse build earlier
          · rw [List.mem_singleton.mp last]
            rfl

theorem thenLaunch {decided : Scheduler × List Effect} (fresh : Fresh started decided.1)
    (none : decided.2.filterMap Effect.started? = []) :
    Fresh (started ++ (Scheduler.thenLaunch decided).2.filterMap Effect.started?)
      (Scheduler.thenLaunch decided).1 := by
  rw [Scheduler.thenLaunch_started none]
  exact fresh.launch

theorem frame {next : Scheduler} (fresh : Fresh started scheduler)
    (running : next.running = scheduler.running)
    (pending : next.reloadPending = scheduler.reloadPending) : Fresh started next :=
  ⟨running ▸ fresh.live, pending ▸ fresh.pending, fresh.reloads⟩

theorem onConfigChange (scheduler : Scheduler) (now : Time) :
    Fresh [] (scheduler.onChange now .config).1 := by
  refine ⟨?_, rfl, nofun⟩
  intro running found
  obtain ⟨earlier, -, rfl⟩ := Option.map_eq_some_iff.mp found
  simp [RunningBuild.cancel]

theorem onChange {change : Change} (fresh : Fresh started scheduler) (other : change ≠ .config)
    (now : Time) : Fresh started (scheduler.onChange now change).1 := by
  obtain ⟨delay, same⟩ := Scheduler.onChange_frame other scheduler now
  exact fresh.frame (by rw [same]) (by rw [same])

theorem onWake (fresh : Fresh started scheduler) (now : Time) :
    Fresh started (scheduler.onWake now) := by
  obtain ⟨delay, wantsBuild, same⟩ := scheduler.onWake_frame now
  exact fresh.frame (by rw [same]) (by rw [same])

theorem onFinished (fresh : Fresh started scheduler) (result : Except String BuildOutcome) :
    Fresh started (scheduler.onFinished result).1 := by
  obtain ⟨project, sourceDir, compiler, same⟩ := scheduler.onFinished_frame result
  rw [same]
  exact ⟨nofun, fresh.pending, fresh.reloads⟩

end Fresh

namespace BuildRun

variable {tree : FileTree} {source : ProjectSource} {debounce : Time} {turns : List Turn}
  {system : BuildSystem}

/-- While the loop runs, the builds started since the latest change of the project file tell
whether the running build is still good and whether the file is to be read again. -/
theorem fresh (run : BuildRun (.create tree source debounce) turns system)
    (running : system.stage = .running) :
    Fresh (startedIn (sinceConfigChange turns)) system.scheduler := by
  induction run with
  | begin =>
      have created := Fresh.create source debounce
      rw [startedSince_opening, BuildSystem.begin_scheduler, BuildSystem.opening_started]
      exact created.launch
  | @step turns before action moved run possible ih =>
      obtain ⟨stage, decided, reaction, after, same, effects⟩ :=
        BuildSystem.reaction_of_step? possible
      rw [same, startedSince_append_singleton]
      cases reaction with
      | quiet aside =>
          rw [Turn.isConfigChange_of_aside aside, Turn.started, effects, filterMap_started_log]
          simpa using ih (after.symm.trans running)
      | @changed change loops =>
          cases change with
          | config => exact Fresh.onConfigChange ..
          | source | music =>
              rw [Turn.started, effects]
              exact ((ih loops).onChange (by simp) _).thenLaunch (Scheduler.onChange_started ..)
      | woken loops due =>
          rw [Turn.started, effects]
          exact ((ih loops).onWake _).thenLaunch rfl
      | finished loops ended =>
          rw [Turn.started, effects]
          exact ((ih loops).onFinished _).thenLaunch (Scheduler.onFinished_started ..)
      | stopped loops | left loops => simp [after] at running

end BuildRun

end BuildWatch
