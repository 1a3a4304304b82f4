import BuildWatch.Proofs.Scheduler.Rebuild

/-!
Loading is a promise. As long as observers see it, a build that will be shown runs, or the project
file is about to be read again. A cancelled build shows nothing at its end, so the loop has to
know without it that something is still to come.
-/

namespace BuildWatch

/-- What an observer sees after some turns; nothing was published before the first of them. -/
def lastShown (turns : List Turn) : BuildState :=
  (turns.flatMap Turn.published).getLast?.getD .loading

theorem lastShown_append_singleton (turns : List Turn) (turn : Turn) :
    lastShown (turns ++ [turn]) = turn.published.getLast?.getD (lastShown turns) := by
  rw [lastShown, List.flatMap_append, List.flatMap_singleton, List.getLast?_append]
  cases turn.published.getLast? <;> rfl

/-- The next build reads the project file, and it will come by itself. -/
def Scheduler.WillReload (scheduler : Scheduler) : Prop :=
  scheduler.reloadPending = true ∧ (scheduler.wantsBuild = true ∨ scheduler.delay.armed = true)

namespace Scheduler.WillReload

variable {scheduler : Scheduler}

theorem canBuild (reloads : scheduler.WillReload) : scheduler.canBuild = true := by
  simp [Scheduler.canBuild, reloads.1]

theorem onChange (reloads : scheduler.WillReload) (now : Time) (change : Change) :
    (scheduler.onChange now change).1.WillReload := by
  cases change with
  | config => exact ⟨rfl, .inr (Delay.trigger_armed ..)⟩
  | source | music =>
      simp only [Scheduler.onChange, reloads.canBuild, if_true]
      exact ⟨reloads.1, .inr (Delay.trigger_armed ..)⟩

theorem onWake (reloads : scheduler.WillReload) (now : Time) :
    (scheduler.onWake now).WillReload := by
  rw [Scheduler.onWake, if_pos reloads.canBuild]
  refine ⟨reloads.1, ?_⟩
  rcases scheduler.delay.onWake_cases now with accepted | armed
  · exact .inl (by simp [accepted])
  · exact .inr armed

theorem onFinished (reloads : scheduler.WillReload) (result : Except String BuildOutcome) :
    (scheduler.onFinished result).1.WillReload := by
  obtain ⟨project, sourceDir, compiler, same⟩ := scheduler.onFinished_frame result
  rw [same]
  exact reloads

end Scheduler.WillReload

/-- What observers see and what the loop will do: the project file is read again after a build that
was cancelled, and loading is not shown when nothing is to come. -/
structure Promises (shown : BuildState) (scheduler : Scheduler) : Prop where
  overtaken : ∀ running, scheduler.running = some running → running.isCancelled = true →
    scheduler.WillReload
  answered : shown = .loading →
    (∃ running, scheduler.running = some running ∧ running.isCancelled = false) ∨
      scheduler.WillReload

namespace Promises

variable {shown : BuildState} {scheduler : Scheduler}

theorem launch (promises : Promises shown scheduler) : Promises shown scheduler.launch.1 := by
  generalize scheduler.launch.2.filterMap Effect.started? = new, scheduler.launch.1 = next,
    scheduler.launches = launched
  cases launched with
  | held => exact promises
  | skipped wanted free stuck =>
      refine ⟨by simp [free], fun loading => ?_⟩
      rcases promises.answered loading with ⟨running, waiting, -⟩ | reloads
      · simp [free] at waiting
      · have can := reloads.canBuild
        simp [stuck] at can
  | started => exact ⟨by simp, fun _ => .inl ⟨_, rfl, rfl⟩⟩

theorem onConfigChange (shown : BuildState) (scheduler : Scheduler) (now : Time) :
    Promises shown (scheduler.onChange now .config).1 := by
  have reloads : (scheduler.onChange now .config).1.WillReload :=
    ⟨rfl, .inr (Delay.trigger_armed ..)⟩
  exact ⟨fun _ _ _ => reloads, fun _ => .inr reloads⟩

theorem keep {next : Scheduler} (promises : Promises shown scheduler)
    (running : next.running = scheduler.running)
    (kept : scheduler.WillReload → next.WillReload) : Promises shown next := by
  constructor
  · intro build waiting cancelled
    rw [running] at waiting
    exact kept (promises.overtaken build waiting cancelled)
  · intro loading
    rw [running]
    exact (promises.answered loading).imp_right kept

theorem onChange {change : Change} (promises : Promises shown scheduler)
    (other : change ≠ .config) (now : Time) :
    Promises shown (scheduler.onChange now change).1 := by
  refine promises.keep ?_ fun reloads => reloads.onChange now change
  obtain ⟨delay, same⟩ := Scheduler.onChange_frame other scheduler now
  rw [same]

theorem onWake (promises : Promises shown scheduler) (now : Time) :
    Promises shown (scheduler.onWake now) := by
  refine promises.keep ?_ fun reloads => reloads.onWake now
  obtain ⟨delay, wantsBuild, same⟩ := scheduler.onWake_frame now
  rw [same]

theorem onFinished {running : RunningBuild} {result : Except String BuildOutcome}
    (promises : Promises shown scheduler) (waiting : scheduler.running = some running)
    (terminal : (Scheduler.shownResult result).isTerminal = true) :
    Promises
      (((scheduler.onFinished result).2.filterMap Effect.published?).getLast?.getD shown)
      (scheduler.onFinished result).1 := by
  refine ⟨by simp, fun loading => ?_⟩
  rw [Scheduler.onFinished_published] at loading
  by_cases cancelled : running.isCancelled = true
  · exact .inr ((promises.overtaken running waiting cancelled).onFinished result)
  · have result : Scheduler.shownResult result = .loading := by
      simpa [waiting, cancelled] using loading
    simp [result, BuildState.isTerminal] at terminal

end Promises

namespace BuildRun

variable {tree : FileTree} {source : ProjectSource} {debounce : Time} {turns : List Turn}
  {system : BuildSystem}

theorem promises (run : BuildRun (.create tree source debounce) turns system)
    (running : system.stage = .running) : Promises (lastShown turns) system.scheduler := by
  induction run with
  | begin =>
      have created : Promises .loading (Scheduler.create source debounce) :=
        ⟨nofun, fun _ => .inr ⟨rfl, .inl rfl⟩⟩
      have nothing : lastShown [(BuildSystem.create tree source debounce).opening] = .loading := by
        simp [lastShown]
      rw [nothing, BuildSystem.begin_scheduler]
      exact created.launch
  | @step turns before action moved run possible ih =>
      obtain ⟨stage, decided, reaction, after, same, effects⟩ :=
        BuildSystem.reaction_of_step? possible
      rw [same, lastShown_append_singleton, Turn.published, effects]
      cases reaction with
      | quiet aside =>
          rw [filterMap_published_log]
          exact ih (after.symm.trans running)
      | @changed change loops =>
          rw [Scheduler.thenLaunch_published, Scheduler.onChange_published]
          by_cases config : change = .config
          · subst change
            exact (Promises.onConfigChange ..).launch
          · rw [if_neg config]
            exact ((ih loops).onChange config _).launch
      | woken loops due =>
          rw [Scheduler.thenLaunch_published]
          exact ((ih loops).onWake _).launch
      | finished loops ended =>
          obtain ⟨waiting, -, found, -⟩ := before.finished_of_result? ended
          rw [Scheduler.thenLaunch_published]
          exact ((ih loops).onFinished found (run.finish_isTerminal ended)).launch
      | stopped | left => simp [after] at running

/-- As long as observers see loading, a build that was not cancelled runs, or the project file is
to be read again and a build is wanted or the timer runs; so the loop is not at rest. -/
theorem loading_promised (run : BuildRun (.create tree source debounce) turns system)
    (running : system.stage = .running) (loading : lastShown turns = .loading) :
    ((∃ running, system.scheduler.running = some running ∧ running.isCancelled = false) ∨
      system.scheduler.reloadPending = true ∧
        (system.scheduler.wantsBuild = true ∨ system.scheduler.delay.armed = true)) ∧
      system.scheduler.phase ≠ .idle := by
  have answered := (run.promises running).answered loading
  refine ⟨answered, ?_⟩
  unfold Scheduler.phase
  rcases answered with ⟨build, waiting, live⟩ | ⟨-, waits⟩
  · simp [waiting, live]
  · cases system.scheduler.running with
    | none => simp [waits]
    | some build => cases cancelled : build.isCancelled <;> simp [cancelled]

def overtakenFirst : List Turn × BuildSystem :=
  BuildSystem.sample.attempt
    [.load 0, .list 0, .ask 0, .change .config, .answer 0 sampleUse, .finish]

theorem loading_promised_overtaken :
    (BuildRun .sample overtakenFirst.1 overtakenFirst.2 ∧ overtakenFirst.2.stage = .running ∧
      lastShown overtakenFirst.1 = .loading) ∧
      ((∃ running, overtakenFirst.2.scheduler.running = some running ∧
          running.isCancelled = false) ∨
        overtakenFirst.2.scheduler.reloadPending = true ∧
          (overtakenFirst.2.scheduler.wantsBuild = true ∨
            overtakenFirst.2.scheduler.delay.armed = true)) ∧
        overtakenFirst.2.scheduler.phase ≠ .idle := by
  have run : BuildRun .sample overtakenFirst.1 overtakenFirst.2 := .attempt BuildSystem.sample _
  have running : overtakenFirst.2.stage = .running := by cbv
  have loading : lastShown overtakenFirst.1 = .loading := by cbv
  exact ⟨⟨run, running, loading⟩, loading_promised run running loading⟩

end BuildRun

end BuildWatch
