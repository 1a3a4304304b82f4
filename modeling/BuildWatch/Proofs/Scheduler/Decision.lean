import BuildWatch.Proofs.Scheduler.Run

/-!
The decisions of the build loop one by one: which builds they start, which states they publish, and
which parts of the state they leave alone. Builds are started by `launch` and nowhere else.
-/

namespace BuildWatch

attribute [simp] Effect.started? Effect.published?

theorem filterMap_started_log (log : List LogEntry) :
    (log.map Effect.log).filterMap Effect.started? = [] := by
  simp [List.filterMap_map, Function.comp_def]

theorem filterMap_published_log (log : List LogEntry) :
    (log.map Effect.log).filterMap Effect.published? = [] := by
  simp [List.filterMap_map, Function.comp_def]

namespace Scheduler

variable {scheduler : Scheduler}

/-- The state to which `launch` leads and the builds that it starts: none because none is wanted
or can be started, none because there is no project, or the one that is wanted. -/
inductive Launches (scheduler : Scheduler) : Scheduler → List Build → Prop
  | held : (scheduler.wantsBuild = true → scheduler.running.isSome = true) →
      Launches scheduler scheduler []
  | skipped : scheduler.wantsBuild = true → scheduler.running = none →
      scheduler.canBuild = false →
      Launches scheduler { scheduler with wantsBuild := false } []
  | started {plan} : scheduler.wantsBuild = true → scheduler.running = none →
      scheduler.plan? = some plan →
      Launches scheduler
        { scheduler with
          wantsBuild := false
          reloadPending := false
          running := some ⟨⟨scheduler.builds, scheduler.compiler, plan⟩, false⟩
          builds := scheduler.builds + 1 }
        [⟨scheduler.builds, scheduler.compiler, plan⟩]

theorem plan?_eq_none_iff : scheduler.plan? = none ↔ scheduler.canBuild = false := by
  unfold plan? canBuild
  cases scheduler.reloadPending <;> cases scheduler.project <;> simp

theorem launches (scheduler : Scheduler) :
    Launches scheduler scheduler.launch.1 (scheduler.launch.2.filterMap Effect.started?) := by
  unfold launch
  by_cases free : scheduler.wantsBuild && scheduler.running.isNone
  · rw [if_pos free]
    simp only [Bool.and_eq_true, Option.isNone_iff_eq_none] at free
    split
    · exact .skipped free.1 free.2 (plan?_eq_none_iff.mp ‹_›)
    · exact .started free.1 free.2 ‹_›
  · rw [if_neg free]
    refine .held fun wanted => ?_
    simpa [wanted, Option.isSome_iff_ne_none] using free

theorem launch_project (scheduler : Scheduler) :
    scheduler.launch.1.project = scheduler.project := by
  unfold launch
  split
  · split <;> rfl
  · rfl

def IsSettled (scheduler : Scheduler) : Prop :=
  scheduler.wantsBuild = true → scheduler.running.isSome = true

theorem launch_of_settled (settled : scheduler.IsSettled) :
    scheduler.launch = (scheduler, []) := by
  unfold launch
  rw [if_neg]
  simp only [Bool.and_eq_true, not_and]
  intro wanted
  simpa [Option.isSome_iff_ne_none] using settled wanted

theorem launch_of_unwanted (unwanted : scheduler.wantsBuild = false) :
    scheduler.launch = (scheduler, []) :=
  launch_of_settled fun wanted => by simp [unwanted] at wanted

theorem launch_isSettled (scheduler : Scheduler) : scheduler.launch.1.IsSettled := by
  generalize scheduler.launch.2.filterMap Effect.started? = new, scheduler.launch.1 = next,
    scheduler.launches = launched
  cases launched with
  | held settled => exact settled
  | skipped | started => exact nofun

theorem launch_published (scheduler : Scheduler) :
    scheduler.launch.2.filterMap Effect.published? = [] := by
  unfold launch
  split
  · split <;> rfl
  · rfl

@[simp] theorem thenLaunch_published (decided : Scheduler × List Effect) :
    (thenLaunch decided).2.filterMap Effect.published? =
      decided.2.filterMap Effect.published? := by
  simp [thenLaunch, launch_published]

theorem thenLaunch_fst (decided : Scheduler × List Effect) :
    (thenLaunch decided).1 = decided.1.launch.1 := rfl

theorem thenLaunch_started {decided : Scheduler × List Effect}
    (none : decided.2.filterMap Effect.started? = []) :
    (thenLaunch decided).2.filterMap Effect.started? =
      decided.1.launch.2.filterMap Effect.started? := by
  simp [thenLaunch, none]

@[simp] theorem onChange_started (scheduler : Scheduler) (now : Time) (change : Change) :
    (scheduler.onChange now change).2.filterMap Effect.started? = [] := by
  cases change with
  | source | music => rfl
  | config =>
      simp only [onChange, onConfigChange, cancelRunning]
      cases scheduler.running <;> rfl

theorem onChange_published (scheduler : Scheduler) (now : Time) (change : Change) :
    (scheduler.onChange now change).2.filterMap Effect.published? =
      if change = .config then [.loading] else [] := by
  cases change with
  | source | music => rfl
  | config =>
      simp only [onChange, onConfigChange, cancelRunning]
      cases scheduler.running <;> rfl

theorem onChange_frame {change : Change} (other : change ≠ .config) (scheduler : Scheduler)
    (now : Time) : ∃ delay, (scheduler.onChange now change).1 = { scheduler with delay } := by
  cases change with
  | config => exact absurd rfl other
  | source | music =>
      simp only [onChange]
      split
      · exact ⟨_, rfl⟩
      · exact ⟨scheduler.delay, rfl⟩

theorem IsSettled.onChange (settled : scheduler.IsSettled) (now : Time) (change : Change) :
    (scheduler.onChange now change).1.IsSettled := by
  by_cases config : change = .config
  · subst change
    exact nofun
  · obtain ⟨delay, same⟩ := onChange_frame config scheduler now
    rw [same]
    exact settled

@[simp] theorem onChange_project (scheduler : Scheduler) (now : Time) (change : Change) :
    (scheduler.onChange now change).1.project = scheduler.project := by
  by_cases config : change = .config
  · subst change
    rfl
  · obtain ⟨delay, same⟩ := onChange_frame config scheduler now
    rw [same]

theorem onWake_frame (scheduler : Scheduler) (now : Time) :
    ∃ delay wantsBuild, scheduler.onWake now = { scheduler with delay, wantsBuild } := by
  unfold onWake
  split
  · exact ⟨_, _, rfl⟩
  · exact ⟨_, scheduler.wantsBuild, rfl⟩

def isFatalEnd : Except String BuildOutcome → Bool
  | .ok outcome => outcome.isFatal
  | .error _ => false

def reloadedAtEnd : Except String BuildOutcome → Option (Option Project)
  | .ok outcome => outcome.reloaded
  | .error _ => none

@[simp] theorem onWake_project (scheduler : Scheduler) (now : Time) :
    (scheduler.onWake now).project = scheduler.project := by
  obtain ⟨delay, wantsBuild, same⟩ := scheduler.onWake_frame now
  rw [same]

theorem onFinished_fst (scheduler : Scheduler) (result : Except String BuildOutcome) :
    (scheduler.onFinished result).1 =
      { scheduler with
        running := none
        compiler :=
          if isFatalEnd result then scheduler.compiler + 1 else scheduler.compiler }.adopt
        (if scheduler.running.any RunningBuild.isCancelled then none
        else reloadedAtEnd result) := by
  cases result with
  | error message => simp [onFinished, isFatalEnd, reloadedAtEnd, adopt]
  | ok outcome =>
      by_cases fatal : outcome.isFatal = true <;>
        by_cases stale : scheduler.running.any RunningBuild.isCancelled = true <;>
        simp [onFinished, onOutcome, replaceCompiler, isFatalEnd, reloadedAtEnd, adopt, fatal,
          stale]

theorem onFinished_frame (scheduler : Scheduler) (result : Except String BuildOutcome) :
    ∃ project sourceDir compiler, (scheduler.onFinished result).1 =
      { scheduler with running := none, project, sourceDir, compiler } := by
  rw [onFinished_fst]
  generalize (if scheduler.running.any RunningBuild.isCancelled then none
    else reloadedAtEnd result) = reloaded
  cases reloaded with
  | none => exact ⟨_, _, _, rfl⟩
  | some project => exact ⟨_, _, _, rfl⟩

@[simp] theorem onFinished_running (scheduler : Scheduler) (result : Except String BuildOutcome) :
    (scheduler.onFinished result).1.running = none := by
  obtain ⟨project, sourceDir, compiler, same⟩ := scheduler.onFinished_frame result
  rw [same]

@[simp] theorem adopt_compiler (scheduler : Scheduler) (reloaded : Option (Option Project)) :
    (scheduler.adopt reloaded).compiler = scheduler.compiler := by
  cases reloaded <;> rfl

@[simp] theorem onFinished_compiler (scheduler : Scheduler) (result : Except String BuildOutcome) :
    (scheduler.onFinished result).1.compiler =
      if isFatalEnd result then scheduler.compiler + 1 else scheduler.compiler := by
  rw [onFinished_fst, adopt_compiler]

theorem adopt_project (scheduler : Scheduler) (reloaded : Option (Option Project)) :
    (scheduler.adopt reloaded).project = reloaded.getD scheduler.project := by
  cases reloaded <;> rfl

theorem onFinished_project (scheduler : Scheduler) (result : Except String BuildOutcome) :
    (scheduler.onFinished result).1.project =
      (if scheduler.running.any RunningBuild.isCancelled then none
      else reloadedAtEnd result).getD scheduler.project := by
  rw [onFinished_fst, adopt_project]

@[simp] theorem onFinished_started (scheduler : Scheduler) (result : Except String BuildOutcome) :
    (scheduler.onFinished result).2.filterMap Effect.started? = [] := by
  cases result with
  | error message =>
      simp only [onFinished, onCrash]
      split <;> rfl
  | ok outcome =>
      simp only [onFinished, onOutcome, replaceCompiler]
      cases outcome.isFatal <;> split <;> rfl

def shownResult : Except String BuildOutcome → BuildState
  | .ok outcome => outcome.state
  | .error message => .plainFailure (BuildOutcome.crashMessage message) none

theorem onFinished_published (scheduler : Scheduler) (result : Except String BuildOutcome) :
    (scheduler.onFinished result).2.filterMap Effect.published? =
      if scheduler.running.any RunningBuild.isCancelled then [] else [shownResult result] := by
  cases result with
  | error message =>
      simp only [onFinished, onCrash]
      split <;> rfl
  | ok outcome =>
      simp only [onFinished, onOutcome, replaceCompiler]
      cases outcome.isFatal <;> split <;> rfl

@[simp] theorem stop_started (scheduler : Scheduler) :
    scheduler.stop.2.filterMap Effect.started? = [] := by
  unfold stop
  cases scheduler.running <;> rfl

@[simp] theorem stop_published (scheduler : Scheduler) :
    scheduler.stop.2.filterMap Effect.published? = [] := by
  unfold stop
  cases scheduler.running <;> rfl

@[simp] theorem leave_started (scheduler : Scheduler) :
    scheduler.leave.2.filterMap Effect.started? = [] := by
  unfold leave
  split <;> rfl

@[simp] theorem leave_published (scheduler : Scheduler) :
    scheduler.leave.2.filterMap Effect.published? = [] := by
  unfold leave
  split <;> rfl

end Scheduler

end BuildWatch
