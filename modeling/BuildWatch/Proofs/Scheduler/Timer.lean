import BuildWatch.Proofs.Scheduler.Rebuild

/-!
The time of the build loop. It passes in one kind of action only; the others take none. The timer
is asked by every change of the project file and by every other change that comes while the loop
can build, and whatever the loop takes in, it does one of a few things with its timer.
-/

namespace BuildWatch

def BuildAction.elapsed : BuildAction → Time
  | pass time => time
  | _ => 0

namespace BuildSystem

theorem foldl_perform_now (effects : List Effect) (system : BuildSystem) :
    (effects.foldl perform system).now = system.now := by
  induction effects generalizing system with
  | nil => rfl
  | cons effect rest ih =>
      rw [List.foldl_cons, ih]
      cases effect <;> rfl

theorem now_of_step? {system : BuildSystem} {action : BuildAction}
    {moved : BuildSystem × List Effect} (possible : system.step? action = some moved) :
    moved.1.now = system.now + action.elapsed := by
  cases happens_of_step? possible with
  | passed | edited | closed => rfl
  | progressed _ _ progress => cases progress <;> rfl
  | @unwound _ task =>
      change (system.release task).now = system.now
      rw [release_eq]
  | changed | woken | finished | stopped | left => exact foldl_perform_now ..

end BuildSystem

namespace Scheduler

theorem launch_debounce (scheduler : Scheduler) :
    scheduler.launch.1.debounce = scheduler.debounce := by
  generalize scheduler.launch.2.filterMap Effect.started? = new, scheduler.launch.1 = next,
    scheduler.launches = launched
  cases launched <;> rfl

theorem launch_delay (scheduler : Scheduler) : scheduler.launch.1.delay = scheduler.delay := by
  generalize scheduler.launch.2.filterMap Effect.started? = new, scheduler.launch.1 = next,
    scheduler.launches = launched
  cases launched <;> rfl

theorem onChange_debounce (scheduler : Scheduler) (now : Time) (change : Change) :
    (scheduler.onChange now change).1.debounce = scheduler.debounce := by
  by_cases config : change = .config
  · subst change
    rfl
  · obtain ⟨delay, same⟩ := onChange_frame config scheduler now
    rw [same]

theorem onChange_free {scheduler : Scheduler} (free : scheduler.running = none) (now : Time)
    (change : Change) : (scheduler.onChange now change).1.running = none := by
  by_cases config : change = .config
  · subst change
    exact congrArg (Option.map RunningBuild.cancel) free
  · obtain ⟨delay, same⟩ := onChange_frame config scheduler now
    rw [same, free]

theorem onWake_debounce (scheduler : Scheduler) (now : Time) :
    (scheduler.onWake now).debounce = scheduler.debounce := by
  obtain ⟨delay, wantsBuild, same⟩ := scheduler.onWake_frame now
  rw [same]

theorem onFinished_debounce (scheduler : Scheduler) (result : Except String BuildOutcome) :
    (scheduler.onFinished result).1.debounce = scheduler.debounce := by
  obtain ⟨project, sourceDir, compiler, same⟩ := scheduler.onFinished_frame result
  rw [same]

theorem onWake_moves {scheduler : Scheduler} {now : Time} (wait : Time)
    (woke : scheduler.delay.isDue now = true) :
    Delay.Moves now wait scheduler.canBuild scheduler.delay scheduler.wantsBuild false
      (scheduler.onWake now).delay (scheduler.onWake now).wantsBuild := by
  unfold onWake
  split
  · cases accepted : (scheduler.delay.onWake now).2 with
    | true =>
        simp only [accepted, Bool.or_true]
        exact .accepted woke accepted
    | false =>
        simp only [accepted, Bool.or_false]
        exact .postponed woke accepted
  · rename_i deaf
    exact .ignored (by simpa using deaf) woke

end Scheduler

namespace Turn

def asksTimer (turn : Turn) : Bool :=
  match turn.action with
  | some (.change change) => change = .config || turn.before.scheduler.canBuild
  | _ => false

theorem asksTimer_of_aside {action : BuildAction} (aside : action.isOfLoop = false)
    (before : BuildSystem) (effects : List Effect) (after : BuildSystem) :
    asksTimer ⟨before, some action, effects, after⟩ = false := by
  cases action <;> first | rfl | simp [BuildAction.isOfLoop] at aside

theorem elapsed_of_asksTimer {before after : BuildSystem} {action : BuildAction}
    {effects : List Effect} (asks : asksTimer ⟨before, some action, effects, after⟩ = true) :
    action.elapsed = 0 := by
  cases action <;> first | rfl | simp [asksTimer] at asks

end Turn

def askedTimes (turns : List Turn) : List Time :=
  (turns.filter Turn.asksTimer).map fun turn => turn.before.now

def startTimes (turns : List Turn) : List Time :=
  turns.flatMap fun turn => turn.started.map fun _ => turn.before.now

theorem askedTimes_append_singleton (turns : List Turn) (turn : Turn) :
    askedTimes (turns ++ [turn]) =
      askedTimes turns ++ if turn.asksTimer then [turn.before.now] else [] := by
  rw [askedTimes, List.filter_append, List.map_append]
  cases asks : turn.asksTimer <;> simp [askedTimes, asks]

theorem startTimes_append_singleton (turns : List Turn) (turn : Turn) :
    startTimes (turns ++ [turn]) =
      startTimes turns ++ turn.started.map fun _ => turn.before.now := by
  simp [startTimes]

theorem Scheduler.onChange_moves (system : BuildSystem) (change : Change)
    (moved : BuildSystem × List Effect) :
    Delay.Moves system.now system.scheduler.debounce system.scheduler.canBuild
      system.scheduler.delay system.scheduler.wantsBuild
      (Turn.asksTimer ⟨system, some (.change change), moved.2, moved.1⟩)
      (system.scheduler.onChange system.now change).1.delay
      (system.scheduler.onChange system.now change).1.wantsBuild := by
  cases change with
  | config => exact .asked nofun
  | source | music =>
      simp only [Scheduler.onChange, Turn.asksTimer]
      cases can : system.scheduler.canBuild with
      | true => exact .asked id
      | false => exact .kept

namespace BuildRun

variable {tree : FileTree} {source : ProjectSource} {debounce : Time}
  {turns earlier later : List Turn} {system : BuildSystem} {action : BuildAction}
  {moved : BuildSystem × List Effect}

theorem debounce_eq {origin : BuildSystem} (run : BuildRun origin turns system) :
    system.scheduler.debounce = origin.scheduler.debounce := by
  induction run with
  | begin => rw [BuildSystem.begin_scheduler, Scheduler.launch_debounce]
  | step run possible ih =>
      obtain ⟨stage, decided, reaction, -, same, -⟩ := BuildSystem.reaction_of_step? possible
      rw [same]
      cases reaction with
      | quiet | stopped | left => exact ih
      | changed =>
          rw [Scheduler.thenLaunch_fst, Scheduler.launch_debounce, Scheduler.onChange_debounce, ih]
      | woken =>
          rw [Scheduler.thenLaunch_fst, Scheduler.launch_debounce, Scheduler.onWake_debounce, ih]
      | finished =>
          rw [Scheduler.thenLaunch_fst, Scheduler.launch_debounce, Scheduler.onFinished_debounce,
            ih]

theorem moves (run : BuildRun (.create tree source debounce) turns system)
    (possible : system.step? action = some moved) (running : moved.1.stage = .running) :
    ∃ decided : Scheduler,
      Delay.Moves system.now debounce system.scheduler.canBuild system.scheduler.delay
        system.scheduler.wantsBuild
        (Turn.asksTimer ⟨system, some action, moved.2, moved.1⟩)
        decided.delay decided.wantsBuild ∧
      moved.1.scheduler = decided.launch.1 ∧
      Turn.started ⟨system, some action, moved.2, moved.1⟩ =
        decided.launch.2.filterMap Effect.started? ∧
      (system.scheduler.running = none →
        decided.running = none ∧ decided.project = system.scheduler.project) := by
  obtain ⟨stage, decided, reaction, after, same, effects⟩ :=
    BuildSystem.reaction_of_step? possible
  cases reaction with
  | quiet aside =>
      have settled := run.isSettled (after.symm.trans running)
      refine ⟨system.scheduler, ?_, ?_, ?_, fun free => ⟨free, rfl⟩⟩
      · rw [Turn.asksTimer_of_aside aside]
        exact .kept
      · rw [same, Scheduler.launch_of_settled settled]
      · rw [Turn.started, effects, filterMap_started_log, Scheduler.launch_of_settled settled]
        rfl
  | @changed change =>
      refine ⟨_, ?_, same, ?_, fun free => ⟨?_, Scheduler.onChange_project ..⟩⟩
      · have moves := Scheduler.onChange_moves system change moved
        rwa [run.debounce_eq] at moves
      · rw [Turn.started, effects, Scheduler.thenLaunch_started (Scheduler.onChange_started ..)]
      · exact Scheduler.onChange_free free ..
  | woken loops due =>
      refine ⟨_, Scheduler.onWake_moves debounce due, same, ?_, fun free => ⟨?_, ?_⟩⟩
      · rw [Turn.started, effects, Scheduler.thenLaunch_started rfl]
      · obtain ⟨delay, wantsBuild, same⟩ := system.scheduler.onWake_frame system.now
        rw [same, free]
      · exact Scheduler.onWake_project ..
  | finished loops ended =>
      refine ⟨_, ?_, same, ?_, fun free => ?_⟩
      · obtain ⟨project, sourceDir, compiler, same⟩ := system.scheduler.onFinished_frame _
        rw [same]
        exact .kept
      · rw [Turn.started, effects, Scheduler.thenLaunch_started (Scheduler.onFinished_started ..)]
      · obtain ⟨build, -, waiting, -⟩ := system.finished_of_result? ended
        simp [free] at waiting
  | stopped | left => simp [after] at running

theorem started_of_not_running (possible : system.step? action = some moved)
    (ending : moved.1.stage ≠ .running) :
    Turn.started ⟨system, some action, moved.2, moved.1⟩ = [] := by
  obtain ⟨stage, decided, reaction, after, -, effects⟩ := BuildSystem.reaction_of_step? possible
  rw [Turn.started, effects]
  cases reaction with
  | quiet => exact filterMap_started_log _
  | changed | woken | finished => exact absurd after ending
  | stopped => exact Scheduler.stop_started _
  | left => exact Scheduler.leave_started _

theorem follows (run : BuildRun (.create tree source debounce) turns system)
    (running : system.stage = .running) :
    Delay.Follows debounce (askedTimes turns) system.now system.scheduler.delay := by
  induction run with
  | begin =>
      rw [BuildSystem.begin_scheduler, Scheduler.launch_delay]
      exact ⟨nofun, nofun⟩
  | step run possible ih =>
      obtain ⟨decided, moves, same, -, -⟩ := run.moves possible running
      have asked := (ih (BuildSystem.running_of_step? possible running)).moves moves
      rw [askedTimes_append_singleton, same, Scheduler.launch_delay,
        BuildSystem.now_of_step? possible]
      exact asked.later (Nat.le_add_right ..)

theorem timed (run : BuildRun (.create tree source debounce) turns system)
    (possible : system.step? action = some moved) (running : moved.1.stage = .running) :
    Delay.Turns system.now debounce system.scheduler.canBuild system.scheduler.delay
      system.scheduler.wantsBuild (Turn.asksTimer ⟨system, some action, moved.2, moved.1⟩)
      moved.1.scheduler.delay moved.1.scheduler.wantsBuild
      (Turn.started ⟨system, some action, moved.2, moved.1⟩) := by
  obtain ⟨decided, moves, same, new, -⟩ := run.moves possible running
  rw [same, Scheduler.launch_delay, new]
  refine ⟨decided.wantsBuild, moves, fun unwanted => ?_⟩
  rw [Scheduler.launch_of_unwanted unwanted]
  exact ⟨unwanted, rfl⟩

theorem held_back {change : Turn}
    (run : BuildRun (.create tree source debounce) (earlier ++ change :: later) system)
    (asks : change.asksTimer = true) (unwanted : change.after.scheduler.wantsBuild = false) :
    ∀ time ∈ startTimes later, change.before.now + debounce ≤ time := by
  obtain ⟨kind, acted⟩ : ∃ kind, change.action = some (.change kind) := by
    unfold Turn.asksTimer at asks
    split at asks
    · exact ⟨_, ‹_›⟩
    · simp at asks
  refine (run.since (fun between reached =>
    Delay.HeldBack (change.before.now + debounce) debounce reached.now (reached.stage = .running)
      reached.scheduler.delay reached.scheduler.wantsBuild (startTimes between)) acted ?_ ?_).late
  · rintro reached moved past possible rfl
    have passed := BuildSystem.now_of_step? possible
    refine unwanted ▸ .of_asked (passed ▸ Nat.le_add_right ..) fun running => ?_
    exact (past.timed possible running).waitsFor asks
  · intro between reached action moved past held possible
    have passed := BuildSystem.now_of_step? possible
    rw [startTimes_append_singleton]
    exact held.step (passed ▸ Nat.le_add_right ..)
      (fun running => ⟨BuildSystem.running_of_step? possible running, past.timed possible running⟩)
      (started_of_not_running possible)

end BuildRun

end BuildWatch
