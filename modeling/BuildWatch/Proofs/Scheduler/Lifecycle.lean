import BuildWatch.Proofs.Scheduler.Closing
import BuildWatch.Proofs.Scheduler.Snapshot

/-!
The compilers while builds work with them. A compiler that has failed is replaced when the loop
takes in the end of the build that it failed, whether or not somebody still waits for that build.
Until then nothing is started, so no build works with a compiler that has failed or was closed, and
once the loop has ended every compiler is closed once.
-/

namespace BuildWatch

def ClientUse.isFatal : ClientUse → Bool
  | answered (.error error) => error.isFatal
  | closed => true
  | answered (.ok _) | crashed _ => false

def Turn.failed? (turn : Turn) : Option Nat :=
  match turn.action, turn.actor? with
  | some (.answer _ use), some task => if use.isFatal then some task.build.compiler else none
  | _, _ => none

def failedIn (turns : List Turn) : List Nat := turns.filterMap Turn.failed?

theorem failedIn_append_singleton (turns : List Turn) (turn : Turn) :
    failedIn (turns ++ [turn]) = failedIn turns ++ turn.failed?.toList := by
  rw [failedIn, List.filterMap_append]
  cases failed : turn.failed? <;> simp [failedIn, failed]

theorem ClientUse.isFatalResult_eq {use : ClientUse} {result : Except CompileError Compiled}
    (outcome : use.result = .compiled result) :
    BuildOutcome.isFatalResult result = use.isFatal := by
  cases use with
  | closed | crashed => simp [ClientUse.result] at outcome
  | answered answer =>
      obtain rfl := ClientResult.compiled.inj outcome
      cases answer with
      | error error => rfl
      | ok response =>
          simp only [conclude]
          cases response.finish <;> rfl

theorem Scheduler.onChange_isSome (scheduler : Scheduler) (now : Time) (change : Change) :
    (scheduler.onChange now change).1.running.isSome = scheduler.running.isSome := by
  by_cases config : change = .config
  · subst change
    simp [onChange, onConfigChange, rearm]
  · obtain ⟨delay, same⟩ := onChange_frame config scheduler now
    rw [same]

/-- The compiler has failed the running build and the loop has not taken it in, or it never
will. -/
structure Spent (system : BuildSystem) : Prop where
  ended : ∀ task ∈ system.tasks, ∃ result, task.stage = .finished result ∧
    Scheduler.isFatalEnd result = true
  held : system.scheduler.running.isSome = true ∨ system.stage = .stopped

namespace Spent

variable {system : BuildSystem} {action : BuildAction} {moved : BuildSystem × List Effect}

theorem waits (spent : Spent system) (running : system.stage = .running) :
    system.scheduler.running.isSome = true :=
  spent.held.resolve_right (by simp [running])

theorem adopt {decided : Scheduler × List Effect} (spent : Spent system)
    (none : decided.2.filterMap Effect.started? = [])
    (held : decided.1.running.isSome = true ∨ system.stage = .stopped) :
    Spent (system.adopt decided).1 := by
  refine ⟨fun task member => ?_, by simpa using held⟩
  cases Descends.of_adopt member with
  | kept among build stage => rw [stage]; exact spent.ended _ among
  | begun start =>
      have started : task.build ∈ decided.2.filterMap Effect.started? :=
        List.mem_filterMap.mpr ⟨_, start, rfl⟩
      simp [none] at started

theorem goOn {decided : Scheduler × List Effect} (spent : Spent system)
    (none : decided.2.filterMap Effect.started? = [])
    (waiting : decided.1.running.isSome = true) : Spent (system.goOn decided).1 := by
  rw [BuildSystem.goOn, Scheduler.thenLaunch_of_running waiting]
  exact spent.adopt none (.inl waiting)

theorem step (spent : Spent system)
    (possible : system.step? action = some moved) :
    system.scheduler.compiler < moved.1.scheduler.compiler ∨
      moved.1.scheduler.compiler = system.scheduler.compiler ∧ Spent moved.1 := by
  cases BuildSystem.happens_of_step? possible with
  | passed | edited | closed => exact .inr ⟨rfl, spent.ended, spent.held⟩
  | progressed acting found progress =>
      obtain ⟨result, finished, -⟩ := spent.ended _ (List.mem_of_find?_eq_some found)
      have going := unfinished_of_progress progress
      simp [finished, TaskStage.isFinished] at going
  | unwound found =>
      rw [BuildSystem.release_eq]
      exact .inr ⟨rfl, fun task member => spent.ended task (List.mem_of_mem_filter member),
        spent.held⟩
  | changed running =>
      refine .inr ⟨?_, spent.goOn (Scheduler.onChange_started ..)
        ((Scheduler.onChange_isSome ..).trans (spent.waits running))⟩
      rw [BuildSystem.goOn, BuildSystem.adopt_scheduler, Scheduler.thenLaunch_compiler,
        Scheduler.onChange_compiler]
  | woken running =>
      obtain ⟨delay, wantsBuild, same⟩ := system.scheduler.onWake_frame system.now
      refine .inr ⟨?_, spent.goOn rfl (by rw [same]; exact spent.waits running)⟩
      rw [BuildSystem.goOn, BuildSystem.adopt_scheduler, Scheduler.thenLaunch_compiler,
        Scheduler.onWake_compiler]
  | finished running ended =>
      obtain ⟨waiting, task, -, -, found, finished⟩ := system.finished_of_result? ended
      obtain ⟨result, same, fatal⟩ := spent.ended task (List.mem_of_find?_eq_some found)
      obtain rfl := TaskStage.finished.inj (finished.symm.trans same)
      refine .inl ?_
      rw [BuildSystem.goOn, BuildSystem.adopt_scheduler, Scheduler.thenLaunch_compiler,
        Scheduler.onFinished_compiler, if_pos fatal]
      exact Nat.lt_succ_self _
  | stopped running =>
      have waiting := spent.waits running
      have stopping : Spent { system with stage := .stopping } := ⟨spent.ended, .inl waiting⟩
      refine .inr ⟨by rw [BuildSystem.adopt_scheduler]; rfl,
        stopping.adopt (Scheduler.stop_started _) (.inl ?_)⟩
      simpa [Scheduler.stop] using waiting
  | left =>
      have stopped : Spent { system with stage := .stopped } := ⟨spent.ended, .inr rfl⟩
      exact .inr ⟨by rw [BuildSystem.adopt_scheduler]; rfl,
        stopped.adopt (Scheduler.leave_started _) (.inr rfl)⟩

theorem of_failed? {compiler : Nat} (coherent : Coherent system)
    (possible : system.step? action = some moved)
    (failed : Turn.failed? ⟨system, some action, moved.2, moved.1⟩ = some compiler) :
    compiler = moved.1.scheduler.compiler ∧ Spent moved.1 := by
  unfold Turn.failed? at failed
  split at failed
  · rename_i number use actor acted acting
    obtain ⟨fatal, same⟩ := Option.ite_none_right_eq_some.mp failed
    obtain rfl := Option.some.inj same
    obtain rfl := Option.some.inj acted
    cases BuildSystem.happens_of_step? possible with
    | @progressed _ _ task stage compilers log build found progress =>
        obtain rfl := Option.some.inj build
        obtain rfl : task = actor := Option.some.inj (found.symm.trans acting)
        obtain ⟨tasks, -⟩ := coherent.tasks_of_task? found
        have owned := coherent.owned task (by simp [tasks])
        have fatalEnd : ∃ result, stage = .finished result ∧
            Scheduler.isFatalEnd result = true := by
          cases progress with
          | answered reached outcome =>
              exact ⟨_, rfl, (ClientUse.isFatalResult_eq outcome).trans fatal⟩
          | closed => exact ⟨_, rfl, rfl⟩
          | broken reached outcome =>
              cases use <;> simp [ClientUse.result, ClientUse.isFatal] at outcome fatal
        refine ⟨coherent.current _ owned, fun moved member => ?_, .inl ?_⟩
        · have same : moved = { task with stage } := by
            simpa [BuildSystem.advanced, BuildSystem.setStage, BuildSystem.mapTask, tasks]
              using member
          rw [same]
          exact fatalEnd
        · exact Option.isSome_iff_exists.mpr ⟨_, owned⟩
  · simp at failed

end Spent

theorem BuildSystem.compiler_le_of_step? {system : BuildSystem} {action : BuildAction}
    {moved : BuildSystem × List Effect} (possible : system.step? action = some moved) :
    system.scheduler.compiler ≤ moved.1.scheduler.compiler := by
  obtain ⟨stage, decided, reaction, -, same, -⟩ := reaction_of_step? possible
  rw [same]
  cases reaction with
  | quiet => exact Nat.le_refl _
  | changed => rw [Scheduler.thenLaunch_compiler, Scheduler.onChange_compiler]
  | woken => rw [Scheduler.thenLaunch_compiler, Scheduler.onWake_compiler]
  | finished =>
      rw [Scheduler.thenLaunch_compiler, Scheduler.onFinished_compiler]
      split
      · exact Nat.le_succ _
      · exact Nat.le_refl _
  | stopped | left => exact Nat.le_refl _

theorem BuildSystem.start_mem_goOn {system : BuildSystem} {decided : Scheduler × List Effect}
    {build : Build} (none : decided.2.filterMap Effect.started? = [])
    (started : build ∈ (system.goOn decided).2.filterMap Effect.started?) :
    .start build ∈ (system.goOn decided).1.tasks := by
  have launched : build ∈ decided.1.launch.2.filterMap Effect.started? := by
    rwa [goOn, adopt, Scheduler.thenLaunch_started none] at started
  rw [goOn_fst]
  revert launched
  unfold Scheduler.launch
  split
  · split
    · simp [Scheduler.debug]
    · rename_i plan _
      intro launched
      obtain rfl : (⟨decided.1.builds, decided.1.compiler, plan⟩ : Build) = build := by
        simpa [Scheduler.startNotice, Scheduler.debug] using launched
      simp [adopt, perform, Scheduler.startNotice, Scheduler.debug]
  · simp

namespace BuildRun

variable {tree : FileTree} {source : ProjectSource} {debounce : Time}
  {turns earlier later : List Turn} {system : BuildSystem} {turn : Turn} {build : Build}

theorem failed_cases {compiler : Nat}
    (run : BuildRun (.create tree source debounce) turns system)
    (failed : compiler ∈ failedIn turns) :
    compiler < system.scheduler.compiler ∨
      compiler = system.scheduler.compiler ∧ Spent system := by
  induction run with
  | begin => simp [failedIn, Turn.failed?, BuildSystem.opening] at failed
  | @step turns before action moved run possible ih =>
      rw [failedIn_append_singleton, List.mem_append, Option.mem_toList] at failed
      rcases failed with past | now
      · rcases ih past with lower | ⟨rfl, spent⟩
        · exact .inl (lower.trans_le (BuildSystem.compiler_le_of_step? possible))
        · rcases spent.step possible with replaced | ⟨same, still⟩
          · exact .inl replaced
          · exact .inr ⟨same.symm, still⟩
      · exact .inr (Spent.of_failed? run.coherent possible now)

theorem tasks_of_stopped (run : BuildRun (.create tree source debounce) turns system)
    (stopped : system.stage = .stopped) : system.tasks = [] :=
  run.coherent.idle (run.sequential.left stopped)

theorem healthy {task : BuildTask}
    (run : BuildRun (.create tree source debounce) turns system) (member : task ∈ system.tasks)
    (going : task.stage.isFinished = false) :
    task.build.compiler ∉ failedIn turns ∧ task.build.compiler ∉ closedIn turns := by
  have current : task.build.compiler = system.scheduler.compiler :=
    run.coherent.current _ (run.coherent.owned task member)
  rw [current]
  refine ⟨fun failed => ?_, fun closed => ?_⟩
  · rcases run.failed_cases failed with lower | ⟨-, spent⟩
    · exact Nat.lt_irrefl _ lower
    · obtain ⟨result, finished, -⟩ := spent.ended task member
      simp [finished, TaskStage.isFinished] at going
  · have live : system.stage ≠ .stopped := fun stopped => by
      simp [run.tasks_of_stopped stopped] at member
    simp [run.closedIn_eq_range, live] at closed

theorem start_mem_after (run : BuildRun (.create tree source debounce) (earlier ++ [turn]) system)
    (started : build ∈ turn.started) : .start build ∈ system.tasks := by
  by_cases first : earlier = []
  · subst first
    generalize whole : [] ++ [turn] = turns at run
    cases run with
    | begin =>
        obtain rfl := List.singleton_inj.mp whole
        exact BuildSystem.start_mem_goOn rfl started
    | step run =>
        obtain ⟨none, -⟩ := List.append_inj' whole rfl
        exact absurd none.symm run.nonempty
  · obtain ⟨before, action, moved, past, possible, rfl, rfl⟩ := run.last first
    cases BuildSystem.happens_of_step? possible with
    | passed | edited | closed | unwound => simp [Turn.started] at started
    | progressed => simp [Turn.started] at started
    | changed => exact BuildSystem.start_mem_goOn (Scheduler.onChange_started ..) started
    | woken => exact BuildSystem.start_mem_goOn rfl started
    | finished => exact BuildSystem.start_mem_goOn (Scheduler.onFinished_started ..) started
    | stopped =>
        rw [Turn.started, BuildSystem.adopt, Scheduler.stop_started] at started
        simp at started
    | left =>
        rw [Turn.started, BuildSystem.adopt, Scheduler.leave_started] at started
        simp at started

theorem silent_of_stop
    (run : BuildRun (.create tree source debounce) (earlier ++ turn :: later) system)
    (stop : turn.action = some .stop) :
    (∀ after ∈ later, after.published = []) ∧ system.stage ≠ .running := by
  refine run.since (fun between reached =>
    (∀ after ∈ between, after.published = []) ∧ reached.stage ≠ .running) stop ?_ ?_
  · intro reached moved past possible same
    obtain ⟨stage, decided, reaction, after, -⟩ := BuildSystem.reaction_of_step? possible
    cases reaction with
    | quiet aside => simp [BuildAction.isOfLoop] at aside
    | stopped => simp [after]
  · rintro between reached action moved past ⟨silent, ending⟩ possible
    obtain ⟨stage, decided, reaction, after, -, effects⟩ :=
      BuildSystem.reaction_of_step? possible
    have none : decided.2.filterMap Effect.published? = [] ∧ stage ≠ .running := by
      cases reaction with
      | quiet => exact ⟨filterMap_published_log _, ending⟩
      | changed running | woken running | finished running | stopped running =>
          exact absurd running ending
      | left => exact ⟨Scheduler.leave_published _, by simp⟩
    refine ⟨fun turn member => ?_, after ▸ none.2⟩
    rcases List.mem_append.mp member with past | last
    · exact silent turn past
    · rw [List.mem_singleton.mp last, Turn.published, effects]
      exact none.1

theorem published_stop
    (run : BuildRun (.create tree source debounce) (earlier ++ turn :: later) system)
    (stop : turn.action = some .stop) : turn.published = [] := by
  rcases run.turn_cases with ⟨-, rfl⟩ | ⟨before, action, moved, past, possible, rfl⟩
  · simp [BuildSystem.opening] at stop
  · obtain rfl := Option.some.inj stop
    obtain ⟨stage, decided, reaction, -, -, effects⟩ := BuildSystem.reaction_of_step? possible
    rw [Turn.published, effects]
    cases reaction with
    | quiet aside => simp [BuildAction.isOfLoop] at aside
    | stopped => exact Scheduler.stop_published _

theorem close_possible {state : CompilerInstance} {compiler : Nat}
    (run : BuildRun (.create tree source debounce) turns system)
    (stopped : system.stage = .stopped) (found : system.compilers[compiler]? = some state)
    (pending : 0 < state.pendingCloses) : (system.step? (.close compiler)).isSome = true := by
  have free : state.isBusy = false := by
    have idle := (run.coherent.busy compiler).not.mpr (by simp [run.tasks_of_stopped stopped])
    simpa [BuildSystem.isBusy, found] using idle
  simp [BuildSystem.step?, BuildSystem.closeStep?, found, pending, free]

theorem closes_of_stopped {state : CompilerInstance}
    (run : BuildRun (.create tree source debounce) turns system)
    (stopped : system.stage = .stopped) (member : state ∈ system.compilers) :
    state.pendingCloses + state.closes = 1 := by
  have once : state.closings ∈ system.closings := List.mem_map_of_mem member
  rw [run.closings_eq, if_pos stopped, ← List.replicate_succ'] at once
  exact List.eq_of_mem_replicate once

/-- No build is started with a compiler that has failed or was closed, and none asks one. Nothing
is shown from the turn on in which the loop is told to end. When it has ended, no task is left,
every compiler that was made has been told once to close and can do so, and once all have done so
each has been closed once. -/
theorem compilers_retired (run : BuildRun (.create tree source debounce) turns system) :
    (∀ earlier turn later, turns = earlier ++ turn :: later →
      (∀ build ∈ turn.started, build.compiler ∉ failedIn earlier ∧
        build.compiler ∉ closedIn (earlier ++ [turn])) ∧
      (∀ build project request, turn.asked? = some (build, project, request) →
        build.compiler ∉ failedIn earlier ∧ build.compiler ∉ closedIn earlier) ∧
      (turn.action = some .stop → ∀ late ∈ turn :: later, late.published = [])) ∧
    (system.stage = .stopped →
      system.tasks = [] ∧
      closedIn turns = 0 :: madeIn turns ∧
      0 :: madeIn turns = List.range system.compilers.length ∧
      (∀ compiler state, system.compilers[compiler]? = some state → 0 < state.pendingCloses →
        (system.step? (.close compiler)).isSome = true) ∧
      ((∀ state ∈ system.compilers, state.pendingCloses = 0) →
        ∀ state ∈ system.compilers, state.closes = 1)) := by
  refine ⟨?_, fun stopped => ?_⟩
  · rintro earlier turn later rfl
    refine ⟨fun build started => ?_, fun build project request asked => ?_, fun stop => ?_⟩
    · have begun := run
      rw [List.append_cons] at begun
      obtain ⟨reached, begun⟩ := begun.earlierRun (by simp)
      obtain ⟨sound, opened⟩ := begun.healthy (begun.start_mem_after started) rfl
      rw [failedIn_append_singleton] at sound
      exact ⟨fun failed => sound (List.mem_append_left _ failed), opened⟩
    · obtain ⟨isAborted, acting⟩ := Turn.actor?_of_asked? asked
      rcases run.turn_cases with ⟨-, rfl⟩ | ⟨before, action, moved, past, possible, rfl⟩
      · simp [Turn.actor?, BuildSystem.opening] at acting
      · exact past.healthy (BuildSystem.mem_of_actor? acting) rfl
    · rintro late (_ | ⟨_, member⟩)
      · exact run.published_stop stop
      · exact (run.silent_of_stop stop).1 late member
  · have closed := run.closedIn_eq_range
    rw [if_pos stopped, ← List.range_succ] at closed
    refine ⟨run.tasks_of_stopped stopped, closed.trans run.made_eq_range.symm, ?_,
      fun compiler state => run.close_possible stopped, fun done state member => ?_⟩
    · rw [run.made_eq_range, run.coherent.made]
    · have once := run.closes_of_stopped stopped member
      rw [done state member] at once
      omega

/-- The first compiler fails a build that was cancelled, and the loop is told to end while the
second one compiles. -/
def replacedCompiler : List Turn × BuildSystem :=
  BuildSystem.sample.attempt
    [.load 0, .list 0, .ask 0, .change .config,
      .answer 0 (.answered (.error (.transport .closed))), .finish, .pass 500, .wake, .load 1,
      .list 1, .ask 1, .stop, .unwind 1, .leave, .close 0, .close 1]

theorem compilers_retired_replaced : ∃ turn,
    let earlier := replacedCompiler.1.take 8
    (BuildRun .sample (earlier ++ turn :: replacedCompiler.1.drop 9) replacedCompiler.2 ∧
      turn.started.map Build.compiler = [1] ∧ failedIn earlier = [0] ∧
      replacedCompiler.2.stage = .stopped ∧
      ∀ state ∈ replacedCompiler.2.compilers, state.pendingCloses = 0) ∧
    (∀ build ∈ turn.started, build.compiler ∉ failedIn earlier ∧
      build.compiler ∉ closedIn (earlier ++ [turn])) ∧
    replacedCompiler.2.tasks = [] ∧
    0 :: madeIn (earlier ++ turn :: replacedCompiler.1.drop 9) =
      List.range replacedCompiler.2.compilers.length ∧
    ∀ state ∈ replacedCompiler.2.compilers, state.closes = 1 := by
  obtain ⟨turn, found, started⟩ := Option.map_eq_some_iff.mp
    (show replacedCompiler.1[8]?.map (fun turn => turn.started.map Build.compiler) = some [1] by
      cbv)
  have run : BuildRun .sample
      (replacedCompiler.1.take 8 ++ turn :: replacedCompiler.1.drop 9) replacedCompiler.2 := by
    rw [take_cons_drop found]
    exact .attempt BuildSystem.sample _
  have stopped : replacedCompiler.2.stage = .stopped := by cbv
  have done : ∀ state ∈ replacedCompiler.2.compilers, state.pendingCloses = 0 := by
    have none : replacedCompiler.2.compilers.all (fun state => state.pendingCloses = 0) = true := by
      cbv
    simpa using none
  obtain ⟨each, ended⟩ := compilers_retired run
  obtain ⟨gone, -, made, -, once⟩ := ended stopped
  exact ⟨turn, ⟨run, started, by cbv, stopped, done⟩, (each _ turn _ rfl).1, gone, made, once done⟩

end BuildRun

end BuildWatch
