import BuildWatch.Proofs.Scheduler.History

/-!
How often the compilers are closed. The first one is there from the start, and each further one is
made in the place of one that cannot be used any more, which is closed at once; the last one is
closed when the loop ends. So nothing is closed twice, and what was made is closed in the end.
-/

namespace BuildWatch

def Effect.made? : Effect → Option Nat
  | .make compiler => some compiler
  | _ => none

def Effect.closed? : Effect → Option Nat
  | .close compiler => some compiler
  | _ => none

def Effect.isOfCompiler : Effect → Bool
  | .make _ | .close _ => true
  | _ => false

def madeIn (turns : List Turn) : List Nat :=
  turns.flatMap fun turn => turn.effects.filterMap Effect.made?

def closedIn (turns : List Turn) : List Nat :=
  turns.flatMap fun turn => turn.effects.filterMap Effect.closed?

def handledIn (turns : List Turn) : List Effect :=
  turns.flatMap fun turn => turn.effects.filter Effect.isOfCompiler

def replacements (count : Nat) : List Effect :=
  (List.range count).flatMap fun compiler => [.make (compiler + 1), .close compiler]

theorem replacements_succ (count : Nat) :
    replacements (count + 1) = replacements count ++ [.make (count + 1), .close count] := by
  simp [replacements, List.range_succ]

@[simp] theorem handledIn_singleton (turn : Turn) :
    handledIn [turn] = turn.effects.filter Effect.isOfCompiler := by
  simp [handledIn]

theorem handledIn_append_singleton (turns : List Turn) (turn : Turn) :
    handledIn (turns ++ [turn]) = handledIn turns ++ turn.effects.filter Effect.isOfCompiler := by
  simp [handledIn]

theorem closedIn_eq (turns : List Turn) :
    closedIn turns = (handledIn turns).filterMap Effect.closed? := by
  simp only [closedIn, handledIn, List.filterMap_flatMap, List.filterMap_filter]
  congr 1
  funext turn
  congr 1
  funext effect
  cases effect <;> rfl

theorem madeIn_eq (turns : List Turn) :
    madeIn turns = (handledIn turns).filterMap Effect.made? := by
  simp only [madeIn, handledIn, List.filterMap_flatMap, List.filterMap_filter]
  congr 1
  funext turn
  congr 1
  funext effect
  cases effect <;> rfl

theorem closed_replacements (count : Nat) :
    (replacements count).filterMap Effect.closed? = List.range count := by
  simp [replacements, List.filterMap_flatMap, List.filterMap_cons, Effect.closed?]

theorem made_replacements (count : Nat) :
    0 :: (replacements count).filterMap Effect.made? = List.range (count + 1) := by
  simp [replacements, List.filterMap_flatMap, List.filterMap_cons, Effect.made?,
    List.range_succ_eq_map, List.map_eq_flatMap]

theorem filter_isOfCompiler_log (log : List LogEntry) :
    (log.map Effect.log).filter Effect.isOfCompiler = [] := by
  simp [List.filter_map, Function.comp_def, Effect.isOfCompiler]

namespace Scheduler

theorem launch_handled (scheduler : Scheduler) :
    scheduler.launch.2.filter Effect.isOfCompiler = [] := by
  unfold launch
  split
  · split <;> rfl
  · rfl

@[simp] theorem launch_compiler (scheduler : Scheduler) :
    scheduler.launch.1.compiler = scheduler.compiler := by
  unfold launch
  split
  · split <;> rfl
  · rfl

theorem thenLaunch_handled (decided : Scheduler × List Effect) :
    (thenLaunch decided).2.filter Effect.isOfCompiler =
      decided.2.filter Effect.isOfCompiler := by
  simp [thenLaunch, launch_handled]

theorem thenLaunch_compiler (decided : Scheduler × List Effect) :
    (thenLaunch decided).1.compiler = decided.1.compiler :=
  launch_compiler decided.1

theorem onChange_handled (scheduler : Scheduler) (now : Time) (change : Change) :
    (scheduler.onChange now change).2.filter Effect.isOfCompiler = [] := by
  cases change with
  | source | music => rfl
  | config =>
      simp only [onChange, onConfigChange, cancelRunning]
      cases scheduler.running <;> rfl

@[simp] theorem onChange_compiler (scheduler : Scheduler) (now : Time) (change : Change) :
    (scheduler.onChange now change).1.compiler = scheduler.compiler := by
  by_cases config : change = .config
  · subst change
    rfl
  · obtain ⟨delay, same⟩ := onChange_frame config scheduler now
    rw [same]

@[simp] theorem onWake_compiler (scheduler : Scheduler) (now : Time) :
    (scheduler.onWake now).compiler = scheduler.compiler := by
  obtain ⟨delay, wantsBuild, same⟩ := scheduler.onWake_frame now
  rw [same]

theorem onFinished_handled (scheduler : Scheduler) (result : Except String BuildOutcome) :
    (scheduler.onFinished result).2.filter Effect.isOfCompiler =
      if isFatalEnd result then [.make (scheduler.compiler + 1), .close scheduler.compiler]
      else [] := by
  cases result with
  | error message =>
      simp only [onFinished, onCrash]
      split <;> rfl
  | ok outcome =>
      by_cases fatal : outcome.isFatal = true <;>
        by_cases stale : scheduler.running.any RunningBuild.isCancelled = true <;>
        simp [onFinished, onOutcome, replaceCompiler, isFatalEnd, debug, List.filter_cons,
          Effect.isOfCompiler, fatal, stale]

theorem stop_handled (scheduler : Scheduler) :
    scheduler.stop.2.filter Effect.isOfCompiler = [] := by
  unfold stop
  cases scheduler.running <;> rfl

theorem leave_handled (scheduler : Scheduler) :
    scheduler.leave.2.filter Effect.isOfCompiler = [.close scheduler.compiler] := by
  unfold leave
  cases scheduler.running <;> rfl

end Scheduler

def CompilerInstance.closings (state : CompilerInstance) : Nat :=
  state.pendingCloses + state.closes

def BuildSystem.closings (system : BuildSystem) : List Nat :=
  system.compilers.map CompilerInstance.closings

/-- The same after an effect of the loop. -/
def tally (closings : List Nat) : Effect → List Nat
  | .make _ => closings ++ [0]
  | .close compiler => closings.modify compiler (· + 1)
  | _ => closings

theorem foldl_tally_filter (effects : List Effect) (closings : List Nat) :
    effects.foldl tally closings = (effects.filter Effect.isOfCompiler).foldl tally closings := by
  rw [List.foldl_filter]
  congr 1
  funext closings effect
  cases effect <;> rfl

theorem tally_close (count : Nat) (more : List Nat) :
    tally (List.replicate count 1 ++ 0 :: more) (.close count) =
      List.replicate (count + 1) 1 ++ more := by
  induction count with
  | zero => rfl
  | succ count ih => exact congrArg (1 :: ·) ih

theorem tally_replacements (count : Nat) :
    (replacements count).foldl tally [0] = List.replicate count 1 ++ [0] := by
  induction count with
  | zero => rfl
  | succ count ih =>
      have made : tally (List.replicate count 1 ++ [0]) (.make (count + 1)) =
          List.replicate count 1 ++ [0, 0] := by simp [tally]
      rw [replacements_succ, List.foldl_append, ih, List.foldl_cons, made]
      exact tally_close count [0]

namespace BuildSystem

variable {system : BuildSystem} {action : BuildAction} {moved : BuildSystem × List Effect}

theorem closings_mapCompiler {compiler : Nat} {change : CompilerInstance → CompilerInstance}
    (keeps : ∀ state, system.compilers[compiler]? = some state →
      (change state).closings = state.closings) :
    (system.mapCompiler compiler change).closings = system.closings := by
  refine List.ext_getElem? fun index => ?_
  simp only [closings, mapCompiler, List.getElem?_map, List.getElem?_modify]
  cases found : system.compilers[index]? with
  | none => rfl
  | some state =>
      by_cases same : compiler = index
      · subst index
        simp [keeps state found]
      · simp [same]

theorem closings_setBusy (system : BuildSystem) (compiler : Nat) (isBusy : Bool) :
    (system.setBusy compiler isBusy).closings = system.closings :=
  closings_mapCompiler fun _ _ => rfl

theorem closings_release (system : BuildSystem) (task : BuildTask) :
    (system.release task).closings = system.closings := by
  unfold release
  split
  · exact closings_setBusy ..
  · rfl

theorem Progress.closings {task : BuildTask} {stage : TaskStage}
    {compilers : List CompilerInstance} {log : List LogEntry}
    (progress : system.Progress task action stage compilers log) :
    compilers.map CompilerInstance.closings = system.closings := by
  cases progress with
  | loaded | notLoaded | listed | notListed | crashed | refused => rfl
  | asked | closed | broken => exact closings_setBusy ..
  | @answered number use project result =>
      have marked : ((system.setBusy task.build.compiler false).mapCompiler task.build.compiler
          fun state => { state with
            hasFailed := state.hasFailed || BuildOutcome.isFatalResult result }).closings =
          (system.setBusy task.build.compiler false).closings :=
        closings_mapCompiler fun _ _ => rfl
      exact marked.trans (closings_setBusy ..)
  | died => exact closings_release ..

theorem perform_closings (system : BuildSystem) (effect : Effect) :
    (system.perform effect).closings = tally system.closings effect := by
  cases effect with
  | log | publish | start | cancel | abort => rfl
  | make => simp [perform, closings, tally, CompilerInstance.fresh, CompilerInstance.closings]
  | close compiler =>
      refine List.ext_getElem? fun index => ?_
      simp only [perform, closings, tally, mapCompiler, List.getElem?_map, List.getElem?_modify]
      cases system.compilers[index]? with
      | none => rfl
      | some state =>
          by_cases same : compiler = index
          · simp [same, CompilerInstance.closings, Nat.add_right_comm]
          · simp [same]

theorem foldl_perform_closings (effects : List Effect) (system : BuildSystem) :
    (effects.foldl perform system).closings = effects.foldl tally system.closings := by
  induction effects generalizing system with
  | nil => rfl
  | cons effect rest ih => rw [List.foldl_cons, ih, perform_closings, List.foldl_cons]

theorem adopt_closings (system : BuildSystem) (decided : Scheduler × List Effect) :
    (system.adopt decided).1.closings = decided.2.foldl tally system.closings :=
  foldl_perform_closings ..

theorem foldl_tally_log (log : List LogEntry) (closings : List Nat) :
    (log.map Effect.log).foldl tally closings = closings := by
  rw [foldl_tally_filter, filter_isOfCompiler_log, List.foldl_nil]

theorem closings_of_step? (possible : system.step? action = some moved) :
    moved.1.closings = moved.2.foldl tally system.closings := by
  cases happens_of_step? possible with
  | passed | edited => rfl
  | closed found pending =>
      refine closings_mapCompiler fun state same => ?_
      obtain rfl := Option.some.inj (found.symm.trans same)
      simp only [CompilerInstance.closings]
      omega
  | progressed acting found progress =>
      rw [foldl_tally_log]
      exact progress.closings
  | unwound => exact closings_release ..
  | changed | woken | stopped | left | finished => exact adopt_closings ..

end BuildSystem

theorem Scheduler.thenLaunch_of_running {decided : Scheduler × List Effect}
    (waiting : decided.1.running.isSome = true) : Scheduler.thenLaunch decided = decided := by
  rw [Scheduler.thenLaunch, Scheduler.launch_of_settled fun _ => waiting, List.append_nil]

namespace BuildRun

variable {tree : FileTree} {source : ProjectSource} {debounce : Time} {turns : List Turn}
  {system : BuildSystem}

theorem handledIn_eq (run : BuildRun (.create tree source debounce) turns system) :
    handledIn turns = replacements system.scheduler.compiler ++
      if system.stage = .stopped then [.close system.scheduler.compiler] else [] := by
  induction run with
  | begin =>
      rw [handledIn_singleton, BuildSystem.begin_scheduler, BuildSystem.begin_stage,
        Scheduler.launch_compiler]
      exact Scheduler.launch_handled _
  | @step turns before action moved run possible ih =>
      obtain ⟨stage, decided, reaction, after, same, effects⟩ :=
        BuildSystem.reaction_of_step? possible
      rw [handledIn_append_singleton, ih, after, same, effects]
      cases reaction with
      | quiet => rw [filter_isOfCompiler_log, List.append_nil]
      | changed loops =>
          simp [loops, Scheduler.thenLaunch_handled, Scheduler.thenLaunch_compiler,
            Scheduler.onChange_handled]
      | woken loops =>
          simp [loops, Scheduler.thenLaunch_handled, Scheduler.thenLaunch_compiler]
      | @finished build result loops =>
          rw [Scheduler.thenLaunch_handled, Scheduler.thenLaunch_compiler,
            Scheduler.onFinished_handled, Scheduler.onFinished_compiler]
          cases Scheduler.isFatalEnd result <;> simp [loops, replacements_succ]
      | stopped loops =>
          rw [Scheduler.stop_handled]
          simp [loops, Scheduler.stop]
      | left stopping =>
          rw [Scheduler.leave_handled]
          simp [stopping, Scheduler.leave]

theorem closings_eq_tally (run : BuildRun (.create tree source debounce) turns system) :
    system.closings = (handledIn turns).foldl tally [0] := by
  induction run with
  | begin =>
      rw [handledIn_singleton, ← foldl_tally_filter]
      exact BuildSystem.adopt_closings ..
  | step run possible ih =>
      rw [handledIn_append_singleton, List.foldl_append, ← ih, ← foldl_tally_filter]
      exact BuildSystem.closings_of_step? possible

theorem closings_eq (run : BuildRun (.create tree source debounce) turns system) :
    system.closings = List.replicate system.scheduler.compiler 1 ++
      [if system.stage = .stopped then 1 else 0] := by
  rw [run.closings_eq_tally, run.handledIn_eq, List.foldl_append, tally_replacements]
  by_cases stopped : system.stage = .stopped
  · rw [if_pos stopped, if_pos stopped, List.foldl_cons, List.foldl_nil, tally_close,
      List.append_nil, List.replicate_succ']
  · rw [if_neg stopped, if_neg stopped, List.foldl_nil]

theorem closedIn_eq_range (run : BuildRun (.create tree source debounce) turns system) :
    closedIn turns = List.range system.scheduler.compiler ++
      if system.stage = .stopped then [system.scheduler.compiler] else [] := by
  rw [closedIn_eq, run.handledIn_eq, List.filterMap_append, closed_replacements]
  split <;> rfl

theorem made_eq_range (run : BuildRun (.create tree source debounce) turns system) :
    0 :: madeIn turns = List.range (system.scheduler.compiler + 1) := by
  rw [madeIn_eq, run.handledIn_eq, List.filterMap_append, ← made_replacements]
  split <;> simp [Effect.made?]

end BuildRun

end BuildWatch
