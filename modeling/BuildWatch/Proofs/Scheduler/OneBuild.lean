import BuildWatch.Proofs.Scheduler.Reaction

/-!
One build at a time. There is never more than one task, it belongs to the build that the loop waits
for, and a round trip is under way exactly while that task compiles, with the compiler of its build
and with no other that was ever made.
-/

namespace BuildWatch

def BuildTask.isUnfinished (task : BuildTask) : Bool := !task.stage.isFinished

namespace BuildSystem

theorem isBusy_congr {system next : BuildSystem} (same : next.compilers = system.compilers)
    (index : Nat) : next.isBusy index = system.isBusy index := by
  rw [isBusy, isBusy, same]

theorem isBusy_mapCompiler (system : BuildSystem) (compiler index : Nat)
    {change : CompilerInstance → CompilerInstance}
    (keeps : ∀ state, (change state).isBusy = state.isBusy) :
    (system.mapCompiler compiler change).isBusy index = system.isBusy index := by
  simp only [isBusy, mapCompiler, List.getElem?_modify]
  cases system.compilers[index]? with
  | none => rfl
  | some state =>
      by_cases same : compiler = index
      · simp [same, keeps]
      · simp [same]

theorem isBusy_setBusy {system : BuildSystem} {compiler : Nat}
    (made : compiler < system.compilers.length) (index : Nat) (isBusy : Bool) :
    (system.setBusy compiler isBusy).isBusy index =
      if index = compiler then isBusy else system.isBusy index := by
  simp only [BuildSystem.isBusy, setBusy, mapCompiler, List.getElem?_modify]
  by_cases same : index = compiler
  · subst index
    simp [List.getElem?_eq_getElem made]
  · simp [same, Ne.symm same]

@[simp] theorem length_compilers_release (system : BuildSystem) (task : BuildTask) :
    (system.release task).compilers.length = system.compilers.length := by
  unfold release
  split <;> simp [setBusy, mapCompiler]

theorem Progress.length_compilers {system : BuildSystem} {task : BuildTask}
    {action : BuildAction} {stage : TaskStage} {compilers : List CompilerInstance}
    {log : List LogEntry} (progress : Progress system task action stage compilers log) :
    compilers.length = system.compilers.length := by
  cases progress with
  | loaded | notLoaded | listed | notListed | crashed | refused => rfl
  | asked | answered | closed | broken => simp [setBusy, mapCompiler]
  | died => exact length_compilers_release ..

theorem isBusy_close (system : BuildSystem) (compiler index : Nat) :
    (system.perform (.close compiler)).isBusy index = system.isBusy index :=
  isBusy_mapCompiler system compiler index fun _ => rfl

theorem isBusy_make (system : BuildSystem) (compiler index : Nat) :
    (system.perform (.make compiler)).isBusy index = system.isBusy index := by
  simp only [isBusy, perform, List.getElem?_append]
  split
  · rfl
  · rename_i beyond
    rw [List.getElem?_eq_none (Nat.le_of_not_lt beyond)]
    cases rest : index - system.compilers.length <;> simp [CompilerInstance.fresh]

end BuildSystem

theorem BuildSystem.foldl_perform_onFinished (system : BuildSystem) (scheduler : Scheduler)
    (result : Except String BuildOutcome) :
    (scheduler.onFinished result).2.foldl perform system =
      if Scheduler.isFatalEnd result then
        (system.perform (.make (scheduler.compiler + 1))).perform (.close scheduler.compiler)
      else system := by
  cases result with
  | error message =>
      simp only [Scheduler.onFinished, Scheduler.onCrash, Scheduler.isFatalEnd]
      split <;> rfl
  | ok outcome =>
      by_cases fatal : outcome.isFatal = true <;>
        by_cases stale : scheduler.running.any RunningBuild.isCancelled = true <;>
        simp [Scheduler.onFinished, Scheduler.onOutcome, Scheduler.isFatalEnd,
          Scheduler.replaceCompiler, Scheduler.debug, perform, fatal, stale]

/-- The tasks and the compilers are as the loop believes them to be. -/
structure Coherent (system : BuildSystem) : Prop where
  single : system.tasks.length ≤ 1
  owned : ∀ task ∈ system.tasks,
    system.scheduler.running = some ⟨task.build, task.isCancelled⟩
  current : ∀ running, system.scheduler.running = some running →
    running.build.compiler = system.scheduler.compiler
  made : system.compilers.length = system.scheduler.compiler + 1
  busy : ∀ compiler, system.isBusy compiler = true ↔
    ∃ task ∈ system.tasks, task.stage.isCompiling = true ∧ task.build.compiler = compiler

namespace Coherent

variable {system : BuildSystem} {task : BuildTask}

theorem create (tree : FileTree) (source : ProjectSource) (debounce : Time) :
    Coherent (.create tree source debounce) := by
  refine ⟨Nat.zero_le 1, by simp [BuildSystem.create], ?_, rfl, ?_⟩
  · simp [BuildSystem.create, Scheduler.create]
  · intro compiler
    rcases compiler with _ | compiler <;>
      simp [BuildSystem.isBusy, BuildSystem.create, CompilerInstance.fresh]

theorem tasks_eq (coherent : Coherent system) (member : task ∈ system.tasks) :
    system.tasks = [task] := by
  have single := coherent.single
  match tasks : system.tasks with
  | [] => simp [tasks] at member
  | [only] =>
      rw [tasks] at member
      rw [List.mem_singleton.mp member]
  | _ :: _ :: _ => simp [tasks] at single

theorem tasks_of_task? {number : Nat} (coherent : Coherent system)
    (found : system.task? number = some task) :
    system.tasks = [task] ∧ task.build.number = number := by
  refine ⟨coherent.tasks_eq (List.mem_of_find?_eq_some found), ?_⟩
  simpa using List.find?_some found

theorem compiler_lt (coherent : Coherent system) (member : task ∈ system.tasks) :
    task.build.compiler < system.compilers.length := by
  have current : task.build.compiler = system.scheduler.compiler :=
    coherent.current _ (coherent.owned task member)
  rw [current, coherent.made]
  exact Nat.lt_succ_self _

theorem idle (coherent : Coherent system) (free : system.scheduler.running = none) :
    system.tasks = [] := by
  refine List.eq_nil_iff_forall_not_mem.mpr fun task member => ?_
  simp [coherent.owned task member] at free

theorem frame {next : BuildSystem} (coherent : Coherent system)
    (tasks : next.tasks = system.tasks) (compilers : next.compilers = system.compilers)
    (running : next.scheduler.running = system.scheduler.running)
    (compiler : next.scheduler.compiler = system.scheduler.compiler) : Coherent next where
  single := tasks ▸ coherent.single
  owned := by rw [tasks, running]; exact coherent.owned
  current := by rw [running, compiler]; exact coherent.current
  made := by rw [compilers, compiler]; exact coherent.made
  busy index := by
    rw [tasks, BuildSystem.isBusy_congr compilers]
    exact coherent.busy index

theorem isBusy_eq (coherent : Coherent system) (tasks : system.tasks = [task]) (index : Nat) :
    system.isBusy index =
      (task.stage.isCompiling && decide (task.build.compiler = index)) := by
  rw [Bool.eq_iff_iff, coherent.busy, tasks]
  simp

theorem isBusy_setBusy (coherent : Coherent system) (tasks : system.tasks = [task])
    (isBusy : Bool) (index : Nat) :
    (system.setBusy task.build.compiler isBusy).isBusy index =
      (isBusy && decide (task.build.compiler = index)) := by
  rw [BuildSystem.isBusy_setBusy (coherent.compiler_lt (by simp [tasks])),
    coherent.isBusy_eq tasks]
  by_cases same : index = task.build.compiler
  · simp [same]
  · simp [same, Ne.symm same]

theorem isBusy_release (coherent : Coherent system) (tasks : system.tasks = [task])
    (index : Nat) : (system.release task).isBusy index = false := by
  unfold BuildSystem.release
  split
  · simpa using coherent.isBusy_setBusy tasks false index
  · rename_i idle
    have still : task.stage.isCompiling = false := by
      cases stage : task.stage <;> first | rfl | exact absurd stage (idle _)
    simp [coherent.isBusy_eq tasks, still]

theorem isBusy_of_progress {action : BuildAction} {stage : TaskStage}
    {compilers : List CompilerInstance} {log : List LogEntry} (coherent : Coherent system)
    (tasks : system.tasks = [task])
    (progress : BuildSystem.Progress system task action stage compilers log) (index : Nat) :
    ({ system with compilers } : BuildSystem).isBusy index =
      (stage.isCompiling && decide (task.build.compiler = index)) := by
  have before := coherent.isBusy_eq tasks index
  cases progress with
  | loaded reached | notLoaded reached | listed reached | notListed reached | refused reached =>
      simpa [reached, TaskStage.isCompiling] using before
  | crashed early =>
      cases reached : task.stage <;> simp [reached, TaskStage.isEarly] at early <;>
        simpa [reached, TaskStage.isCompiling] using before
  | asked => exact coherent.isBusy_setBusy tasks true index
  | answered =>
      have freed := coherent.isBusy_setBusy tasks false index
      rwa [← BuildSystem.isBusy_mapCompiler] at freed
      exact fun _ => rfl
  | closed | broken => exact coherent.isBusy_setBusy tasks false index
  | died => exact coherent.isBusy_release tasks index

theorem advance {action : BuildAction} {number : Nat} {stage : TaskStage}
    {compilers : List CompilerInstance} {log : List LogEntry} (coherent : Coherent system)
    (found : system.task? number = some task)
    (progress : BuildSystem.Progress system task action stage compilers log) :
    Coherent (system.advanced task stage compilers) := by
  obtain ⟨tasks, -⟩ := coherent.tasks_of_task? found
  have after : (system.advanced task stage compilers).tasks = [{ task with stage }] := by
    simp [BuildSystem.advanced, BuildSystem.setStage, BuildSystem.mapTask, tasks]
  refine ⟨by simp [after], ?_, coherent.current,
    progress.length_compilers.trans coherent.made, ?_⟩
  · intro moved member
    rw [after, List.mem_singleton] at member
    rw [member]
    exact coherent.owned task (by simp [tasks])
  · intro compiler
    have busy : (system.advanced task stage compilers).isBusy compiler = _ :=
      coherent.isBusy_of_progress tasks progress compiler
    rw [after, busy]
    simp

theorem unwind {number : Nat} (coherent : Coherent system)
    (found : system.task? number = some task) :
    Coherent ((system.release task).dropTask task.build.number) := by
  obtain ⟨tasks, -⟩ := coherent.tasks_of_task? found
  have gone : ((system.release task).dropTask task.build.number).tasks = [] := by
    rw [BuildSystem.release_eq]
    simp [BuildSystem.dropTask, tasks]
  refine ⟨by simp [gone], by simp [gone], ?_, ?_, ?_⟩
  · simpa [BuildSystem.dropTask] using coherent.current
  · simpa [BuildSystem.dropTask] using coherent.made
  · intro compiler
    have free : ((system.release task).dropTask task.build.number).isBusy compiler = false :=
      coherent.isBusy_release tasks compiler
    simp [gone, free]

theorem mapCompiler (coherent : Coherent system) (compiler : Nat)
    {change : CompilerInstance → CompilerInstance}
    (keeps : ∀ state, (change state).isBusy = state.isBusy) :
    Coherent (system.mapCompiler compiler change) where
  single := coherent.single
  owned := coherent.owned
  current := coherent.current
  made := by simpa [BuildSystem.mapCompiler] using coherent.made
  busy index := by
    rw [BuildSystem.isBusy_mapCompiler system compiler index keeps]
    exact coherent.busy index

theorem start {next : BuildSystem} {build : Build} (coherent : Coherent system)
    (none : system.tasks = []) (tasks : next.tasks = [.start build])
    (running : next.scheduler.running = some ⟨build, false⟩)
    (current : build.compiler = next.scheduler.compiler)
    (compilers : next.compilers = system.compilers)
    (compiler : next.scheduler.compiler = system.scheduler.compiler) : Coherent next where
  single := by simp [tasks]
  owned := by simp [tasks, running, BuildTask.start]
  current := by simp [running, current]
  made := by rw [compilers, compiler, coherent.made]
  busy index := by
    have idle : system.isBusy index = false := by simpa [none] using coherent.busy index
    rw [tasks, BuildSystem.isBusy_congr compilers]
    simpa [BuildTask.start, TaskStage.isCompiling] using idle

theorem cancel {next : BuildSystem} {change : BuildTask → BuildTask} (coherent : Coherent system)
    (tasks : next.tasks = system.tasks.map change)
    (kept : ∀ task ∈ system.tasks, (change task).build = task.build ∧
      (change task).stage = task.stage ∧ (change task).isCancelled = true)
    (running : next.scheduler.running = system.scheduler.running.map RunningBuild.cancel)
    (compilers : next.compilers = system.compilers)
    (compiler : next.scheduler.compiler = system.scheduler.compiler) : Coherent next where
  single := by simpa [tasks] using coherent.single
  owned := by
    intro moved member
    rw [tasks] at member
    obtain ⟨task, among, rfl⟩ := List.mem_map.mp member
    obtain ⟨build, -, cancelled⟩ := kept task among
    simp [running, coherent.owned task among, RunningBuild.cancel, build, cancelled]
  current := by
    intro moved found
    rw [running] at found
    obtain ⟨earlier, before, rfl⟩ := Option.map_eq_some_iff.mp found
    rw [compiler]
    exact coherent.current earlier before
  made := by rw [compilers, compiler, coherent.made]
  busy index := by
    rw [tasks, BuildSystem.isBusy_congr compilers]
    refine (coherent.busy index).trans ?_
    constructor
    · rintro ⟨task, among, compiling, same⟩
      obtain ⟨build, stage, -⟩ := kept task among
      exact ⟨change task, List.mem_map_of_mem among, by rw [stage]; exact compiling,
        by rw [build]; exact same⟩
    · rintro ⟨moved, member, compiling, same⟩
      obtain ⟨task, among, rfl⟩ := List.mem_map.mp member
      obtain ⟨build, stage, -⟩ := kept task among
      exact ⟨task, among, by rw [← stage]; exact compiling, by rw [← build]; exact same⟩

theorem free {next : BuildSystem} (tasks : next.tasks = [])
    (running : next.scheduler.running = none)
    (made : next.compilers.length = next.scheduler.compiler + 1)
    (idle : ∀ index, next.isBusy index = false) : Coherent next where
  single := by simp [tasks]
  owned := by simp [tasks]
  current := by simp [running]
  made := made
  busy index := by simp [tasks, idle]

theorem launch (coherent : Coherent system) :
    Coherent (system.adopt system.scheduler.launch).1 := by
  unfold Scheduler.launch
  by_cases wanted : system.scheduler.wantsBuild && system.scheduler.running.isNone
  · rw [if_pos wanted]
    simp only [Bool.and_eq_true, Option.isNone_iff_eq_none] at wanted
    have none := coherent.idle wanted.2
    cases system.scheduler.plan? with
    | none => exact coherent.frame rfl rfl rfl rfl
    | some plan =>
        refine coherent.start none ?_ rfl rfl rfl rfl
        simp [BuildSystem.adopt, BuildSystem.perform, Scheduler.startNotice, Scheduler.debug,
          none]
  · rw [if_neg wanted]
    exact coherent.frame rfl rfl rfl rfl

theorem goOn {decided : Scheduler × List Effect} (coherent : Coherent (system.adopt decided).1) :
    Coherent (system.goOn decided).1 := by
  rw [BuildSystem.goOn_fst]
  simpa using coherent.launch

theorem number_eq {current : RunningBuild} (coherent : Coherent system)
    (running : system.scheduler.running = some current) (member : task ∈ system.tasks) :
    task.build.number = current.build.number := by
  have owned := coherent.owned task member
  rw [running, Option.some.injEq] at owned
  rw [owned]

theorem onConfigChange (coherent : Coherent system) (now : Time) :
    Coherent (system.adopt (system.scheduler.onChange now .config)).1 := by
  cases running : system.scheduler.running with
  | none =>
      have adopted : (system.adopt (system.scheduler.onChange now .config)).1 =
          { system with scheduler := (system.scheduler.onChange now .config).1 } := by
        simp only [BuildSystem.adopt, Scheduler.onChange, Scheduler.onConfigChange,
          Scheduler.cancelRunning, running]
        rfl
      rw [adopted]
      refine coherent.frame rfl rfl ?_ rfl
      have still : system.scheduler.running.map RunningBuild.cancel = none := by rw [running]; rfl
      rwa [running]
  | some current =>
      have adopted : (system.adopt (system.scheduler.onChange now .config)).1 =
          { system.mapTask current.build.number fun task => { task with isCancelled := true }
            with scheduler := (system.scheduler.onChange now .config).1 } := by
        simp only [BuildSystem.adopt, Scheduler.onChange, Scheduler.onConfigChange,
          Scheduler.cancelRunning, running]
        rfl
      rw [adopted]
      refine coherent.cancel rfl ?_ rfl rfl rfl
      intro task member
      rw [if_pos (coherent.number_eq running member)]
      exact ⟨rfl, rfl, rfl⟩

theorem onChange (coherent : Coherent system) (now : Time) (change : Change) :
    Coherent (system.adopt (system.scheduler.onChange now change)).1 := by
  by_cases config : change = .config
  · subst change
    exact coherent.onConfigChange now
  · obtain ⟨delay, same⟩ := Scheduler.onChange_frame config system.scheduler now
    have adopted : (system.adopt (system.scheduler.onChange now change)).1 =
        { system with scheduler := (system.scheduler.onChange now change).1 } := by
      cases change with
      | config => exact absurd rfl config
      | source | music => rfl
    rw [adopted]
    exact coherent.frame rfl rfl (by rw [same]) (by rw [same])

theorem onWake (coherent : Coherent system) (now : Time) :
    Coherent (system.adopt (system.scheduler.onWake now, [])).1 := by
  obtain ⟨delay, wantsBuild, same⟩ := system.scheduler.onWake_frame now
  exact coherent.frame rfl rfl (by rw [BuildSystem.adopt_scheduler, same])
    (by rw [BuildSystem.adopt_scheduler, same])

theorem stop (coherent : Coherent system) :
    Coherent ({ system with stage := .stopping }.adopt system.scheduler.stop).1 := by
  cases running : system.scheduler.running with
  | none =>
      simp only [Scheduler.stop, running]
      exact coherent.frame rfl rfl (by simp [BuildSystem.adopt, running]) rfl
  | some current =>
      simp only [Scheduler.stop, running]
      refine coherent.cancel (List.map_map ..) ?_ (by rw [running]; rfl) rfl rfl
      intro task member
      have number := coherent.number_eq running member
      simp [number]

theorem leave (coherent : Coherent system) (gone : system.tasks = []) :
    Coherent ({ system with stage := .stopped }.adopt system.scheduler.leave).1 := by
  have idle (index : Nat) : system.isBusy index = false := by
    simpa [gone] using coherent.busy index
  have adopted : ({ system with stage := .stopped }.adopt system.scheduler.leave).1 =
      { (system.mapCompiler system.scheduler.compiler fun state =>
          { state with pendingCloses := state.pendingCloses + 1 }) with
        scheduler := system.scheduler.leave.1
        stage := .stopped } := by
    simp only [BuildSystem.adopt, Scheduler.leave]
    split <;> rfl
  rw [adopted]
  refine Coherent.free gone rfl ?_ fun index => ?_
  · have made : system.compilers.length = system.scheduler.compiler + 1 := coherent.made
    simpa [BuildSystem.mapCompiler, Scheduler.leave] using made
  · rw [← idle index]
    exact BuildSystem.isBusy_mapCompiler system system.scheduler.compiler index fun _ => rfl

theorem onFinished {build : Build} {result : Except String BuildOutcome}
    (coherent : Coherent system) (ended : system.result? = some (build, result)) :
    Coherent ((system.dropTask build.number).adopt (system.scheduler.onFinished result)).1 := by
  obtain ⟨running, task, waiting, rfl, found, finished⟩ := system.finished_of_result? ended
  obtain ⟨tasks, number⟩ := coherent.tasks_of_task? found
  have idle (index : Nat) : system.isBusy index = false := by
    simp [coherent.isBusy_eq tasks, finished, TaskStage.isCompiling]
  have gone : (system.dropTask running.build.number).tasks = [] := by
    simp [BuildSystem.dropTask, tasks, number]
  have made : system.compilers.length = system.scheduler.compiler + 1 := coherent.made
  rw [BuildSystem.adopt, BuildSystem.foldl_perform_of_scheduler,
    BuildSystem.foldl_perform_onFinished]
  by_cases fatal : Scheduler.isFatalEnd result = true
  · refine Coherent.free ?_ ?_ ?_ fun index => ?_
    · simp [fatal, BuildSystem.perform, BuildSystem.mapCompiler, gone]
    · simp
    · simp [fatal, BuildSystem.perform, BuildSystem.mapCompiler, BuildSystem.dropTask, made]
    · rw [← idle index, if_pos fatal]
      exact (BuildSystem.isBusy_close ..).trans (BuildSystem.isBusy_make ..)
  · refine Coherent.free ?_ ?_ ?_ fun index => ?_
    · simp [fatal, gone]
    · simp
    · simp [fatal, BuildSystem.dropTask, made]
    · rw [← idle index, if_neg fatal]
      rfl

theorem of_happens {action : BuildAction} {moved : BuildSystem × List Effect}
    (coherent : Coherent system) (happens : BuildSystem.Happens system action moved) :
    Coherent moved.1 := by
  cases happens with
  | passed | edited => exact coherent.frame rfl rfl rfl rfl
  | closed => exact coherent.mapCompiler _ fun _ => rfl
  | progressed acting found progress => exact coherent.advance found progress
  | unwound found => exact coherent.unwind found
  | changed => exact (coherent.onChange ..).goOn
  | woken => exact (coherent.onWake _).goOn
  | finished running ended => exact (coherent.onFinished ended).goOn
  | stopped => exact coherent.stop
  | left stopping gone => exact coherent.leave gone

end Coherent

theorem length_filter_le_one {Item : Type} {items : List Item} {good : Item → Bool}
    (only : ∀ (first second : Nat) (one other : Item), items[first]? = some one →
      items[second]? = some other → good one = true → good other = true → first = second) :
    (items.filter good).length ≤ 1 := by
  induction items with
  | nil => simp
  | cons head tail ih =>
      by_cases found : good head = true
      · have rest : tail.filter good = [] := by
          refine List.filter_eq_nil_iff.mpr fun other member isGood => ?_
          obtain ⟨index, bound, rfl⟩ := List.getElem_of_mem member
          have same := only 0 (index + 1) head tail[index] rfl (by simp) found isGood
          simp at same
        simp [found, rest]
      · have fewer := ih fun first second one other left right isGood alsoGood =>
          Nat.succ_injective (only (first + 1) (second + 1) one other (by simpa using left)
            (by simpa using right) isGood alsoGood)
        simpa [found] using fewer

namespace BuildRun

variable {tree : FileTree} {source : ProjectSource} {debounce : Time} {turns : List Turn}
  {system : BuildSystem}

theorem coherent (run : BuildRun (.create tree source debounce) turns system) :
    Coherent system := by
  induction run with
  | begin => exact Coherent.goOn ((Coherent.create tree source debounce).frame rfl rfl rfl rfl)
  | step run possible ih => exact ih.of_happens (BuildSystem.happens_of_step? possible)

/-- At every moment of every run at most one task is unfinished, at most one of the compilers that
were ever made has a round trip under way, and if one has, it is for that task. -/
theorem single_build (run : BuildRun (.create tree source debounce) turns system) :
    (system.tasks.filter BuildTask.isUnfinished).length ≤ 1 ∧
      (system.compilers.filter CompilerInstance.isBusy).length ≤ 1 ∧
      ∀ compiler, system.isBusy compiler = true ↔
        ∃ task ∈ system.tasks, task.stage.isCompiling = true ∧
          task.build.compiler = compiler := by
  have coherent := run.coherent
  refine ⟨(List.length_filter_le ..).trans coherent.single, ?_, coherent.busy⟩
  refine length_filter_le_one fun first second one other atFirst atSecond busy alsoBusy => ?_
  obtain ⟨task, member, -, atTask⟩ := (coherent.busy first).mp (by simp [BuildSystem.isBusy, *])
  obtain ⟨again, among, -, atAgain⟩ := (coherent.busy second).mp (by simp [BuildSystem.isBusy, *])
  rw [coherent.tasks_eq member, List.mem_singleton] at among
  rw [← atTask, ← atAgain, among]

theorem single_build_cancelled :
    let reached := BuildSystem.sample.attempt
      [.load 0, .list 0, .ask 0, .change .config, .pass 500, .wake]
    (BuildRun .sample reached.1 reached.2 ∧ reached.2.scheduler.wantsBuild = true ∧
      reached.2.isBusy 0 = true) ∧
      (reached.2.tasks.filter BuildTask.isUnfinished).length ≤ 1 ∧
      (reached.2.compilers.filter CompilerInstance.isBusy).length ≤ 1 ∧
      ∀ compiler, reached.2.isBusy compiler = true ↔
        ∃ task ∈ reached.2.tasks, task.stage.isCompiling = true ∧
          task.build.compiler = compiler :=
  ⟨⟨.attempt .., by cbv, by cbv⟩, single_build (.attempt BuildSystem.sample _)⟩

end BuildRun

end BuildWatch
