import BuildWatch.Proofs.Scheduler.Fresh
import BuildWatch.Proofs.Scheduler.History
import BuildWatch.Proofs.Scheduler.Task

/-!
What observers see of a run of the build loop. Every change of the project file shows as loading,
and every build shows once, when its end is taken in, unless the project file changed after it was
started. So after such a change the next result is one of a build that has read the file again.
-/

namespace BuildWatch

/-- What observers are to see of a turn that comes after others. -/
def shownAfter (past : List Turn) (turn : Turn) : List BuildState :=
  if turn.isConfigChange then [.loading]
  else
    match turn.ended? with
    | some (build, result) =>
      if build ∈ startedIn (sinceConfigChange past) then [Scheduler.shownResult result] else []
    | none => []

theorem shownAfter_of_still {past : List Turn} {turn : Turn}
    (other : turn.isConfigChange = false) (going : turn.ended? = none) :
    shownAfter past turn = [] := by
  simp [shownAfter, other, going]

theorem BuildOutcome.stateOf_isTerminal (project : Project)
    (result : Except CompileError Compiled) :
    (BuildOutcome.stateOf project result).isTerminal = true := by
  unfold stateOf
  split <;> rfl

theorem BuildSystem.Progress.isTerminal {system : BuildSystem} {task : BuildTask}
    {action : BuildAction} {stage : TaskStage} {compilers : List CompilerInstance}
    {log : List LogEntry} {result : Except String BuildOutcome}
    (progress : system.Progress task action stage compilers log)
    (finished : stage = .finished result) :
    (Scheduler.shownResult result).isTerminal = true := by
  cases progress with
  | loaded | listed | asked => simp at finished
  | notLoaded | notListed | crashed | broken | died =>
      obtain rfl := TaskStage.finished.inj finished
      rfl
  | refused | answered | closed =>
      obtain rfl := TaskStage.finished.inj finished
      simp only [Scheduler.shownResult, BuildOutcome.ofResult, BuildOutcome.stateOf_isTerminal]

def BuildSystem.HasResults (system : BuildSystem) : Prop :=
  ∀ task ∈ system.tasks, ∀ result, task.stage = .finished result →
    (Scheduler.shownResult result).isTerminal = true

namespace BuildSystem.HasResults

variable {system : BuildSystem} {action : BuildAction} {moved : BuildSystem × List Effect}

theorem begin (results : system.HasResults) : system.begin.1.HasResults := by
  intro task member result finished
  cases Descends.of_adopt member with
  | kept among build stage => exact results _ among result (stage.symm.trans finished)
  | begun start starting => simp [starting] at finished

theorem step (results : system.HasResults) (coherent : Coherent system)
    (possible : system.step? action = some moved) : moved.1.HasResults := by
  intro task member result finished
  rcases coherent.task_cases possible member with
    ⟨descends, -⟩ | ⟨earlier, compilers, log, -, progress, -⟩
  · cases descends with
    | kept among build stage => exact results _ among result (stage.symm.trans finished)
    | begun start starting => simp [starting] at finished
  · exact progress.isTerminal finished

theorem of_result? {build : Build} {result : Except String BuildOutcome}
    (results : system.HasResults) (ended : system.result? = some (build, result)) :
    (Scheduler.shownResult result).isTerminal = true := by
  obtain ⟨running, task, -, -, found, finished⟩ := system.finished_of_result? ended
  exact results task (List.mem_of_find?_eq_some found) result finished

end BuildSystem.HasResults

/-- A result that is still to come and the builds that were started since something happened: the
project file is read again by the next build, or by the one that runs. -/
def Awaits (started : List Build) (scheduler : Scheduler) : Prop :=
  scheduler.reloadPending = true ∨
    ∃ running, scheduler.running = some running ∧ running.isCancelled = false ∧
      running.build.plan = .reload ∧ running.build ∈ started

namespace Awaits

variable {started : List Build} {scheduler : Scheduler}

theorem frame {next : Scheduler} (awaits : Awaits started scheduler)
    (running : next.running = scheduler.running)
    (pending : next.reloadPending = scheduler.reloadPending) : Awaits started next := by
  rw [Awaits, running, pending]
  exact awaits

theorem launch (awaits : Awaits started scheduler) :
    Awaits (started ++ scheduler.launch.2.filterMap Effect.started?) scheduler.launch.1 := by
  generalize scheduler.launch.2.filterMap Effect.started? = new, scheduler.launch.1 = next,
    scheduler.launches = launched
  cases launched with
  | held => simpa using awaits
  | skipped => exact (List.append_nil started).symm ▸ awaits.frame rfl rfl
  | @started plan wanted free planned =>
      rcases awaits with pending | ⟨running, waiting, -⟩
      · have reload : plan = .reload := by
          simpa [Scheduler.plan?, pending, eq_comm] using planned
        exact .inr ⟨_, rfl, rfl, reload, by simp⟩
      · simp [free] at waiting

theorem thenLaunch {decided : Scheduler × List Effect} (awaits : Awaits started decided.1)
    (none : decided.2.filterMap Effect.started? = []) :
    Awaits (started ++ (Scheduler.thenLaunch decided).2.filterMap Effect.started?)
      (Scheduler.thenLaunch decided).1 := by
  rw [Scheduler.thenLaunch_started none]
  exact awaits.launch

theorem onChange (awaits : Awaits started scheduler) (now : Time) (change : Change) :
    Awaits started (scheduler.onChange now change).1 := by
  by_cases config : change = .config
  · subst change
    exact .inl rfl
  · obtain ⟨delay, same⟩ := Scheduler.onChange_frame config scheduler now
    exact awaits.frame (by rw [same]) (by rw [same])

theorem onWake (awaits : Awaits started scheduler) (now : Time) :
    Awaits started (scheduler.onWake now) := by
  obtain ⟨delay, wantsBuild, same⟩ := scheduler.onWake_frame now
  exact awaits.frame (by rw [same]) (by rw [same])

theorem onFinished (awaits : Awaits started scheduler) (result : Except String BuildOutcome)
    (other : ∀ running, scheduler.running = some running → running.isCancelled = false →
      running.build.plan ≠ .reload) :
    Awaits started (scheduler.onFinished result).1 := by
  rcases awaits with pending | ⟨running, waiting, live, reload, -⟩
  · obtain ⟨project, sourceDir, compiler, same⟩ := scheduler.onFinished_frame result
    exact .inl (by rw [same]; exact pending)
  · exact absurd reload (other running waiting live)

end Awaits

namespace BuildRun

variable {tree : FileTree} {source : ProjectSource} {debounce : Time}
  {turns earlier later : List Turn} {system : BuildSystem} {turn : Turn}

theorem published_eq
    (run : BuildRun (.create tree source debounce) (earlier ++ turn :: later) system) :
    turn.published = shownAfter earlier turn := by
  rcases run.turn_cases with ⟨rfl, rfl⟩ | ⟨before, action, moved, past, possible, rfl⟩
  · rw [BuildSystem.opening_published, shownAfter_of_still rfl rfl]
  · obtain ⟨stage, decided, reaction, after, same, effects⟩ :=
      BuildSystem.reaction_of_step? possible
    rw [Turn.published, effects]
    cases reaction with
    | quiet aside =>
        rw [filterMap_published_log, shownAfter_of_still (Turn.isConfigChange_of_aside aside ..)
          (Turn.ended?_of_aside aside ..)]
    | @changed change loops =>
        rw [Scheduler.thenLaunch_published, Scheduler.onChange_published]
        cases change <;> rfl
    | woken loops due =>
        rw [Scheduler.thenLaunch_published, shownAfter_of_still rfl rfl]
        rfl
    | @finished build result loops ended =>
        obtain ⟨running, -, waiting, rfl, -⟩ := before.finished_of_result? ended
        have live := (past.fresh loops).live running waiting
        rw [Scheduler.thenLaunch_published, Scheduler.onFinished_published]
        simp only [shownAfter, Turn.isConfigChange, Turn.ended?, ended, live, waiting]
        cases cancelled : running.isCancelled <;> simp [cancelled]
    | stopped => rw [Scheduler.stop_published, shownAfter_of_still rfl rfl]
    | left => rw [Scheduler.leave_published, shownAfter_of_still rfl rfl]

theorem hasResults (run : BuildRun (.create tree source debounce) turns system) :
    system.HasResults := by
  induction run with
  | begin =>
      have created : (BuildSystem.create tree source debounce).HasResults := by
        simp [BuildSystem.HasResults, BuildSystem.create]
      exact created.begin
  | step run possible ih => exact ih.step run.coherent possible

theorem finish_isTerminal {build : Build} {result : Except String BuildOutcome}
    (run : BuildRun (.create tree source debounce) turns system)
    (ended : system.result? = some (build, result)) :
    (Scheduler.shownResult result).isTerminal = true := by
  exact run.hasResults.of_result? ended

theorem ending {build : Build} {result : Except String BuildOutcome}
    (run : BuildRun (.create tree source debounce) (earlier ++ turn :: later) system)
    (ended : turn.ended? = some (build, result)) :
    ∃ reached, BuildRun (.create tree source debounce) earlier reached ∧
      reached.stage = .running ∧ reached.result? = some (build, result) := by
  rcases run.turn_cases with ⟨rfl, rfl⟩ | ⟨before, action, moved, past, possible, rfl⟩
  · simp [Turn.ended?, BuildSystem.opening] at ended
  · cases action with
    | finish =>
        refine ⟨before, past, ?_, ended⟩
        cases BuildSystem.happens_of_step? possible with
        | progressed acting => simp [BuildAction.build?] at acting
        | finished loops => exact loops
    | _ => simp [Turn.ended?] at ended

theorem awaits {change : Turn} {between : List Turn}
    (run : BuildRun (.create tree source debounce) (earlier ++ change :: between) system)
    (changed : change.isConfigChange = true)
    (silent : ∀ turn ∈ between, ∀ state ∈ turn.published, state = .loading)
    (running : system.stage = .running) :
    Awaits (startedIn between) system.scheduler := by
  refine run.since (fun between reached =>
    (∀ turn ∈ between, ∀ state ∈ turn.published, state = .loading) →
      reached.stage = .running → Awaits (startedIn between) reached.scheduler)
    (Turn.action_of_isConfigChange changed) ?_ ?_ silent running
  · intro reached moved _ possible _ _ _
    obtain ⟨stage, decided, reaction, -, same, -⟩ := BuildSystem.reaction_of_step? possible
    cases reaction with
    | quiet aside => simp [BuildAction.isOfLoop] at aside
    | changed =>
        refine .inl ?_
        rw [same, Scheduler.thenLaunch_fst, Scheduler.launch_of_unwanted rfl]
        rfl
  · intro between reached action moved past awaited possible silent running
    have earlierSilent : ∀ turn ∈ between, ∀ state ∈ turn.published, state = .loading :=
      fun turn member => silent turn (List.mem_append_left _ member)
    obtain ⟨stage, decided, reaction, after, same, effects⟩ :=
      BuildSystem.reaction_of_step? possible
    rw [startedIn_append, startedIn_singleton, Turn.started, effects, same]
    cases reaction with
    | quiet aside =>
        rw [filterMap_started_log, List.append_nil]
        exact awaited earlierSilent (after.symm.trans running)
    | changed loops =>
        exact ((awaited earlierSilent loops).onChange ..).thenLaunch (Scheduler.onChange_started ..)
    | woken loops due => exact ((awaited earlierSilent loops).onWake _).thenLaunch rfl
    | @finished build result loops ended =>
        refine ((awaited earlierSilent loops).onFinished result ?_).thenLaunch
          (Scheduler.onFinished_started ..)
        intro waiting found live
        exfalso
        have terminal := past.finish_isTerminal ended
        have loading : Scheduler.shownResult result = .loading := by
          refine silent _ (List.mem_append_right _ (List.mem_singleton.mpr rfl)) _ ?_
          rw [Turn.published, effects, Scheduler.thenLaunch_published,
            Scheduler.onFinished_published]
          simp [found, live]
        simp [loading, BuildState.isTerminal] at terminal
    | stopped loops | left loops => simp [after] at running

theorem next_result {change shown : Turn} {between : List Turn} {state : BuildState}
    (run : BuildRun (.create tree source debounce)
      (earlier ++ change :: between ++ shown :: later) system)
    (changed : change.isConfigChange = true)
    (silent : ∀ turn ∈ between, ∀ state ∈ turn.published, state = .loading)
    (member : state ∈ shown.published) (terminal : state ≠ .loading) :
    ∃ build result, shown.ended? = some (build, result) ∧ state = Scheduler.shownResult result ∧
      build ∈ startedIn between ∧ build.plan = .reload := by
  rw [run.published_eq, shownAfter] at member
  split at member
  · exact absurd (List.mem_singleton.mp member) terminal
  · split at member
    · rename_i build result ended
      split at member
      · rename_i fresh
        obtain ⟨reached, past, loops, result?⟩ := run.ending ended
        obtain ⟨running, -, waiting, rfl, -⟩ := reached.finished_of_result? result?
        refine ⟨running.build, result, ended, List.mem_singleton.mp member, ?_⟩
        rcases past.awaits changed silent loops with pending | ⟨again, found, -, reload, started⟩
        · have none : (startedIn (sinceConfigChange _)).isEmpty = true :=
            (past.fresh loops).pending.symm.trans pending
          rw [List.isEmpty_iff.mp none] at fresh
          simp at fresh
        · obtain rfl := Option.some.inj (waiting.symm.trans found)
          exact ⟨started, reload⟩
      · simp at member
    · simp at member

/-- Observers see each change of the project file as loading and the end of each build that no such
change has overtaken as its result, and nothing else. Builds have different numbers and their ends
come in the order of their starts, and the first result after a change of the project file is the
one of a build that was started after it to read the file again. -/
theorem publications (run : BuildRun (.create tree source debounce) turns system) :
    (∀ earlier turn later, turns = earlier ++ turn :: later →
      turn.published = shownAfter earlier turn ∧
        ∀ build result, turn.ended? = some (build, result) →
          (Scheduler.shownResult result).isTerminal = true) ∧
      (startedIn turns).map Build.number = List.range system.scheduler.builds ∧
      endedIn turns <+: startedIn turns ∧
      ∀ earlier change between shown later state,
        turns = earlier ++ change :: between ++ shown :: later → change.isConfigChange = true →
        (∀ turn ∈ between, ∀ state ∈ turn.published, state = .loading) →
        state ∈ shown.published → state ≠ .loading →
        ∃ build result, shown.ended? = some (build, result) ∧
          state = Scheduler.shownResult result ∧ build ∈ startedIn between ∧
          build.plan = .reload := by
  refine ⟨?_, run.sequential.numbered, run.sequential.ordered, ?_⟩
  · rintro earlier turn later rfl
    refine ⟨run.published_eq, fun build result ended => ?_⟩
    obtain ⟨reached, past, -, ended⟩ := run.ending ended
    exact past.finish_isTerminal ended
  · rintro earlier change between shown later state rfl changed silent member terminal
    exact run.next_result changed silent member terminal

def overtaken : List Turn × BuildSystem :=
  BuildSystem.sample.attempt
    [.load 0, .list 0, .ask 0, .change .config, .answer 0 sampleUse, .finish, .pass 500, .wake,
      .load 1, .list 1, .ask 1, .answer 1 sampleUse, .finish]

theorem publications_overtaken : ∃ change shown state,
    let earlier := overtaken.1.take 4
    let between := (overtaken.1.take 13).drop 5
    (BuildRun .sample (earlier ++ change :: between ++ [shown]) overtaken.2 ∧
      change.isConfigChange = true ∧
      (∀ turn ∈ between, ∀ state ∈ turn.published, state = .loading) ∧
      state ∈ shown.published ∧ state ≠ .loading) ∧
      change.published = shownAfter earlier change ∧
      shown.published = shownAfter (earlier ++ change :: between) shown ∧
      endedIn (earlier ++ change :: between ++ [shown]) <+:
        startedIn (earlier ++ change :: between ++ [shown]) ∧
      ∃ build result, shown.ended? = some (build, result) ∧ state = Scheduler.shownResult result ∧
        build ∈ startedIn between ∧ build.plan = .reload := by
  obtain ⟨change, atChange, changed⟩ := Option.map_eq_some_iff.mp
    (show (overtaken.1.take 13)[4]?.map Turn.isConfigChange = some true by cbv)
  obtain ⟨shown, atShown, shows⟩ := Option.map_eq_some_iff.mp
    (show overtaken.1[13]?.map (fun turn => turn.published.map BuildState.isTerminal) =
      some [true] by cbv)
  have silent : ((overtaken.1.take 13).drop 5).all (fun turn => turn.published.isEmpty) = true := by
    cbv
  obtain ⟨state, only, terminal⟩ := List.map_eq_singleton_iff.mp shows
  have whole : overtaken.1.take 4 ++ change :: (overtaken.1.take 13).drop 5 ++ [shown] =
      overtaken.1 := by
    have atEnd : (overtaken.1.drop 14).isEmpty = true := by cbv
    have front := take_cons_drop atChange
    have back := take_cons_drop atShown
    rw [List.isEmpty_iff.mp atEnd] at back
    rw [List.take_take] at front
    exact (congrArg (· ++ [shown]) front).trans back
  have run : BuildRun .sample (overtaken.1.take 4 ++ change :: (overtaken.1.take 13).drop 5 ++
      [shown]) overtaken.2 := by
    rw [whole]
    exact .attempt BuildSystem.sample _
  have quiet : ∀ turn ∈ (overtaken.1.take 13).drop 5, ∀ state ∈ turn.published,
      state = .loading := by
    intro turn member other found
    have nothing := List.all_eq_true.mp silent turn member
    rw [List.isEmpty_iff.mp nothing] at found
    simp at found
  have result : state ≠ .loading := by
    rintro rfl
    simp [BuildState.isTerminal] at terminal
  have shownState : state ∈ shown.published := by simp [only]
  obtain ⟨each, -, ordered, next⟩ := publications run
  exact ⟨change, shown, state, ⟨run, changed, quiet, shownState, result⟩,
    (each _ change _ (by rw [List.append_assoc, List.cons_append])).1, (each _ shown [] rfl).1,
    ordered, next _ change _ shown [] state rfl changed quiet shownState result⟩

end BuildRun

end BuildWatch
