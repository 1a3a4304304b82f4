import BuildWatch.Proofs.Scheduler.Reload
import BuildWatch.Proofs.Scheduler.Timer

/-!
A change of the project file postpones every build. Whatever the loop wanted before is given up and
the timer starts over, so no build begins before the debounce is over, and the one that begins then
reads the project file again.
-/

namespace BuildWatch

namespace Turn

variable {turn : Turn}

theorem asksTimer_of_isConfigChange (changed : turn.isConfigChange = true) :
    turn.asksTimer = true := by
  have acted := action_of_isConfigChange changed
  simp [asksTimer, acted]

end Turn

theorem sinceConfigChange_subset {earlier later : List Turn} {change : Turn}
    (changed : change.isConfigChange = true) :
    sinceConfigChange (earlier ++ change :: later) ⊆ later := by
  rw [List.append_cons, sinceConfigChange_append, sinceConfigChange_append_singleton, if_pos changed]
  intro turn member
  split at member
  · exact (sinceConfigChange_suffix later).subset member
  · exact member

theorem startedIn_subset {some more : List Turn} (fewer : some ⊆ more) :
    startedIn some ⊆ startedIn more := by
  intro build member
  obtain ⟨turn, among, started⟩ := List.mem_flatMap.mp member
  exact List.mem_flatMap.mpr ⟨turn, fewer among, started⟩

namespace BuildRun

variable {tree : FileTree} {source : ProjectSource} {debounce : Time}
  {earlier later : List Turn} {change : Turn} {system : BuildSystem}

theorem given_up
    (run : BuildRun (.create tree source debounce) (earlier ++ change :: later) system)
    (changed : change.isConfigChange = true) :
    change.after.scheduler.wantsBuild = false ∧ change.started = [] := by
  have acted := Turn.action_of_isConfigChange changed
  rcases run.turn_cases with ⟨-, rfl⟩ | ⟨before, action, moved, past, possible, rfl⟩
  · simp [BuildSystem.opening] at acted
  · obtain rfl := Option.some.inj acted
    obtain ⟨stage, decided, reaction, -, same, effects⟩ := BuildSystem.reaction_of_step? possible
    cases reaction with
    | quiet aside => simp [BuildAction.isOfLoop] at aside
    | changed =>
        have unwanted : (before.scheduler.onChange before.now .config).1.wantsBuild = false := rfl
        have held := Scheduler.launch_of_unwanted unwanted
        constructor
        · rw [same, Scheduler.thenLaunch_fst, held]
          exact unwanted
        · rw [Turn.started, effects, Scheduler.thenLaunch_started (Scheduler.onChange_started ..),
            held]
          rfl

theorem first_reloads {before after : List Turn} {start : Turn} {build : Build}
    (run : BuildRun (.create tree source debounce)
      (earlier ++ change :: (before ++ start :: after)) system)
    (changed : change.isConfigChange = true) (first : startedIn before = [])
    (started : build ∈ start.started) : build.plan = .reload := by
  have none_earlier : ∀ reader,
      reader ∉ startedIn (sinceConfigChange (earlier ++ change :: before)) := by
    intro reader among
    have member := startedIn_subset (sinceConfigChange_subset changed) among
    simp [first] at member
  rw [← List.cons_append, ← List.append_assoc] at run
  cases run.stems started with
  | itself reload => exact reload
  | lost _ among | shared _ among => exact absurd among (none_earlier _)

theorem asked_after {ask : Turn} {build : Build} {project : Project} {request : Request}
    (run : BuildRun (.create tree source debounce) (earlier ++ change :: later) system)
    (changed : change.isConfigChange = true) (reload : build.plan = .reload)
    (member : ask ∈ later) (asked : ask.asked? = some (build, project, request)) :
    WasRead later build (some project) := by
  obtain ⟨between, rest, rfl⟩ := List.append_of_mem member
  rw [← List.cons_append, ← List.append_assoc] at run
  obtain ⟨-, -, takes, -⟩ := run.asked_cases asked
  rw [Takes, reload] at takes
  refine (takes.mono (sinceConfigChange_subset changed)).mono ?_
  exact List.subset_append_left ..

/-- A change of the project file starts no build and holds every build back for the debounce,
whatever was wanted or due when it came, and the first build after it reads the file again: when it
asks the compiler, then for a project that it has read since the change. -/
theorem config_change_postpones
    (run : BuildRun (.create tree source debounce) (earlier ++ change :: later) system)
    (changed : change.isConfigChange = true) :
    change.started = [] ∧
      (∀ time ∈ startTimes later, change.before.now + debounce ≤ time) ∧
      ∀ before start after build, later = before ++ start :: after → startedIn before = [] →
        build ∈ start.started → build.plan = .reload ∧
          ∀ ask ∈ later, ∀ project request, ask.asked? = some (build, project, request) →
            WasRead later build (some project) := by
  obtain ⟨unwanted, nothing⟩ := run.given_up changed
  refine ⟨nothing, run.held_back (Turn.asksTimer_of_isConfigChange changed) unwanted, ?_⟩
  rintro before start after build rfl first started
  have reload := run.first_reloads changed first started
  refine ⟨reload, ?_⟩
  intro ask member project request asked
  exact run.asked_after changed reload member asked

/-- When the project file changes, a third build is wanted for the sources, the timer is due once
more, and the second build still compiles; it ends before the debounce is over. -/
def changedInTheMiddle : List Turn × BuildSystem :=
  BuildSystem.sample.attempt
    [.load 0, .list 0, .ask 0, .answer 0 sampleUse, .finish, .change .source, .pass 500, .wake,
      .load 1, .list 1, .ask 1, .change .source, .pass 500, .wake, .change .source, .pass 500,
      .change .config, .wake, .pass 100, .answer 1 sampleUse, .finish, .pass 400, .wake, .load 2,
      .list 2, .ask 2]

theorem config_change_postpones_wanted : ∃ (change start ask : Turn) (project : Project),
    let later := changedInTheMiddle.1.drop 18
    let build : Build := ⟨2, 0, .reload⟩
    (BuildRun .sample (changedInTheMiddle.1.take 17 ++ change :: later) changedInTheMiddle.2 ∧
      change.isConfigChange = true ∧ change.before.now = 1500 ∧
      change.before.scheduler.wantsBuild = true ∧
      change.before.scheduler.delay.isDue 1500 = true ∧
      startedIn (later.take 5) = [] ∧ start.started = [build] ∧ ask ∈ later ∧
      ask.asked?.map (fun asked => (asked.1, asked.2.1)) = some (build, project)) ∧
      change.started = [] ∧ (∀ time ∈ startTimes later, 1500 + 500 ≤ time) ∧
      build.plan = .reload ∧ WasRead later build (some project) := by
  obtain ⟨change, found, facts⟩ := Option.map_eq_some_iff.mp
    (show changedInTheMiddle.1[17]?.map (fun turn => (turn.isConfigChange, turn.before.now,
      turn.before.scheduler.wantsBuild, turn.before.scheduler.delay.isDue 1500)) =
      some (true, 1500, true, true) by cbv)
  obtain ⟨changed, moment, wanted, due⟩ : change.isConfigChange = true ∧
      change.before.now = 1500 ∧ change.before.scheduler.wantsBuild = true ∧
      change.before.scheduler.delay.isDue 1500 = true := by
    simpa using facts
  have run : BuildRun .sample
      (changedInTheMiddle.1.take 17 ++ change :: changedInTheMiddle.1.drop 18)
      changedInTheMiddle.2 := by
    rw [take_cons_drop found]
    exact .attempt BuildSystem.sample _
  obtain ⟨start, first, started⟩ := Option.map_eq_some_iff.mp
    (show (changedInTheMiddle.1.drop 18)[5]?.map Turn.started = some [⟨2, 0, .reload⟩] by cbv)
  have none_before : (startedIn ((changedInTheMiddle.1.drop 18).take 5)).isEmpty = true := by cbv
  obtain ⟨ask, last, asks⟩ := Option.map_eq_some_iff.mp
    (show (changedInTheMiddle.1.drop 18)[8]?.map
      (fun turn => turn.asked?.map fun asked => asked.1) = some (some ⟨2, 0, .reload⟩) by cbv)
  obtain ⟨⟨build, project, request⟩, asked, rfl⟩ := Option.map_eq_some_iff.mp asks
  have member := List.mem_of_getElem? last
  obtain ⟨nothing, late, reads⟩ := config_change_postpones run changed
  obtain ⟨reload, read⟩ := reads _ start _ ⟨2, 0, .reload⟩ (take_cons_drop first).symm
    (List.isEmpty_iff.mp none_before) (by simp [started])
  rw [moment] at late
  exact ⟨change, start, ask, project,
    ⟨run, changed, moment, wanted, due, List.isEmpty_iff.mp none_before, started, member,
      by simp [asked]⟩,
    nothing, late, reload, read ask member project request asked⟩

end BuildRun

end BuildWatch
