import BuildWatch.Proofs.Scheduler.Snapshot

/-!
Which version of the project file a build is made from. The first build after a change of the file
reads it again, and the loop keeps what that build brings back. If that build dies, nothing comes
back and nobody reads the file again: the loop goes on with the project from before the change.
-/

namespace BuildWatch

/-- The project that the loop had when the project file last changed. -/
def heldAtConfigChange (turns : List Turn) : Option Project :=
  (turns.reverse.find? Turn.isConfigChange).bind (·.before.scheduler.project)

theorem heldAtConfigChange_append_singleton (turns : List Turn) (turn : Turn) :
    heldAtConfigChange (turns ++ [turn]) =
      if turn.isConfigChange then turn.before.scheduler.project
      else heldAtConfigChange turns := by
  rw [heldAtConfigChange, List.reverse_append, List.reverse_singleton, List.singleton_append,
    List.find?_cons]
  cases turn.isConfigChange <;> rfl

/-- Where the project of the loop comes from: it is the one from before the latest change of the
project file, until the first build since then ends by itself; then that build has read it. -/
inductive Known (held : Option Project) (since : List Turn) (scheduler : Scheduler) : Prop
  | old : scheduler.project = held →
      (∀ reader rest, startedIn since = reader :: rest →
        WasKilled since reader ∨ scheduler.waiting = [reader]) →
      Known held since scheduler
  | read {reader rest} : startedIn since = reader :: rest → ¬WasKilled since reader →
      scheduler.waiting ≠ [reader] →
      (∀ project, scheduler.project = some project → WasRead since reader (some project)) →
      Known held since scheduler

namespace Known

variable {held : Option Project} {since : List Turn} {scheduler next : Scheduler} {turn : Turn}

theorem frame (known : Known held since scheduler) (project : next.project = scheduler.project)
    (waiting : next.waiting = scheduler.waiting) : Known held since next := by
  cases known with
  | old same reader =>
      exact .old (project.trans same) fun first rest whole => waiting ▸ reader first rest whole
  | read whole alive other reads =>
      exact .read whole alive (waiting ▸ other) fun kept found =>
        reads kept (project.symm.trans found)

theorem create (source : ProjectSource) (debounce : Time) :
    Known none [] (Scheduler.create source debounce) :=
  .old rfl nofun

theorem onChange (known : Known held since scheduler) (now : Time) (change : Change) :
    Known held since (scheduler.onChange now change).1 :=
  known.frame (Scheduler.onChange_project ..) (Scheduler.onChange_waiting ..)

theorem onWake (known : Known held since scheduler) (now : Time) :
    Known held since (scheduler.onWake now) :=
  known.frame (Scheduler.onWake_project ..) (Scheduler.onWake_waiting ..)

theorem quiet (known : Known held since scheduler) (started : turn.started = [])
    (kills : ∀ build, turn.killed? = some build → scheduler.waiting = [build]) :
    Known held (since ++ [turn]) scheduler := by
  have starts : startedIn (since ++ [turn]) = startedIn since := by simp [started]
  cases known with
  | old same reader =>
      refine .old same fun first rest whole => ?_
      rcases reader first rest (starts.symm.trans whole) with killed | waiting
      · exact .inl (killed.mono (List.subset_append_left ..))
      · exact .inr waiting
  | @read reader rest whole alive other reads =>
      refine .read (starts.trans whole) (fun killed => ?_) other fun kept found =>
        (reads kept found).mono (List.subset_append_left ..)
      rcases wasKilled_append_singleton.mp killed with earlier | now
      · exact alive earlier
      · exact other (kills reader now)

theorem launch (known : Known held since scheduler)
    (started : turn.started = scheduler.launch.2.filterMap Effect.started?)
    (still : turn.killed? = none) (nodup : (startedIn (since ++ [turn])).Nodup) :
    Known held (since ++ [turn]) scheduler.launch.1 := by
  have starts : startedIn (since ++ [turn]) =
      startedIn since ++ scheduler.launch.2.filterMap Effect.started? := by simp [started]
  rcases scheduler.launch_started_cases with none | ⟨free, build, new⟩
  · refine (known.quiet (started.trans none) (by simp [still])).frame scheduler.launch_project ?_
    rw [Scheduler.launch_waiting, none, List.append_nil]
  · have waiting : scheduler.launch.1.waiting = [build] := by
      rw [Scheduler.launch_waiting, free, new, List.nil_append]
    rw [new] at starts
    cases known with
    | old same reader =>
        refine .old (scheduler.launch_project.trans same) fun first rest whole => ?_
        cases before : startedIn since with
        | nil =>
            rw [starts, before, List.nil_append] at whole
            exact .inr (by rw [waiting, (List.cons.inj whole).1])
        | cons head tail =>
            rw [starts, before, List.cons_append] at whole
            rcases reader head tail before with killed | also
            · exact .inl ((List.cons.inj whole).1 ▸ killed.mono (List.subset_append_left ..))
            · simp [free] at also
    | @read reader rest whole alive other reads =>
        refine .read (starts.trans (by rw [whole, List.cons_append])) (fun killed => ?_) ?_ ?_
        · rcases wasKilled_append_singleton.mp killed with earlier | now
          · exact alive earlier
          · simp [still] at now
        · rw [waiting]
          rintro ⟨rfl⟩
          rw [starts, whole] at nodup
          simp at nodup
        · rw [scheduler.launch_project]
          exact fun kept found => (reads kept found).mono (List.subset_append_left ..)

theorem lost (known : Known held since scheduler) (project : next.project = scheduler.project)
    (free : next.waiting = [])
    (killed : ∀ reader rest, startedIn since = reader :: rest → scheduler.waiting = [reader] →
      WasKilled since reader) : Known held since next := by
  cases known with
  | old same reader =>
      refine .old (project.trans same) fun first rest whole => ?_
      rcases reader first rest whole with already | waiting
      · exact .inl already
      · exact .inl (killed first rest whole waiting)
  | read whole alive other reads =>
      exact .read whole alive (by simp [free]) (by rwa [project])

theorem onFinished {running : RunningBuild} {result : Except String BuildOutcome}
    (known : Known held since scheduler) (fresh : Fresh (startedIn since) scheduler)
    (waiting : scheduler.running = some running)
    (brings : running.isCancelled = false → Brings since running.build result) :
    Known held since (scheduler.onFinished result).1 := by
  have free : (scheduler.onFinished result).1.waiting = [] := scheduler.waiting_onFinished result
  have project := scheduler.onFinished_project result
  have only {reader : Build} (waits : scheduler.waiting = [reader]) : running.build = reader := by
    simpa [Scheduler.waiting, waiting] using waits
  by_cases cancelled : running.isCancelled = true
  · refine known.lost (by simp [project, waiting, cancelled]) free fun reader rest whole waits => ?_
    have live := (fresh.live running waiting).mp (by simp [whole, only waits])
    simp [live] at cancelled
  · have live : running.isCancelled = false := by simpa using cancelled
    have brought := brings live
    unfold Brings at brought
    split at brought
    · rename_i nothing
      refine known.lost (by simp [project, waiting, live, nothing]) free
        fun reader rest whole waits => ?_
      obtain rfl := only waits
      exact brought (by rw [(fresh.reloads _ rest whole).1]; rfl)
    · rename_i something
      obtain ⟨reload, alive, read⟩ := brought
      have among := (fresh.live running waiting).mpr live
      obtain ⟨reader, rest, whole⟩ := List.exists_cons_of_ne_nil (List.ne_nil_of_mem among)
      have first : running.build = reader := by
        rw [whole] at among
        rcases List.mem_cons.mp among with same | later
        · exact same
        · have reuse := (fresh.reloads reader rest whole).2 _ later
          simp [reload, BuildPlan.isReload] at reuse
      subst reader
      refine .read whole alive (by simp [free]) fun kept found => ?_
      have same : some kept = _ := found.symm.trans project
      simp only [waiting, Option.any_some, live, something] at same
      simpa [same] using read

end Known

/-- Where the project of a build comes from when it is started: the build reads the file itself, or
it is given what the first build since the latest change has read, or what the loop had before that
change because that build died. -/
inductive Stems (held : Option Project) (since : List Turn) (build : Build) : Prop
  | itself : build.plan = .reload → Stems held since build
  | lost {kept reader} : build.plan = .reuse kept → reader ∈ startedIn since →
      reader.plan = .reload → WasKilled since reader → held = some kept → Stems held since build
  | shared {kept reader} : build.plan = .reuse kept → reader ∈ startedIn since →
      reader.plan = .reload → ¬WasKilled since reader → WasRead since reader (some kept) →
      Stems held since build

theorem Known.stems {held : Option Project} {since : List Turn} {scheduler : Scheduler}
    {build : Build} (known : Known held since scheduler)
    (fresh : Fresh (startedIn since) scheduler)
    (member : build ∈ scheduler.launch.2.filterMap Effect.started?) :
    Stems held since build := by
  have launched := scheduler.launches
  generalize scheduler.launch.2.filterMap Effect.started? = new, scheduler.launch.1 = after
    at launched member
  cases launched with
  | held | skipped => simp at member
  | @started plan wanted free planned =>
      rw [List.mem_singleton.mp member]
      by_cases pending : scheduler.reloadPending = true
      · refine .itself ?_
        simpa [Scheduler.plan?, pending, eq_comm] using planned
      · have settled : (startedIn since).isEmpty = false := by simpa [fresh.pending] using pending
        obtain ⟨reader, rest, whole⟩ :=
          List.exists_cons_of_ne_nil (List.isEmpty_eq_false_iff.mp settled)
        obtain ⟨kept, project, rfl⟩ : ∃ kept, scheduler.project = some kept ∧
            BuildPlan.reuse kept = plan := by
          simpa [Scheduler.plan?, pending] using planned
        have among : reader ∈ startedIn since := by simp [whole]
        have reload := (fresh.reloads reader rest whole).1
        cases known with
        | old same killed =>
            rcases killed reader rest whole with killed | waiting
            · exact .lost rfl among reload killed (same.symm.trans project)
            · simp [Scheduler.waiting, free] at waiting
        | read also alive other reads =>
            obtain rfl := (List.cons.inj (whole.symm.trans also)).1
            exact .shared rfl among reload alive (reads kept project)

namespace BuildRun

variable {tree : FileTree} {source : ProjectSource} {debounce : Time} {turns : List Turn}
  {system : BuildSystem}

theorem since_nodup (run : BuildRun (.create tree source debounce) turns system) :
    (startedIn (sinceConfigChange turns)).Nodup := by
  obtain ⟨before, same⟩ := sinceConfigChange_suffix turns
  have nodup := run.started_nodup
  rw [← same, startedIn_append] at nodup
  exact (List.nodup_append.mp nodup).2.1

theorem known_onFinished {held : Option Project} {build : Build}
    {result : Except String BuildOutcome}
    (run : BuildRun (.create tree source debounce) turns system)
    (running : system.stage = .running)
    (known : Known held (sinceConfigChange turns) system.scheduler)
    (ended : system.result? = some (build, result)) :
    Known held (sinceConfigChange turns) (system.scheduler.onFinished result).1 := by
  obtain ⟨current, -, waiting, rfl, -⟩ := system.finished_of_result? ended
  exact known.onFinished (run.fresh running) waiting (run.brings running ended waiting)

theorem known (run : BuildRun (.create tree source debounce) turns system)
    (running : system.stage = .running) :
    Known (heldAtConfigChange turns) (sinceConfigChange turns) system.scheduler := by
  induction run with
  | begin =>
      rw [BuildSystem.begin_scheduler]
      exact (Known.create source debounce).launch rfl rfl BuildRun.begin.since_nodup
  | @step turns before action moved run possible ih =>
      have nodup := (run.step possible).since_nodup
      obtain ⟨stage, decided, reaction, after, same, effects⟩ :=
        BuildSystem.reaction_of_step? possible
      rw [sinceConfigChange_append_singleton] at nodup ⊢
      rw [same, heldAtConfigChange_append_singleton]
      cases reaction with
      | quiet aside =>
          rw [Turn.isConfigChange_of_aside aside]
          refine (ih (after.symm.trans running)).quiet ?_ fun build killed => ?_
          · rw [Turn.started, effects, filterMap_started_log]
          · obtain ⟨task, acting, rfl⟩ := Turn.actor?_of_killed? killed
            have owned := run.coherent.owned task (before.mem_of_actor? acting)
            simp [Scheduler.waiting, owned]
      | @changed change loops =>
          cases change with
          | config =>
              refine .old ?_ fun _ _ other => by cases other
              rw [Scheduler.thenLaunch_fst, Scheduler.launch_project, Scheduler.onChange_project]
              rfl
          | source | music =>
              refine ((ih loops).onChange ..).launch ?_ rfl nodup
              rw [Turn.started, effects]
              exact Scheduler.thenLaunch_started (Scheduler.onChange_started ..)
      | woken loops due =>
          refine ((ih loops).onWake _).launch ?_ rfl nodup
          rw [Turn.started, effects]
          exact Scheduler.thenLaunch_started rfl
      | finished loops ended =>
          refine (run.known_onFinished loops (ih loops) ended).launch ?_ rfl nodup
          rw [Turn.started, effects]
          exact Scheduler.thenLaunch_started (Scheduler.onFinished_started ..)
      | stopped loops | left loops => simp [after] at running

theorem stems {past later : List Turn} {start : Turn} {build : Build}
    (run : BuildRun (.create tree source debounce) (past ++ start :: later) system)
    (started : build ∈ start.started) :
    Stems (heldAtConfigChange past) (sinceConfigChange past) build := by
  rcases run.turn_cases with ⟨rfl, rfl⟩ | ⟨before, action, moved, earlier, possible, rfl⟩
  · exact (Known.create source debounce).stems (Fresh.create source debounce) started
  · obtain ⟨stage, decided, reaction, after, same, effects⟩ :=
      BuildSystem.reaction_of_step? possible
    rw [Turn.started, effects] at started
    cases reaction with
    | quiet => simp at started
    | @changed change loops =>
        rw [Scheduler.thenLaunch_started (Scheduler.onChange_started ..)] at started
        cases change with
        | config =>
            rw [Scheduler.launch_of_unwanted rfl] at started
            simp at started
        | source | music =>
            exact ((earlier.known loops).onChange ..).stems
              ((earlier.fresh loops).onChange (by simp) _) started
    | woken loops due =>
        rw [Scheduler.thenLaunch_started rfl] at started
        exact ((earlier.known loops).onWake _).stems ((earlier.fresh loops).onWake _) started
    | finished loops ended =>
        rw [Scheduler.thenLaunch_started (Scheduler.onFinished_started ..)] at started
        exact (earlier.known_onFinished loops (earlier.known loops) ended).stems
          ((earlier.fresh loops).onFinished _) started
    | stopped => simp at started
    | left => simp at started

/-- No change of the project file has overtaken a build that is among those started since the
latest one. -/
theorem since_start {past since : List Turn} {start : Turn} {build : Build}
    (run : BuildRun (.create tree source debounce) (past ++ start :: since) system)
    (started : build ∈ start.started)
    (fresh : build ∈ startedIn (sinceConfigChange (past ++ start :: since))) :
    sinceConfigChange (past ++ start :: since) = sinceConfigChange past ++ start :: since := by
  rw [sinceConfigChange_append] at fresh ⊢
  by_cases changed : (start :: since).any Turn.isConfigChange = true
  · rw [if_pos changed] at fresh
    exfalso
    rcases List.suffix_cons_iff.mp (sinceConfigChange_suffix (start :: since)) with whole | later
    · obtain ⟨turn, member, config⟩ := List.any_eq_true.mp changed
      rw [← whole] at member
      simpa [config] using List.mem_rtakeWhile_imp member
    · obtain ⟨between, same⟩ := later
      have nodup := run.started_nodup
      rw [List.append_cons, ← same, startedIn_append, startedIn_append, startedIn_singleton,
        startedIn_append] at nodup
      exact (List.nodup_append.mp nodup).2.2 build (List.mem_append_right _ started) build
        (List.mem_append_right _ fresh) rfl
  · rw [if_neg changed]

theorem asked_cases {past : List Turn} {ask : Turn} {build : Build} {project : Project}
    {request : Request} {later : List Turn}
    (run : BuildRun (.create tree source debounce) (past ++ ask :: later) system)
    (asked : ask.asked? = some (build, project, request)) :
    build ∈ startedIn (sinceConfigChange past) ∧
      ¬WasKilled (sinceConfigChange past) build ∧
      Takes (sinceConfigChange past) build project ∧
      WasRequested (sinceConfigChange past) project request := by
  obtain ⟨isAborted, acting⟩ := Turn.actor?_of_asked? asked
  rcases run.turn_cases with ⟨rfl, rfl⟩ | ⟨before, action, moved, earlier, possible, rfl⟩
  · simp [Turn.actor?, BuildSystem.opening] at acting
  · have member := before.mem_of_actor? acting
    have owned := earlier.coherent.owned _ member
    have running : before.stage = .running := by
      by_contra stopped
      simpa using earlier.sequential.givenUp stopped _ owned
    have sourced := earlier.sourced running member rfl
    exact ⟨((earlier.fresh running).live _ owned).mpr rfl, sourced.alive rfl,
      sourced.takes project rfl, sourced.requests project request rfl⟩

/-- The project of a request was read since the project file last changed before its build was
started, by the first build started since then. Only if that build died it is the project from
before the change. -/
theorem asked_project {past since later : List Turn} {start ask : Turn} {build : Build}
    {project : Project} {request : Request}
    (run : BuildRun (.create tree source debounce)
      (past ++ start :: since ++ ask :: later) system)
    (started : build ∈ start.started) (asked : ask.asked? = some (build, project, request)) :
    WasRequested (sinceConfigChange past ++ start :: since) project request ∧
      ∃ reader ∈ startedIn (sinceConfigChange past ++ [start]), reader.plan = .reload ∧
        (¬WasKilled (sinceConfigChange past) reader →
          WasRead (sinceConfigChange past ++ start :: since) reader (some project)) ∧
        (WasKilled (sinceConfigChange past) reader →
          heldAtConfigChange past = some project) := by
  obtain ⟨fresh, alive, takes, requested⟩ := run.asked_cases asked
  have begun := run
  rw [List.append_assoc, List.cons_append] at begun
  obtain ⟨reached, earlier⟩ := run.earlierRun (by simp)
  rw [earlier.since_start started fresh] at alive takes requested
  have within : sinceConfigChange past ⊆ sinceConfigChange past ++ start :: since :=
    List.subset_append_left ..
  refine ⟨requested, ?_⟩
  rw [startedIn_append, startedIn_singleton]
  cases begun.stems started with
  | itself reload =>
      rw [Takes, reload] at takes
      exact ⟨build, List.mem_append_right _ started, reload, fun _ => takes,
        fun killed => absurd (killed.mono within) alive⟩
  | lost reuse among reload killed same =>
      rw [Takes, reuse] at takes
      exact ⟨_, List.mem_append_left _ among, reload, fun alive => absurd killed alive,
        fun _ => by rw [same, takes]⟩
  | shared reuse among reload alive read =>
      rw [Takes, reuse] at takes
      refine ⟨_, List.mem_append_left _ among, reload, fun _ => ?_, fun killed =>
        absurd killed alive⟩
      rw [takes]
      exact read.mono within

/-- The project file gets a title, the build that reads it dies while it compiles, and then the
sources change. -/
def deadReload : List Turn × BuildSystem :=
  BuildSystem.sample.attempt
    [.load 0, .list 0, .ask 0, .answer 0 sampleUse, .finish,
      -- {"title":"B"}
      .edit (projectTree ⟨#[123, 34, 116, 105, 116, 108, 101, 34, 58, 34, 66, 34, 125]⟩),
      .change .config, .pass 500, .wake, .load 1, .list 1, .ask 1, .answer 1 (.crashed "gone"),
      .finish, .change .source, .pass 500, .wake, .load 2, .list 2]

theorem deadReload_asks : ∃ start ask system build project request,
    let past := deadReload.1.take 17
    let since := deadReload.1.drop 18
    BuildRun .sample (past ++ start :: since ++ [ask]) system ∧ build ∈ start.started ∧
      ask.asked? = some (build, project, request) ∧
      ∀ reader, ¬WasRead (sinceConfigChange past ++ start :: since) reader (some project) := by
  obtain ⟨moved, possible⟩ := Option.isSome_iff_exists.mp
    (show (deadReload.2.step? (.ask 2)).isSome = true by cbv)
  obtain ⟨⟨build, project, request⟩, asked⟩ := Option.isSome_iff_exists.mp
    (show (Turn.asked? ⟨deadReload.2, some (.ask 2), [], deadReload.2⟩).isSome = true by cbv)
  have starts : deadReload.1[17]?.map Turn.started =
      (Turn.asked? ⟨deadReload.2, some (.ask 2), [], deadReload.2⟩).map fun asked => [asked.1] := by
    cbv
  have others : (Turn.asked? ⟨deadReload.2, some (.ask 2), [], deadReload.2⟩).all (fun asked =>
      (sinceConfigChange (deadReload.1.take 17) ++ deadReload.1.drop 17).all fun turn =>
        turn.reading?.all fun reading => reading.2 ≠ some asked.2.1) = true := by
    cbv
  rw [asked, Option.map_some, Option.map_eq_some_iff] at starts
  obtain ⟨start, found, started⟩ := starts
  have whole := take_cons_drop found
  have split : deadReload.1.drop 17 = start :: deadReload.1.drop 18 := by
    rw [← List.append_cancel_left_eq (deadReload.1.take 17), List.take_append_drop, whole]
  refine ⟨start, ⟨deadReload.2, some (.ask 2), moved.2, moved.1⟩, moved.1, build, project, request,
    ?_, by simp [started], asked, ?_⟩
  · rw [whole]
    exact (BuildRun.attempt BuildSystem.sample _).step possible
  · rintro reader ⟨turn, member, read⟩
    rw [asked, Option.all_some, split, List.all_eq_true] at others
    simpa [read] using others turn member

theorem asked_project_lost : ∃ start ask system build project request,
    let past := deadReload.1.take 17
    let since := deadReload.1.drop 18
    (BuildRun .sample (past ++ start :: since ++ [ask]) system ∧ build ∈ start.started ∧
      ask.asked? = some (build, project, request)) ∧
      WasRequested (sinceConfigChange past ++ start :: since) project request ∧
      ∃ reader ∈ startedIn (sinceConfigChange past ++ [start]), reader.plan = .reload ∧
        WasKilled (sinceConfigChange past) reader ∧ heldAtConfigChange past = some project := by
  obtain ⟨start, ask, system, build, project, request, run, started, asked, unread⟩ :=
    deadReload_asks
  obtain ⟨requested, reader, among, reload, read, held⟩ := asked_project run started asked
  have killed : WasKilled (sinceConfigChange (deadReload.1.take 17)) reader := by
    by_contra alive
    exact unread reader (read alive)
  exact ⟨start, ask, system, build, project, request, ⟨run, started, asked⟩, requested, reader,
    among, reload, killed, held killed⟩

theorem asked_project_stale :
    ¬∀ (tree : FileTree) (source : ProjectSource) (debounce : Time) (system : BuildSystem)
      (past since later : List Turn) (start ask : Turn) (build : Build) (project : Project)
      (request : Request),
      BuildRun (.create tree source debounce) (past ++ start :: since ++ ask :: later) system →
      build ∈ start.started → ask.asked? = some (build, project, request) →
      ∃ reader, WasRead (sinceConfigChange past ++ start :: since) reader (some project) := by
  intro fresh
  obtain ⟨start, ask, system, build, project, request, run, started, asked, unread⟩ :=
    deadReload_asks
  obtain ⟨reader, read⟩ := fresh _ _ _ _ _ _ _ _ _ _ _ _ run started asked
  exact unread reader read

end BuildRun

end BuildWatch
