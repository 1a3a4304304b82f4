import BuildWatch.Proofs.Debounce
import BuildWatch.Proofs.Scheduler.Publication
import BuildWatch.Proofs.Scheduler.Snapshot

/-!
No change is lost. Once the loop can build, it keeps every change in mind, by its timer or by the
wish for a build, until it starts a build. If no reading fails, it cannot build only while its first
project is being read, or after the build that was to read one has died; a change of the sources
that comes at such a time is not taken in.
-/

namespace BuildWatch

/-- A build that is still to come, or was started already. -/
def Owes (started : List Build) (scheduler : Scheduler) : Prop :=
  started ≠ [] ∨
    scheduler.canBuild = true ∧ (scheduler.wantsBuild = true ∨ scheduler.delay.armed = true)

namespace Owes

variable {started : List Build} {scheduler next : Scheduler}

theorem frame (owes : Owes started scheduler) (canBuild : next.canBuild = scheduler.canBuild)
    (wants : next.wantsBuild = scheduler.wantsBuild) (delay : next.delay = scheduler.delay) :
    Owes started next := by
  rw [Owes, canBuild, wants, delay]
  exact owes

theorem onConfigChange (scheduler : Scheduler) (now : Time) :
    Owes started (scheduler.onChange now .config).1 :=
  .inr ⟨Bool.or_true _, .inr (Delay.trigger_armed ..)⟩

theorem of_canBuild (can : scheduler.canBuild = true) (now : Time) (change : Change) :
    Owes started (scheduler.onChange now change).1 := by
  cases change with
  | config => exact onConfigChange scheduler now
  | source | music =>
      simp only [Scheduler.onChange, can, if_true]
      exact .inr ⟨can, .inr (Delay.trigger_armed ..)⟩

theorem onChange (owes : Owes started scheduler) (now : Time) (change : Change) :
    Owes started (scheduler.onChange now change).1 := by
  rcases owes with built | ⟨can, -⟩
  · exact .inl built
  · exact of_canBuild can now change

theorem onWake (owes : Owes started scheduler) (now : Time) :
    Owes started (scheduler.onWake now) := by
  rcases owes with built | ⟨can, -⟩
  · exact .inl built
  · rw [Scheduler.onWake, if_pos can]
    refine .inr ⟨can, ?_⟩
    rcases scheduler.delay.onWake_cases now with accepted | armed
    · exact .inl (by simp [accepted])
    · exact .inr armed

theorem onFinished {result : Except String BuildOutcome} (owes : Owes started scheduler)
    (loads : scheduler.running.any RunningBuild.isCancelled = false →
      Scheduler.reloadedAtEnd result ≠ some none) :
    Owes started (scheduler.onFinished result).1 := by
  rcases owes with built | ⟨can, waits⟩
  · exact .inl built
  · have kept := scheduler.onFinished_project result
    obtain ⟨project, sourceDir, compiler, same⟩ := scheduler.onFinished_frame result
    rw [same] at kept ⊢
    refine .inr ⟨?_, waits⟩
    simp only [Scheduler.canBuild] at kept can ⊢
    by_cases stale : scheduler.running.any RunningBuild.isCancelled = true
    · simpa [kept, stale] using can
    · have brought := loads (by simpa using stale)
      rw [kept, if_neg stale]
      cases ended : Scheduler.reloadedAtEnd result with
      | none => exact can
      | some reloaded =>
          cases reloaded with
          | some project => rfl
          | none => exact absurd ended brought

theorem launch (owes : Owes started scheduler) :
    Owes (started ++ scheduler.launch.2.filterMap Effect.started?) scheduler.launch.1 := by
  generalize scheduler.launch.2.filterMap Effect.started? = new, scheduler.launch.1 = next,
    scheduler.launches = launched
  cases launched with
  | held => simpa using owes
  | skipped wanted free stuck =>
      rcases owes with built | ⟨can, -⟩
      · exact .inl (by simpa using built)
      · simp [stuck] at can
  | started => exact .inl (by simp)

theorem thenLaunch {decided : Scheduler × List Effect} (owes : Owes started decided.1)
    (none : decided.2.filterMap Effect.started? = []) :
    Owes (started ++ (Scheduler.thenLaunch decided).2.filterMap Effect.started?)
      (Scheduler.thenLaunch decided).1 := by
  rw [Scheduler.thenLaunch_started none]
  exact owes.launch

theorem built (owes : Owes started scheduler) (rest : scheduler.phase = .idle) :
    started ≠ [] := by
  rcases owes with built | ⟨-, waits⟩
  · exact built
  · unfold Scheduler.phase at rest
    split at rest
    · split at rest <;> simp at rest
    · simp [waits] at rest

end Owes

def Loads (turns : List Turn) : Prop :=
  ∀ turn ∈ turns, ∀ build, turn.reading? ≠ some (build, none)

theorem Loads.of_append {earlier later : List Turn} (loads : Loads (earlier ++ later)) :
    Loads earlier :=
  fun turn member => loads turn (List.mem_append_left _ member)

/-- A build that was to read the project file has died, and the file has not changed since. -/
def LostReader (turns : List Turn) : Prop :=
  ∃ build, build.plan = .reload ∧ WasKilled (sinceConfigChange turns) build

theorem LostReader.later {turns : List Turn} {turn : Turn} (lost : LostReader turns)
    (other : turn.isConfigChange = false) : LostReader (turns ++ [turn]) := by
  obtain ⟨build, reload, killed⟩ := lost
  refine ⟨build, reload, ?_⟩
  rw [sinceConfigChange_append_singleton, other]
  exact killed.mono (List.subset_append_left ..)

theorem LostReader.killed {turns : List Turn} (lost : LostReader turns) :
    ∃ turn ∈ turns, turn.killed? ≠ none := by
  obtain ⟨build, -, turn, member, killed⟩ := lost
  exact ⟨turn, (sinceConfigChange_suffix turns).subset member, by simp [killed]⟩

namespace BuildRun

variable {tree : FileTree} {source : ProjectSource} {debounce : Time}
  {turns earlier later : List Turn} {system : BuildSystem}

theorem isSettled (run : BuildRun (.create tree source debounce) turns system)
    (running : system.stage = .running) : system.scheduler.IsSettled := by
  induction run with
  | begin =>
      rw [BuildSystem.begin_scheduler]
      exact Scheduler.launch_isSettled _
  | step run possible ih =>
      obtain ⟨stage, decided, reaction, after, same, -⟩ := BuildSystem.reaction_of_step? possible
      rw [same]
      cases reaction with
      | quiet => exact ih (after.symm.trans running)
      | changed | woken | finished => exact Scheduler.launch_isSettled _
      | stopped | left => simp [after] at running

theorem reloaded_ne_none {build : Build} {result : Except String BuildOutcome}
    (run : BuildRun (.create tree source debounce) turns system) (loads : Loads turns)
    (loops : system.stage = .running) (ended : system.result? = some (build, result))
    (live : system.scheduler.running.any RunningBuild.isCancelled = false) :
    Scheduler.reloadedAtEnd result ≠ some none := by
  intro nothing
  obtain ⟨running, -, waiting, rfl, -⟩ := system.finished_of_result? ended
  have brings := run.brings loops ended waiting (by simpa [waiting] using live)
  rw [Brings, nothing] at brings
  obtain ⟨-, -, turn, member, read⟩ := brings
  exact loads turn ((sinceConfigChange_suffix turns).subset member) _ read

theorem owes_of_change {change : Change} {moved : BuildSystem × List Effect}
    {started : List Build} (run : BuildRun (.create tree source debounce) turns system)
    (possible : system.step? (.change change) = some moved)
    (taken : change = .config ∨ system.scheduler.canBuild = true) :
    Owes started moved.1.scheduler := by
  obtain ⟨stage, decided, reaction, -, same, -⟩ := BuildSystem.reaction_of_step? possible
  cases reaction with
  | quiet aside => simp [BuildAction.isOfLoop] at aside
  | changed loops =>
      rw [same, Scheduler.thenLaunch_fst,
        Scheduler.launch_of_settled ((run.isSettled loops).onChange _ _)]
      rcases taken with rfl | can
      · exact Owes.onConfigChange ..
      · exact Owes.of_canBuild can ..

theorem owes_step {action : BuildAction} {moved : BuildSystem × List Effect}
    {started : List Build} (run : BuildRun (.create tree source debounce) turns system)
    (loads : Loads turns) (owed : Owes started system.scheduler)
    (possible : system.step? action = some moved) :
    Owes (started ++ Turn.started ⟨system, some action, moved.2, moved.1⟩) moved.1.scheduler := by
  obtain ⟨stage, decided, reaction, after, same, effects⟩ :=
    BuildSystem.reaction_of_step? possible
  rw [Turn.started, effects, same]
  cases reaction with
  | quiet aside =>
      rw [filterMap_started_log, List.append_nil]
      exact owed
  | changed => exact (owed.onChange ..).thenLaunch (Scheduler.onChange_started ..)
  | woken => exact (owed.onWake _).thenLaunch rfl
  | finished loops ended =>
      exact (owed.onFinished (run.reloaded_ne_none loads loops ended)).thenLaunch
        (Scheduler.onFinished_started ..)
  | stopped =>
      rw [Scheduler.stop_started, List.append_nil]
      exact owed.frame rfl rfl rfl
  | left =>
      rw [Scheduler.leave_started, List.append_nil]
      exact owed.frame rfl rfl rfl

theorem owes {event : Turn} {change : Change}
    (run : BuildRun (.create tree source debounce) (earlier ++ event :: later) system)
    (loads : Loads (earlier ++ event :: later)) (acted : event.action = some (.change change))
    (taken : change = .config ∨ event.before.scheduler.canBuild = true) :
    Owes (startedIn later) system.scheduler := by
  refine run.since (fun between reached => Loads (earlier ++ event :: between) →
    Owes (startedIn between) reached.scheduler) acted ?_ ?_ loads
  · rintro reached moved past possible rfl -
    exact past.owes_of_change possible taken
  · intro between reached action moved past owes possible loads
    rw [← List.cons_append, ← List.append_assoc] at loads
    rw [startedIn_append, startedIn_singleton]
    exact past.owes_step loads.of_append (owes loads.of_append) possible

theorem other_of_missing {build : Build} {result : Except String BuildOutcome}
    (run : BuildRun (.create tree source debounce) turns system) (loads : Loads turns)
    (loops : system.stage = .running) (ended : system.result? = some (build, result))
    (missing : (system.scheduler.onFinished result).1.project = none) :
    system.scheduler.project = none ∧
      (LostReader turns ∨ ∀ running, system.scheduler.running = some running →
        running.isCancelled = false → running.build.plan ≠ .reload) := by
  obtain ⟨running, -, waiting, rfl, -⟩ := system.finished_of_result? ended
  rw [Scheduler.onFinished_project] at missing
  by_cases cancelled : running.isCancelled = true
  · refine ⟨by simpa [waiting, cancelled] using missing, .inr fun again found live => ?_⟩
    obtain rfl := Option.some.inj (waiting.symm.trans found)
    simp [live] at cancelled
  · have live : running.isCancelled = false := by simpa using cancelled
    have brings := run.brings loops ended waiting live
    have loaded := run.reloaded_ne_none loads loops ended (by simp [waiting, live])
    cases brought : Scheduler.reloadedAtEnd result with
    | some project =>
        have nothing : project = none := by simpa [waiting, live, brought] using missing
        exact absurd (brought.trans (congrArg some nothing)) loaded
    | none =>
        refine ⟨by simpa [waiting, live, brought] using missing, ?_⟩
        rw [Brings, brought] at brings
        by_cases reload : running.build.plan = .reload
        · exact .inl ⟨running.build, reload, brings (by rw [reload]; rfl)⟩
        · refine .inr fun again found _ => ?_
          obtain rfl := Option.some.inj (waiting.symm.trans found)
          exact reload

/-- As long as there is no project, the project file is to be read or a build is reading it, unless
the last one that was to read it has died. -/
theorem awaits_project (run : BuildRun (.create tree source debounce) turns system)
    (loads : Loads turns) (running : system.stage = .running)
    (missing : system.scheduler.project = none) :
    LostReader turns ∨ Awaits (startedIn turns) system.scheduler := by
  induction run with
  | begin =>
      have created : Awaits [] (Scheduler.create source debounce) := .inl rfl
      rw [BuildSystem.begin_scheduler, startedIn_singleton, BuildSystem.opening_started]
      exact .inr created.launch
  | @step turns before action moved run possible ih =>
      have earlier := ih loads.of_append
      obtain ⟨stage, decided, reaction, after, same, effects⟩ :=
        BuildSystem.reaction_of_step? possible
      rw [same] at missing ⊢
      rw [startedIn_append, startedIn_singleton, Turn.started, effects]
      cases reaction with
      | quiet aside =>
          rw [filterMap_started_log, List.append_nil]
          exact (earlier (after.symm.trans running) missing).imp_left fun lost =>
            lost.later (Turn.isConfigChange_of_aside aside ..)
      | @changed change loops =>
          rw [Scheduler.thenLaunch_fst, Scheduler.launch_project, Scheduler.onChange_project]
            at missing
          by_cases config : change = .config
          · subst change
            have reads : Awaits (startedIn turns)
              (before.scheduler.onChange before.now .config).1 := .inl rfl
            exact .inr (reads.thenLaunch (Scheduler.onChange_started ..))
          · have other : Turn.isConfigChange ⟨before, some (.change change), moved.2, moved.1⟩ =
                false := by
              cases change with
              | config => exact absurd rfl config
              | source | music => rfl
            exact (earlier loops missing).imp (fun lost => lost.later other) fun awaits =>
              (awaits.onChange ..).thenLaunch (Scheduler.onChange_started ..)
      | woken loops due =>
          rw [Scheduler.thenLaunch_fst, Scheduler.launch_project, Scheduler.onWake_project]
            at missing
          exact (earlier loops missing).imp (fun lost => lost.later rfl) fun awaits =>
            (awaits.onWake _).thenLaunch rfl
      | @finished build result loops ended =>
          rw [Scheduler.thenLaunch_fst, Scheduler.launch_project] at missing
          obtain ⟨kept, lost | other⟩ := run.other_of_missing loads.of_append loops ended missing
          · exact .inl (lost.later rfl)
          · exact (earlier loops kept).imp (fun lost => lost.later rfl) fun awaits =>
              (awaits.onFinished result other).thenLaunch (Scheduler.onFinished_started ..)
      | stopped | left => simp [after] at running

theorem reading_first (run : BuildRun (.create tree source debounce) turns system)
    (loads : Loads turns) (running : system.stage = .running)
    (deaf : system.scheduler.canBuild = false) :
    system.scheduler.project = none ∧
      ((∃ reader, system.scheduler.running = some reader ∧ reader.isCancelled = false ∧
        reader.build.plan = .reload) ∨ LostReader turns) := by
  obtain ⟨missing, settled⟩ : system.scheduler.project = none ∧
      system.scheduler.reloadPending = false := by
    simpa [Scheduler.canBuild] using deaf
  refine ⟨missing, ?_⟩
  rcases run.awaits_project loads running missing with
    lost | pending | ⟨reader, waiting, live, reload, -⟩
  · exact .inr lost
  · simp [settled] at pending
  · exact .inl ⟨reader, waiting, live, reload⟩

/-- A loop at rest has started a build after every change that it took in. It takes in every change
except one of the sources that comes while there is no project: when a build reads the first one, or
after the last build that was to read one has died. -/
theorem rebuilt {event : Turn} {change : Change}
    (run : BuildRun (.create tree source debounce) (earlier ++ event :: later) system)
    (loads : Loads (earlier ++ event :: later))
    (acted : event.action = some (.change change)) (rest : system.scheduler.phase = .idle) :
    (∃ build ∈ startedIn later,
      (startedIn (earlier ++ event :: later)).getLast? = some build) ∨
    change ≠ .config ∧ event.before.scheduler.project = none ∧
      ((∃ reader, event.before.scheduler.running = some reader ∧
        reader.isCancelled = false ∧ reader.build.plan = .reload) ∨ LostReader earlier) := by
  by_cases taken : change = .config ∨ event.before.scheduler.canBuild = true
  · have built := (run.owes loads acted taken).built rest
    refine .inl ⟨(startedIn later).getLast built, List.getLast_mem built, ?_⟩
    rw [List.append_cons, startedIn_append, List.getLast?_append_of_ne_nil _ built,
      List.getLast?_eq_some_getLast built]
  · obtain ⟨other, deaf⟩ := not_or.mp taken
    rcases run.turn_cases with ⟨-, rfl⟩ | ⟨before, action, moved, past, possible, rfl⟩
    · simp [BuildSystem.opening] at acted
    · obtain rfl := Option.some.inj acted
      obtain ⟨stage, decided, reaction, -⟩ := BuildSystem.reaction_of_step? possible
      cases reaction with
      | quiet aside => simp [BuildAction.isOfLoop] at aside
      | changed loops =>
          exact .inr ⟨other, past.reading_first loads.of_append loops (by simpa using deaf)⟩

theorem loads_of_all {turns : List Turn}
    (good : turns.all (fun turn =>
      turn.reading?.all (fun reading => reading.2.isSome) && turn.killed?.isNone) = true) :
    Loads turns ∧ ∀ turn ∈ turns, turn.killed? = none := by
  constructor
  · intro turn member build read
    have loaded := List.all_eq_true.mp good turn member
    simp [read] at loaded
  · intro turn member
    have harmless := List.all_eq_true.mp good turn member
    rw [Bool.and_eq_true] at harmless
    exact Option.isNone_iff_eq_none.mp harmless.2

theorem exists_change_at {reached : List Turn × BuildSystem} {index : Nat} {change : Change}
    {loaded : Bool} (run : BuildRun .sample reached.1 reached.2)
    (found : reached.1[index]?.map (fun turn =>
      (turn.action, turn.before.scheduler.project.isSome)) = some (some (.change change), loaded))
    (good : reached.1.all (fun turn =>
      turn.reading?.all (fun reading => reading.2.isSome) && turn.killed?.isNone) = true) :
    ∃ event,
      BuildRun .sample (reached.1.take index ++ event :: reached.1.drop (index + 1)) reached.2 ∧
        Loads (reached.1.take index ++ event :: reached.1.drop (index + 1)) ∧
        (∀ turn ∈ reached.1.take index ++ event :: reached.1.drop (index + 1),
          turn.killed? = none) ∧
        event.action = some (.change change) ∧
        event.before.scheduler.project.isSome = loaded := by
  obtain ⟨event, atIndex, same⟩ := Option.map_eq_some_iff.mp found
  obtain ⟨acted, known⟩ := Prod.mk.inj same
  obtain ⟨loads, unharmed⟩ := loads_of_all good
  refine ⟨event, ?_⟩
  rw [take_cons_drop atIndex]
  exact ⟨run, loads, unharmed, acted, known⟩

def lateChange : List Turn × BuildSystem :=
  BuildSystem.sample.attempt
    [.load 0, .list 0, .ask 0, .answer 0 sampleUse, .finish, .change .source, .pass 500, .wake,
      .load 1, .list 1, .ask 1, .answer 1 sampleUse, .finish]

theorem rebuilt_late : ∃ event,
    let earlier := lateChange.1.take 6
    let later := lateChange.1.drop 7
    (BuildRun .sample (earlier ++ event :: later) lateChange.2 ∧
      Loads (earlier ++ event :: later) ∧
      event.action = some (.change .source) ∧ lateChange.2.scheduler.phase = .idle) ∧
      ∃ build ∈ startedIn later,
        (startedIn (earlier ++ event :: later)).getLast? = some build := by
  obtain ⟨event, run, loads, -, acted, loaded⟩ :=
    @exists_change_at lateChange 6 .source true (.attempt BuildSystem.sample _) (by cbv) (by cbv)
  have rest : lateChange.2.scheduler.phase = .idle := by cbv
  refine ⟨event, ⟨run, loads, acted, rest⟩, ?_⟩
  rcases rebuilt run loads acted rest with built | ⟨-, missing, -⟩
  · exact built
  · simp [missing] at loaded

def earlyChange : List Turn × BuildSystem :=
  BuildSystem.sample.attempt
    [.change .source, .load 0, .list 0, .ask 0, .answer 0 sampleUse, .finish]

theorem rebuilt_early :
    ¬∀ (tree : FileTree) (source : ProjectSource) (debounce : Time) (system : BuildSystem)
      (earlier later : List Turn) (event : Turn) (change : Change),
      BuildRun (.create tree source debounce) (earlier ++ event :: later) system →
      Loads (earlier ++ event :: later) →
      (∀ turn ∈ earlier ++ event :: later, turn.killed? = none) →
      event.action = some (.change change) → system.scheduler.phase = .idle →
      ∃ build ∈ startedIn later,
        (startedIn (earlier ++ event :: later)).getLast? = some build := by
  intro always
  obtain ⟨event, run, loads, unharmed, acted, -⟩ :=
    @exists_change_at earlyChange 1 .source false (.attempt BuildSystem.sample _) (by cbv) (by cbv)
  obtain ⟨build, member, -⟩ := always _ _ _ _ _ _ event .source run loads unharmed acted (by cbv)
  have nothing : (startedIn (earlyChange.1.drop 2)).isEmpty = true := by cbv
  rw [List.isEmpty_iff.mp nothing] at member
  simp at member

end BuildRun

end BuildWatch
