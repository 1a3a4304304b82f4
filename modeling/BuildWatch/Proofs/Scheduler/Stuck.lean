import BuildWatch.Proofs.Scheduler.Burst

/-!
A loop that is stuck: the project file could not be loaded, nothing runs, and no build would help.
Only a change of the project file ends this. It shows as loading, and the build that reads the file
again is the only one that follows, whatever was left of an earlier wish for a build and of the
timer.
-/

namespace BuildWatch

/-- There is nothing to build from, and nothing runs. -/
structure Scheduler.IsStuck (scheduler : Scheduler) : Prop where
  missing : scheduler.project = none
  settled : scheduler.reloadPending = false
  free : scheduler.running = none

def BuildSystem.leftWith (system : BuildSystem) (wantsBuild : Bool) (delay : Delay) :
    BuildSystem :=
  { system with scheduler := { system.scheduler with wantsBuild, delay } }

def shownIn (turns : List Turn) : List BuildState := turns.flatMap Turn.published

@[simp] theorem shownIn_append_singleton (turns : List Turn) (turn : Turn) :
    shownIn (turns ++ [turn]) = shownIn turns ++ turn.published := by
  simp [shownIn]

/-- Does something come from outside, a change or the order to end? -/
def Turn.isArrival (turn : Turn) : Bool :=
  match turn.action with
  | some (.change _) | some .stop => true
  | _ => false

namespace Scheduler.IsStuck

variable {scheduler : Scheduler}

theorem canBuild (stuck : scheduler.IsStuck) : scheduler.canBuild = false := by
  simp [Scheduler.canBuild, stuck.missing, stuck.settled]

theorem leftWith (stuck : scheduler.IsStuck) (wantsBuild : Bool) (delay : Delay) :
    ({ scheduler with wantsBuild, delay } : Scheduler).IsStuck :=
  ⟨stuck.missing, stuck.settled, stuck.free⟩

theorem launch (stuck : scheduler.IsStuck) :
    scheduler.launch.1.IsStuck ∧ scheduler.launch.2.filterMap Effect.started? = [] := by
  have can := stuck.canBuild
  generalize scheduler.launch.2.filterMap Effect.started? = new, scheduler.launch.1 = next,
    scheduler.launches = launched
  cases launched with
  | held => exact ⟨stuck, rfl⟩
  | skipped => exact ⟨stuck.leftWith .., rfl⟩
  | started wanted free planned =>
      rw [plan?_eq_none_iff.mpr can] at planned
      simp at planned

theorem onChange {change : Change} (stuck : scheduler.IsStuck) (other : change ≠ .config)
    (now : Time) : (scheduler.onChange now change).1 = scheduler := by
  cases change with
  | config => exact absurd rfl other
  | source | music => simp [Scheduler.onChange, stuck.canBuild]

theorem onWake (stuck : scheduler.IsStuck) (now : Time) : (scheduler.onWake now).IsStuck := by
  rw [Scheduler.onWake, if_neg (by simp [stuck.canBuild])]
  exact stuck.leftWith ..

end Scheduler.IsStuck

/-- The loop is stuck and works on no build. -/
structure BuildSystem.IsStuck (system : BuildSystem) : Prop where
  coherent : Coherent system
  loop : system.scheduler.IsStuck

namespace BuildSystem.IsStuck

variable {system : BuildSystem} {action : BuildAction} {moved : BuildSystem × List Effect}

theorem asked? {effects : List Effect} {after : BuildSystem} (stuck : system.IsStuck)
    (action : Option BuildAction) : Turn.asked? ⟨system, action, effects, after⟩ = none := by
  by_contra asks
  obtain ⟨⟨build, project, request⟩, asked⟩ := Option.ne_none_iff_exists'.mp asks
  obtain ⟨isAborted, acting⟩ := Turn.actor?_of_asked? asked
  obtain ⟨action, -, acting⟩ := Option.bind_eq_some_iff.mp acting
  have member := system.mem_of_actor? acting
  simp [stuck.coherent.idle stuck.loop.free] at member

theorem begin (stuck : system.IsStuck) :
    system.begin.1.IsStuck ∧ system.opening.started = [] ∧ system.opening.published = [] := by
  obtain ⟨loop, nothing⟩ := stuck.loop.launch
  have coherent : Coherent (system.adopt (system.scheduler, [])).1 :=
    stuck.coherent.frame rfl rfl rfl rfl
  refine ⟨⟨coherent.goOn, ?_⟩, nothing, BuildSystem.opening_published _⟩
  rwa [begin_scheduler]

/-- Nothing but a change of the project file changes that the loop is stuck. -/
theorem step (stuck : system.IsStuck) (possible : system.step? action = some moved)
    (other : Turn.isConfigChange ⟨system, some action, moved.2, moved.1⟩ = false) :
    moved.1.IsStuck ∧ Turn.started ⟨system, some action, moved.2, moved.1⟩ = [] ∧
      Turn.published ⟨system, some action, moved.2, moved.1⟩ = [] := by
  have coherent := stuck.coherent.of_happens (happens_of_step? possible)
  obtain ⟨stage, decided, reaction, -, same, effects⟩ := reaction_of_step? possible
  rw [Turn.started, Turn.published, effects]
  suffices decided.1.IsStuck ∧ decided.2.filterMap Effect.started? = [] ∧
      decided.2.filterMap Effect.published? = [] from
    ⟨⟨coherent, same ▸ this.1⟩, this.2⟩
  cases reaction with
  | quiet => exact ⟨stuck.loop, filterMap_started_log _, filterMap_published_log _⟩
  | @changed change =>
      have other : change ≠ .config := by
        rintro rfl
        simp [Turn.isConfigChange] at other
      have kept := stuck.loop.onChange other system.now
      rw [Scheduler.thenLaunch_fst, Scheduler.thenLaunch_started (Scheduler.onChange_started ..),
        Scheduler.thenLaunch_published, Scheduler.onChange_published, kept, if_neg other]
      exact ⟨stuck.loop.launch.1, stuck.loop.launch.2, rfl⟩
  | woken =>
      have loop := stuck.loop.onWake system.now
      rw [Scheduler.thenLaunch_fst, Scheduler.thenLaunch_started rfl,
        Scheduler.thenLaunch_published]
      exact ⟨loop.launch.1, loop.launch.2, rfl⟩
  | finished _ ended =>
      obtain ⟨running, -, waiting, -⟩ := system.finished_of_result? ended
      simp [stuck.loop.free] at waiting
  | stopped =>
      refine ⟨⟨stuck.loop.missing, stuck.loop.settled, ?_⟩, Scheduler.stop_started _,
        Scheduler.stop_published _⟩
      rw [Scheduler.stop, stuck.loop.free]
      rfl
  | left =>
      exact ⟨⟨stuck.loop.missing, stuck.loop.settled, rfl⟩, Scheduler.leave_started _,
        Scheduler.leave_published _⟩

end BuildSystem.IsStuck

/-- How far a loop has come after a change of the project file, the builds it has started and the
states it has published since: it waits for quiet, it reads the file again, or it has shown what
came of that and rests. -/
inductive Recovers (deadline : Time) (scheduler : Scheduler) :
    List Build → List BuildState → Prop
  | waits : scheduler.running = none → scheduler.wantsBuild = false →
      scheduler.reloadPending = true → scheduler.delay.WaitsFor deadline →
      Recovers deadline scheduler [] []
  | builds {build} : scheduler.running = some ⟨build, false⟩ → scheduler.wantsBuild = false →
      scheduler.delay.armed = false → build.plan = .reload →
      Recovers deadline scheduler [build] []
  | rests {build state} : scheduler.phase = .idle → build.plan = .reload →
      state.isTerminal = true → Recovers deadline scheduler [build] [state]

namespace Recovers

variable {deadline now : Time} {scheduler : Scheduler} {started : List Build}
  {shown : List BuildState}

theorem onConfigChange (free : scheduler.running = none) (now : Time) :
    Recovers (now + scheduler.debounce) (scheduler.onChange now .config).1 [] [] :=
  .waits (congrArg (Option.map RunningBuild.cancel) free) rfl rfl (Delay.trigger_waitsFor ..)

theorem launch (wanted : scheduler.wantsBuild = true) (free : scheduler.running = none)
    (pending : scheduler.reloadPending = true) (off : scheduler.delay.armed = false) :
    Recovers deadline scheduler.launch.1 (scheduler.launch.2.filterMap Effect.started?) [] := by
  generalize scheduler.launch.2.filterMap Effect.started? = new, scheduler.launch.1 = next,
    scheduler.launches = launched
  cases launched with
  | held settled => simp [free] at settled; simp [wanted] at settled
  | skipped _ _ can => simp [Scheduler.canBuild, pending] at can
  | started _ _ planned =>
      refine .builds rfl rfl off ?_
      simpa [Scheduler.plan?, pending] using planned.symm

theorem onWake (recovers : Recovers deadline scheduler started shown)
    (due : scheduler.delay.isDue now = true) :
    Recovers deadline (scheduler.onWake now).launch.1
      (started ++ (scheduler.onWake now).launch.2.filterMap Effect.started?) shown := by
  cases recovers with
  | waits free unwanted pending waits =>
      have can : scheduler.canBuild = true := by simp [Scheduler.canBuild, pending]
      rw [Scheduler.onWake, if_pos can]
      cases accepted : (scheduler.delay.onWake now).2 with
      | false =>
          rw [Scheduler.launch_of_unwanted (by simp [accepted, unwanted])]
          exact .waits free (by simp [accepted, unwanted]) pending (waits.postponed due accepted)
      | true =>
          have off : (scheduler.delay.onWake now).1.armed = false := by
            rw [waits.onWake_of_le due (waits.reached due accepted)]
            rfl
          exact launch (by simp [accepted]) free pending off
  | builds _ _ off => simp [Delay.isDue, off] at due
  | rests idle =>
      obtain ⟨-, -, off⟩ := Scheduler.rests_of_idle idle
      simp [Delay.isDue, off] at due

theorem onFinished {running : RunningBuild} {result : Except String BuildOutcome}
    (recovers : Recovers deadline scheduler started shown)
    (waiting : scheduler.running = some running)
    (terminal : (Scheduler.shownResult result).isTerminal = true) :
    Recovers deadline (scheduler.onFinished result).1.launch.1
      (started ++ (scheduler.onFinished result).1.launch.2.filterMap Effect.started?)
      (shown ++ (scheduler.onFinished result).2.filterMap Effect.published?) := by
  cases recovers with
  | waits free => simp [free] at waiting
  | rests idle =>
      obtain ⟨free, -, -⟩ := Scheduler.rests_of_idle idle
      simp [free] at waiting
  | builds found unwanted off reload =>
      obtain ⟨project, sourceDir, compiler, same⟩ := scheduler.onFinished_frame result
      have still : (scheduler.onFinished result).1.wantsBuild = false := by
        rw [same]
        exact unwanted
      rw [Scheduler.launch_of_unwanted still, Scheduler.onFinished_published, found, same]
      refine .rests ?_ reload terminal
      simp [Scheduler.phase, unwanted, off]

end Recovers

namespace BuildRun

variable {origin system broken : BuildSystem} {turns earlier before later : List Turn}
  {change : Turn}

theorem stuck (run : BuildRun origin turns system) (stuck : origin.IsStuck)
    (others : ∀ turn ∈ turns, turn.isConfigChange = false) :
    system.IsStuck ∧ startedIn turns = [] ∧ shownIn turns = [] ∧
      ∀ turn ∈ turns, turn.asked? = none := by
  induction run with
  | begin =>
      obtain ⟨still, started, shown⟩ := stuck.begin
      refine ⟨still, by simpa using started, by simp [shownIn], ?_⟩
      intro turn member
      rw [List.mem_singleton.mp member]
      exact stuck.asked? none
  | @step turns system action moved run possible ih =>
      obtain ⟨still, started, shown, silent⟩ := ih fun turn member =>
        others turn (List.mem_append_left _ member)
      obtain ⟨next, nothing, quiet⟩ := still.step possible
        (others _ (List.mem_append_right _ (List.mem_singleton.mpr rfl)))
      refine ⟨next, by simp [started, nothing], by simp [shown, quiet], ?_⟩
      intro turn member
      rcases List.mem_append.mp member with among | last
      · exact silent turn among
      · rw [List.mem_singleton.mp last]
        exact still.asked? (some action)

/-- What the loop has done since a change of the project file that found it stuck. -/
structure Recovering (deadline : Time) (since : List Turn) (system : BuildSystem) : Prop where
  running : system.stage = .running
  coherent : Coherent system
  results : system.HasResults
  recovers : Recovers deadline system.scheduler (startedIn since) (shownIn since)

theorem Recovering.step {deadline : Time} {since : List Turn} {action : BuildAction}
    {moved : BuildSystem × List Effect} (recovering : Recovering deadline since system)
    (possible : system.step? action = some moved)
    (alone : Turn.isArrival ⟨system, some action, moved.2, moved.1⟩ = false) :
    Recovering deadline (since ++ [⟨system, some action, moved.2, moved.1⟩]) moved.1 := by
  obtain ⟨running, coherent, results, recovers⟩ := recovering
  have next := coherent.of_happens (BuildSystem.happens_of_step? possible)
  have ends := results.step coherent possible
  obtain ⟨stage, decided, reaction, after, same, effects⟩ := BuildSystem.reaction_of_step? possible
  suffices stage = .running ∧ Recovers deadline decided.1
      (startedIn since ++ decided.2.filterMap Effect.started?)
      (shownIn since ++ decided.2.filterMap Effect.published?) by
    refine ⟨after.trans this.1, next, ends, ?_⟩
    rw [startedIn_append, startedIn_singleton, shownIn_append_singleton, same, Turn.started,
      Turn.published, effects]
    exact this.2
  cases reaction with
  | quiet =>
      rw [filterMap_started_log, filterMap_published_log, List.append_nil, List.append_nil]
      exact ⟨running, recovers⟩
  | changed | stopped => simp [Turn.isArrival] at alone
  | left stopping => simp [running] at stopping
  | woken _ due =>
      rw [Scheduler.thenLaunch_fst, Scheduler.thenLaunch_started rfl,
        Scheduler.thenLaunch_published]
      exact ⟨rfl, by simpa using recovers.onWake due⟩
  | finished _ ended =>
      obtain ⟨found, -, waiting, -⟩ := system.finished_of_result? ended
      rw [Scheduler.thenLaunch_fst, Scheduler.thenLaunch_started (Scheduler.onFinished_started ..),
        Scheduler.thenLaunch_published]
      exact ⟨rfl, recovers.onFinished waiting (results.of_result? ended)⟩

theorem recovering (run : BuildRun origin (before ++ change :: later) system)
    (stuck : origin.IsStuck) (others : ∀ turn ∈ before, turn.isConfigChange = false)
    (changed : change.isConfigChange = true) (alone : ∀ turn ∈ later, turn.isArrival = false) :
    (change.published = [.loading] ∧ change.started = []) ∧
      Recovering (change.before.now + origin.scheduler.debounce) later system := by
  have acted := Turn.action_of_isConfigChange changed
  refine run.since (fun between reached => (∀ turn ∈ between, turn.isArrival = false) →
    (change.published = [.loading] ∧ change.started = []) ∧
      Recovering (change.before.now + origin.scheduler.debounce) between reached) acted
    ?_ ?_ alone
  · rintro reached moved past possible rfl -
    obtain ⟨⟨coherent, loop⟩, -⟩ := past.stuck stuck others
    have results : reached.HasResults := by
      simp [BuildSystem.HasResults, coherent.idle loop.free]
    have next := coherent.of_happens (BuildSystem.happens_of_step? possible)
    have ends := results.step coherent possible
    obtain ⟨stage, decided, reaction, after, same, effects⟩ :=
      BuildSystem.reaction_of_step? possible
    cases reaction with
    | quiet aside => simp [BuildAction.isOfLoop] at aside
    | changed =>
        have unwanted : (reached.scheduler.onChange reached.now .config).1.wantsBuild = false := rfl
        have held := Scheduler.launch_of_unwanted unwanted
        refine ⟨⟨?_, ?_⟩, after, next, ends, ?_⟩
        · rw [Turn.published, effects, Scheduler.thenLaunch_published,
            Scheduler.onChange_published, if_pos rfl]
        · rw [Turn.started, effects, Scheduler.thenLaunch_started (Scheduler.onChange_started ..),
            held]
          rfl
        · rw [same, Scheduler.thenLaunch_fst, held, ← past.debounce_eq]
          exact .onConfigChange loop.free reached.now
  · intro between reached action moved past held possible alone
    obtain ⟨first, recovering⟩ := held fun turn member =>
      alone turn (List.mem_append_left _ member)
    exact ⟨first, recovering.step possible
      (alone _ (List.mem_append_right _ (List.mem_singleton.mpr rfl)))⟩

end BuildRun

end BuildWatch
