import BuildWatch.Music.System
import BuildWatch.Proofs.Debounce
import BuildWatch.Proofs.Run

/-!
Runs of the music loop, and what a move does to its state. The tasks of the song builds and the
time leave that state alone; a change, a wake of the timer or the end of a build changes it, and
then the build that is wanted is started.
-/

namespace BuildWatch

def MusicEffect.started? : MusicEffect → Option Nat
  | .start build => some build
  | _ => none

namespace MusicAction

def elapsed : MusicAction → Time
  | pass time => time
  | _ => 0

def isOfLoop : MusicAction → Bool
  | change _ | wake | finish | stop | leave => true
  | _ => false

end MusicAction

abbrev MusicMove := Move MusicSystem MusicAction (List MusicEffect)

namespace MusicMove

def started (move : MusicMove) : List Nat := move.output.filterMap MusicEffect.started?

def asksTimer (move : MusicMove) : Bool :=
  match move.action with
  | some (.change change) => change = .music
  | _ => false

theorem asksTimer_of_aside {action : MusicAction} (aside : action.isOfLoop = false)
    (before : MusicSystem) (effects : List MusicEffect) (after : MusicSystem) :
    asksTimer ⟨before, some action, effects, after⟩ = false := by
  cases action <;> first | rfl | simp [MusicAction.isOfLoop] at aside

end MusicMove

namespace MusicBuilder

def thenLaunch (decided : MusicBuilder × List MusicEffect) : MusicBuilder × List MusicEffect :=
  (decided.1.launch.1, decided.2 ++ decided.1.launch.2)

theorem thenLaunch_started {decided : MusicBuilder × List MusicEffect}
    (none : decided.2.filterMap MusicEffect.started? = []) :
    (thenLaunch decided).2.filterMap MusicEffect.started? =
      decided.1.launch.2.filterMap MusicEffect.started? := by
  simp [thenLaunch, none]

variable {builder : MusicBuilder}

theorem launch_of_unwanted (unwanted : builder.wantsBuild = false) :
    builder.launch = (builder, []) := by
  simp [launch, unwanted]

theorem launch_delay (builder : MusicBuilder) : builder.launch.1.delay = builder.delay := by
  unfold launch
  split <;> rfl

theorem launch_debounce (builder : MusicBuilder) :
    builder.launch.1.debounce = builder.debounce := by
  unfold launch
  split <;> rfl

theorem onChange_started (builder : MusicBuilder) (now : Time) (change : Change) :
    (builder.onChange now change).2.filterMap MusicEffect.started? = [] := by
  cases change with
  | config | source => rfl
  | music =>
      simp only [onChange, cancelRunning]
      cases builder.running <;> rfl

theorem onFinished_started (builder : MusicBuilder) (result : SongResult) :
    (builder.onFinished result).2.filterMap MusicEffect.started? = [] := by
  simp only [onFinished]
  split
  · rfl
  · simp [deliver, MusicEffect.started?, List.filterMap_map, Function.comp_def]

theorem stop_started (builder : MusicBuilder) :
    builder.stop.2.filterMap MusicEffect.started? = [] := by
  simp only [stop, cancelRunning]
  cases builder.running <;> rfl

end MusicBuilder

namespace MusicSystem

def sample : MusicSystem := .create ⟨[Path.slash]⟩ 500

def process : Process MusicSystem MusicAction (List MusicEffect) := ⟨begin, step?⟩

theorem foldl_perform (effects : List MusicEffect) (system : MusicSystem) :
    (effects.foldl perform system).builder = system.builder ∧
      (effects.foldl perform system).stage = system.stage ∧
      (effects.foldl perform system).now = system.now := by
  induction effects generalizing system with
  | nil => exact ⟨rfl, rfl, rfl⟩
  | cons effect rest ih =>
      rw [List.foldl_cons]
      cases effect <;> exact ih _

/-- What an action makes of the state of the loop, what the loop does, and how far it is then. -/
inductive Reaction (system : MusicSystem) :
    MusicAction → LoopStage → MusicBuilder × List MusicEffect → Prop
  | quiet {action} : action.isOfLoop = false →
      Reaction system action system.stage (system.builder, [])
  | changed {change} : system.stage = .running →
      Reaction system (.change change) .running
        (MusicBuilder.thenLaunch (system.builder.onChange system.now change))
  | woken : system.stage = .running → system.builder.delay.isDue system.now = true →
      Reaction system .wake .running
        (MusicBuilder.thenLaunch (system.builder.onWake system.now, []))
  | finished {running result} : system.stage = .running →
      system.builder.running = some running →
      (system.task? running.number).map SongTask.stage = some (.finished result) →
      Reaction system .finish .running
        (MusicBuilder.thenLaunch (system.builder.onFinished result))
  | stopped : system.stage = .running → Reaction system .stop .stopping system.builder.stop
  | left : system.stage = .stopping →
      Reaction system .leave .stopped (system.builder, [MusicBuilder.farewell])

variable {system : MusicSystem} {next : MusicSystem × List MusicEffect} {action : MusicAction}

theorem goOn_fst (system : MusicSystem) (decided : MusicBuilder × List MusicEffect) :
    (system.goOn decided.1 decided.2).1.builder = (MusicBuilder.thenLaunch decided).1 ∧
      (system.goOn decided.1 decided.2).1.stage = system.stage ∧
      (system.goOn decided.1 decided.2).1.now = system.now :=
  foldl_perform ..

theorem reaction_of_taskStep? {number : Nat} (aside : action.isOfLoop = false)
    (instant : action.elapsed = 0)
    (possible : (system.task? number).bind (system.taskStep? · action) = some next) :
    ∃ stage decided, Reaction system action stage decided ∧ next.1.stage = stage ∧
      next.1.builder = decided.1 ∧ next.2 = decided.2 ∧
      next.1.now = system.now + action.elapsed := by
  obtain ⟨task, -, possible⟩ := Option.bind_eq_some_iff.mp possible
  have same : next.1.builder = system.builder ∧ next.1.stage = system.stage ∧
      next.1.now = system.now ∧ next.2 = [] := by
    unfold taskStep? at possible
    split at possible
    · split at possible
      · obtain rfl := Option.some.inj possible
        exact ⟨rfl, rfl, rfl, rfl⟩
      all_goals simp at possible
    · split at possible
      · obtain rfl := Option.some.inj possible
        exact ⟨rfl, rfl, rfl, rfl⟩
      all_goals simp at possible
    · simp at possible
  obtain ⟨builder, stage, now, nothing⟩ := same
  exact ⟨_, _, .quiet aside, stage, builder, nothing, by rw [now, instant, Nat.add_zero]⟩

theorem reaction_of_loopStep? (running : system.stage = .running)
    (possible : system.loopStep? action = some next) :
    ∃ stage decided, Reaction system action stage decided ∧ next.1.stage = stage ∧
      next.1.builder = decided.1 ∧ next.2 = decided.2 ∧
      next.1.now = system.now + action.elapsed := by
  cases action with
  | change change =>
      obtain rfl := Option.some.inj possible
      obtain ⟨builder, stage, now⟩ := system.goOn_fst (system.builder.onChange system.now change)
      exact ⟨_, _, .changed running, stage.trans running, builder, rfl, now⟩
  | wake =>
      simp only [loopStep?, Option.ite_none_right_eq_some] at possible
      obtain ⟨due, same⟩ := possible
      obtain rfl := Option.some.inj same
      obtain ⟨builder, stage, now⟩ := system.goOn_fst (system.builder.onWake system.now, [])
      exact ⟨_, _, .woken running due, stage.trans running, builder, rfl, now⟩
  | finish =>
      simp only [loopStep?] at possible
      split at possible
      · rename_i build cancelled result ended
        obtain rfl := Option.some.inj possible
        obtain ⟨song, waiting, found⟩ := Option.bind_eq_some_iff.mp ended
        obtain ⟨builder, stage, now⟩ := (system.dropTask build).goOn_fst
          (system.builder.onFinished result)
        exact ⟨_, _, .finished running waiting (by rw [found]; rfl), stage.trans running, builder,
          rfl, now⟩
      · simp at possible
  | stop =>
      obtain rfl := Option.some.inj possible
      obtain ⟨builder, stage, now⟩ := foldl_perform system.builder.stop.2
        { system with builder := system.builder.stop.1, stage := .stopping }
      exact ⟨_, _, .stopped running, stage, builder, rfl, now⟩
  | _ => simp [loopStep?] at possible

theorem reaction_of_step? (possible : system.step? action = some next) :
    ∃ stage decided, Reaction system action stage decided ∧ next.1.stage = stage ∧
      next.1.builder = decided.1 ∧ next.2 = decided.2 ∧
      next.1.now = system.now + action.elapsed := by
  cases action with
  | pass time =>
      obtain rfl := Option.some.inj possible
      exact ⟨_, _, .quiet rfl, rfl, rfl, rfl, rfl⟩
  | begin build | answer build result => exact reaction_of_taskStep? rfl rfl possible
  | leave =>
      simp only [step?, leave?, Option.ite_none_right_eq_some] at possible
      obtain ⟨⟨stopping, -⟩, same⟩ := possible
      obtain rfl := Option.some.inj same
      exact ⟨_, _, .left stopping, rfl, rfl, rfl, rfl⟩
  | change _ | wake | finish | stop =>
      simp only [step?, Option.ite_none_right_eq_some] at possible
      exact reaction_of_loopStep? possible.1 possible.2

theorem now_of_step? (possible : system.step? action = some next) :
    next.1.now = system.now + action.elapsed := by
  obtain ⟨-, -, -, -, -, -, passed⟩ := reaction_of_step? possible
  exact passed

theorem running_of_step? (possible : system.step? action = some next)
    (running : next.1.stage = .running) : system.stage = .running := by
  obtain ⟨stage, decided, reaction, after, -⟩ := reaction_of_step? possible
  cases reaction with
  | quiet => exact after.symm.trans running
  | changed loops | woken loops | finished loops => exact loops
  | stopped | left => simp [after] at running

end MusicSystem

end BuildWatch
