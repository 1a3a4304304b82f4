import BuildWatch.Proofs.Music.Reaction

/-!
The time of the music loop and its timer, which every change of the music asks.
-/

namespace BuildWatch

namespace MusicBuilder

theorem onChange_moves (system : MusicSystem) (change : Change)
    (next : MusicSystem × List MusicEffect) :
    Delay.Moves system.now system.builder.debounce true system.builder.delay
      system.builder.wantsBuild
      (MusicMove.asksTimer ⟨system, some (.change change), next.2, next.1⟩)
      (system.builder.onChange system.now change).1.delay
      (system.builder.onChange system.now change).1.wantsBuild := by
  cases change with
  | config | source => exact .kept
  | music => exact .asked id

theorem onWake_moves {builder : MusicBuilder} {now : Time} (wait : Time)
    (woke : builder.delay.isDue now = true) :
    Delay.Moves now wait true builder.delay builder.wantsBuild false (builder.onWake now).delay
      (builder.onWake now).wantsBuild := by
  unfold onWake
  cases accepted : (builder.delay.onWake now).2 with
  | true =>
      simp only [accepted, Bool.or_true]
      exact .accepted woke accepted
  | false =>
      simp only [accepted, Bool.or_false]
      exact .postponed woke accepted

theorem thenLaunch_turns {now wait : Time} {builder : MusicBuilder} {asks : Bool}
    {decided : MusicBuilder × List MusicEffect}
    (none : decided.2.filterMap MusicEffect.started? = [])
    (moves : Delay.Moves now wait true builder.delay builder.wantsBuild asks decided.1.delay
      decided.1.wantsBuild) :
    Delay.Turns now wait true builder.delay builder.wantsBuild asks (thenLaunch decided).1.delay
      (thenLaunch decided).1.wantsBuild
      ((thenLaunch decided).2.filterMap MusicEffect.started?) := by
  rw [thenLaunch_started none]
  change Delay.Turns now wait true builder.delay builder.wantsBuild asks decided.1.launch.1.delay
    decided.1.launch.1.wantsBuild _
  rw [launch_delay]
  refine ⟨decided.1.wantsBuild, moves, fun unwanted => ?_⟩
  rw [launch_of_unwanted unwanted]
  exact ⟨unwanted, rfl⟩

theorem onChange_debounce (builder : MusicBuilder) (now : Time) (change : Change) :
    (builder.onChange now change).1.debounce = builder.debounce := by
  cases change <;> rfl

end MusicBuilder

def songTimes (moves : List MusicMove) : List Time :=
  moves.flatMap fun move => move.started.map fun _ => move.before.now

theorem songTimes_append_singleton (moves : List MusicMove) (move : MusicMove) :
    songTimes (moves ++ [move]) = songTimes moves ++ move.started.map fun _ => move.before.now := by
  simp [songTimes]

namespace MusicRun

variable {musicDir : Path} {debounce : Time} {moves earlier later : List MusicMove}
  {system : MusicSystem} {action : MusicAction} {next : MusicSystem × List MusicEffect}

theorem debounce_eq (run : MusicSystem.process.Run (.create musicDir debounce) moves system) :
    system.builder.debounce = debounce := by
  induction run with
  | begin =>
      obtain ⟨builder, -⟩ := (MusicSystem.create musicDir debounce).goOn_fst
        ((MusicSystem.create musicDir debounce).builder, [])
      exact (congrArg MusicBuilder.debounce builder).trans (MusicBuilder.launch_debounce _)
  | step run possible ih =>
      obtain ⟨stage, decided, reaction, -, same, -⟩ := MusicSystem.reaction_of_step? possible
      rw [same]
      cases reaction with
      | quiet | stopped | left => exact ih
      | changed =>
          refine (MusicBuilder.launch_debounce _).trans ?_
          rw [MusicBuilder.onChange_debounce, ih]
      | woken | finished => exact (MusicBuilder.launch_debounce _).trans ih

theorem timed (run : MusicSystem.process.Run (.create musicDir debounce) moves system)
    (possible : system.step? action = some next) (running : next.1.stage = .running) :
    Delay.Turns system.now debounce true system.builder.delay system.builder.wantsBuild
      (MusicMove.asksTimer ⟨system, some action, next.2, next.1⟩)
      next.1.builder.delay next.1.builder.wantsBuild
      (MusicMove.started ⟨system, some action, next.2, next.1⟩) := by
  obtain ⟨stage, decided, reaction, after, same, effects, -⟩ :=
    MusicSystem.reaction_of_step? possible
  rw [MusicMove.started, effects, same]
  cases reaction with
  | quiet aside =>
      rw [MusicMove.asksTimer_of_aside aside]
      exact ⟨_, .kept, fun unwanted => ⟨unwanted, rfl⟩⟩
  | @changed change =>
      have moves := MusicBuilder.onChange_moves system change next
      rw [debounce_eq run] at moves
      exact MusicBuilder.thenLaunch_turns (MusicBuilder.onChange_started ..) moves
  | woken loops due => exact MusicBuilder.thenLaunch_turns rfl (MusicBuilder.onWake_moves _ due)
  | finished => exact MusicBuilder.thenLaunch_turns (MusicBuilder.onFinished_started ..) .kept
  | stopped | left => simp [after] at running

theorem started_of_not_running (possible : system.step? action = some next)
    (ending : next.1.stage ≠ .running) :
    MusicMove.started ⟨system, some action, next.2, next.1⟩ = [] := by
  obtain ⟨stage, decided, reaction, after, -, effects, -⟩ :=
    MusicSystem.reaction_of_step? possible
  rw [MusicMove.started, effects]
  cases reaction with
  | quiet | left => rfl
  | changed | woken | finished => exact absurd after ending
  | stopped => exact MusicBuilder.stop_started _

theorem held_back {change : MusicMove}
    (run : MusicSystem.process.Run (.create musicDir debounce) (earlier ++ change :: later) system)
    (asks : change.asksTimer = true) (unwanted : change.after.builder.wantsBuild = false) :
    ∀ time ∈ songTimes later, change.before.now + debounce ≤ time := by
  obtain ⟨kind, acted⟩ : ∃ kind, change.action = some (.change kind) := by
    unfold MusicMove.asksTimer at asks
    split at asks
    · exact ⟨_, ‹_›⟩
    · simp at asks
  refine (run.since (fun between reached =>
    Delay.HeldBack (change.before.now + debounce) debounce reached.now (reached.stage = .running)
      reached.builder.delay reached.builder.wantsBuild (songTimes between)) acted ?_ ?_).late
  · rintro reached next past possible rfl
    change reached.step? (.change kind) = some next at possible
    have passed := MusicSystem.now_of_step? possible
    refine unwanted ▸ .of_asked (passed ▸ Nat.le_add_right ..) fun running => ?_
    exact (MusicRun.timed past possible running).waitsFor asks
  · intro between reached action next past held possible
    have passed := MusicSystem.now_of_step? possible
    rw [songTimes_append_singleton]
    exact held.step (passed ▸ Nat.le_add_right ..)
      (fun running => ⟨MusicSystem.running_of_step? possible running,
        MusicRun.timed past possible running⟩)
      (started_of_not_running possible)

end MusicRun

end BuildWatch
