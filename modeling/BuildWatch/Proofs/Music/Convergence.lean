import BuildWatch.Proofs.Debounce
import BuildWatch.Proofs.Music.History

/-!
A song that a change of the music overtakes is never shown, whatever its compiler makes of being
cancelled, and no change is forgotten: a music loop at rest shows a song begun after the latest.
-/

namespace BuildWatch

namespace MusicBuilder

def IsDue (builder : MusicBuilder) : Prop :=
  builder.wantsBuild = true ∨ builder.delay.armed = true

theorem onChange_isDue (builder : MusicBuilder) (now : Time) :
    (builder.onChange now .music).1.IsDue :=
  .inr (Delay.trigger_armed ..)

theorem onWake_isDue (builder : MusicBuilder) (now : Time) : (builder.onWake now).IsDue := by
  rcases builder.delay.onWake_cases now with accepted | again
  · exact .inl (by simp [onWake, accepted])
  · exact .inr again

end MusicBuilder

/-- What the songs begun since the latest change say about the loop: the running song is one of them
unless it was cancelled, a cancelled song is replaced, and without a song running or one to come,
one of them was the last that was shown. -/
structure Converges (fresh : List Nat) (shown : Nat → Prop) (builder : MusicBuilder) : Prop where
  live : ∀ running, builder.running = some running →
    (running.number ∈ fresh ↔ running.isCancelled = false)
  replaced : ∀ running, builder.running = some running → running.isCancelled = true →
    builder.IsDue
  settled : builder.running = none → ¬builder.IsDue → ∃ number ∈ fresh, shown number

namespace Converges

variable {fresh : List Nat} {shown seen : Nat → Prop} {builder : MusicBuilder}

theorem create (musicDir : Path) (debounce : Time) :
    Converges [] shown (MusicBuilder.create musicDir debounce) :=
  ⟨nofun, nofun, fun _ rest => absurd (.inl rfl) rest⟩

theorem mono (converges : Converges fresh shown builder)
    (still : ∀ number, shown number → seen number) : Converges fresh seen builder := by
  refine ⟨converges.live, converges.replaced, fun free rest => ?_⟩
  obtain ⟨number, member, earlier⟩ := converges.settled free rest
  exact ⟨number, member, still number earlier⟩

theorem thenLaunch {decided : MusicBuilder × List MusicEffect}
    (converges : Converges fresh shown decided.1)
    (none : decided.2.filterMap MusicEffect.started? = []) :
    Converges (fresh ++ (MusicBuilder.thenLaunch decided).2.filterMap MusicEffect.started?) shown
      (MusicBuilder.thenLaunch decided).1 := by
  rw [MusicBuilder.thenLaunch_started none]
  change Converges _ shown decided.1.launch.1
  generalize decided.1.launch.2 = more, decided.1.launch.1 = next, decided.1.launches = launched
  cases launched with
  | held => exact (List.append_nil fresh).symm ▸ converges
  | started =>
      refine ⟨?_, ?_, nofun⟩
      · rintro running ⟨⟩
        simp [MusicEffect.started?, MusicBuilder.debug]
      · rintro running ⟨⟩ cancelled
        simp at cancelled

theorem onMusicChange (builder : MusicBuilder) (now : Time) :
    Converges [] shown (builder.onChange now .music).1 := by
  have due := builder.onChange_isDue now
  refine ⟨?_, fun _ _ _ => due, fun _ rest => absurd due rest⟩
  intro running found
  obtain ⟨earlier, -, rfl⟩ := Option.map_eq_some_iff.mp found
  simp [RunningSong.cancel]

theorem onWake (converges : Converges fresh shown builder) (now : Time) :
    Converges fresh shown (builder.onWake now) := by
  have due := builder.onWake_isDue now
  exact ⟨converges.live, fun _ _ _ => due, fun _ rest => absurd due rest⟩

theorem onFinished {running : RunningSong} (converges : Converges fresh shown builder)
    (waiting : builder.running = some running) (result : SongResult)
    (delivered : running.isCancelled = false → seen running.number) :
    Converges fresh seen (builder.onFinished result).1 := by
  refine ⟨nofun, nofun, fun _ rest => ?_⟩
  cases cancelled : running.isCancelled with
  | true => exact absurd (converges.replaced running waiting cancelled) rest
  | false =>
      exact ⟨running.number, (converges.live running waiting).mpr cancelled, delivered cancelled⟩

end Converges

def IsShown (moves : List MusicMove) (number : Nat) : Prop :=
  ∃ earlier finish later result state, moves = earlier ++ finish :: later ∧
    finish.ended? = some (number, result) ∧ result.ShownAs state ∧
    finish.published = [state] ∧ ∀ move ∈ later, move.published = []

theorem IsShown.append {moves : List MusicMove} {move : MusicMove} {number : Nat}
    (shown : IsShown moves number) (silent : move.published = []) :
    IsShown (moves ++ [move]) number := by
  obtain ⟨earlier, finish, later, result, state, rfl, ended, shows, published, quiet⟩ := shown
  refine ⟨earlier, finish, later ++ [move], result, state, by simp, ended, shows, published, ?_⟩
  intro other member
  rcases List.mem_append.mp member with among | last
  · exact quiet other among
  · rw [List.mem_singleton.mp last, silent]

namespace MusicRun

variable {musicDir : Path} {debounce : Time} {moves earlier later : List MusicMove}
  {system : MusicSystem} {move : MusicMove} {action : MusicAction}
  {next : MusicSystem × List MusicEffect}

theorem converges (run : MusicSystem.process.Run (.create musicDir debounce) moves system)
    (running : system.stage = .running) :
    Converges (songsIn (sinceMusicChange moves)) (IsShown moves) system.builder := by
  induction run with
  | begin => exact @Converges.thenLaunch _ _ (.create musicDir debounce, []) (.create ..) rfl
  | @step moves before action next run possible ih =>
      obtain ⟨stage, decided, reaction, after, same, effects, -⟩ :=
        MusicSystem.reaction_of_step? possible
      have started : MusicMove.started ⟨before, some action, next.2, next.1⟩ =
          decided.2.filterMap MusicEffect.started? := congrArg _ effects
      have published : MusicMove.published ⟨before, some action, next.2, next.1⟩ =
          decided.2.filterMap MusicEffect.published? := congrArg _ effects
      have kept (silent : decided.2.filterMap MusicEffect.published? = []) (number : Nat)
          (shown : IsShown moves number) :
          IsShown (moves ++ [⟨before, some action, next.2, next.1⟩]) number :=
        shown.append (published.trans silent)
      rw [same, songsSince_append_singleton, started]
      cases reaction with
      | quiet aside =>
          rw [MusicMove.asksTimer_of_aside aside]
          simpa using (ih (after.symm.trans running)).mono (kept rfl)
      | @changed change loops =>
          have silent := (MusicBuilder.thenLaunch_published _).trans
            (before.builder.onChange_published before.now change)
          have none := before.builder.onChange_started before.now change
          cases change with
          | config | source => exact ((ih loops).mono (kept silent)).thenLaunch none
          | music =>
              -- a build that is wanted waits for another, so the change itself starts none
              have held : (before.builder.onChange before.now .music).1.launch =
                  ((before.builder.onChange before.now .music).1, []) := by
                refine MusicBuilder.launch_of_settled fun wanted gone => ?_
                exact settled run loops wanted (Option.map_eq_none_iff.mp gone)
              rw [MusicBuilder.thenLaunch, held]
              exact Converges.onMusicChange ..
      | woken loops due =>
          have silent : (MusicBuilder.thenLaunch
              (before.builder.onWake before.now, [])).2.filterMap MusicEffect.published? = [] :=
            MusicBuilder.thenLaunch_published _
          exact @Converges.thenLaunch _ _ (before.builder.onWake before.now, [])
            (((ih loops).mono (kept silent)).onWake before.now) rfl
      | @finished song result loops waiting ended =>
          have ends := MusicSystem.ended?_of_finished waiting ended next.2 next.1
          have shows (live : song.isCancelled = false) :
              IsShown (moves ++ [⟨before, some .finish, next.2, next.1⟩]) song.number := by
            refine ⟨moves, _, [], result, _, rfl, ends, result.shownAs_stateOf, ?_, by simp⟩
            rw [published, MusicBuilder.thenLaunch_published, MusicBuilder.onFinished_published]
            simp [waiting, live]
          exact ((ih loops).onFinished waiting result shows).thenLaunch
            (before.builder.onFinished_started result)
      | stopped loops | left loops => simp [after] at running

theorem showsAfter
    (run : MusicSystem.process.Run (.create musicDir debounce) (earlier ++ move :: later) system) :
    move.ShowsAfter earlier move.published := by
  rcases run.move_cases with ⟨rfl, rfl⟩ | ⟨before, action, next, past, possible, rfl⟩
  · exact .going rfl
  · obtain ⟨stage, decided, reaction, after, same, effects, -⟩ :=
      MusicSystem.reaction_of_step? possible
    rw [MusicMove.published, effects]
    cases reaction with
    | quiet aside => exact .going (MusicMove.ended?_of_aside aside ..)
    | changed =>
        rw [MusicBuilder.thenLaunch_published, MusicBuilder.onChange_published]
        exact .going rfl
    | woken =>
        rw [MusicBuilder.thenLaunch_published]
        exact .going rfl
    | @finished song result loops waiting ended =>
        have live := (converges past loops).live song waiting
        have ends := MusicSystem.ended?_of_finished waiting ended next.2 next.1
        rw [MusicBuilder.thenLaunch_published, MusicBuilder.onFinished_published, waiting,
          Option.any_some]
        cases cancelled : song.isCancelled with
        | true => exact .overtaken ends (by simp [live, cancelled])
        | false => exact .current ends (live.mpr cancelled) result.shownAs_stateOf
    | stopped =>
        rw [MusicBuilder.stop_published]
        exact .going rfl
    | left => exact .going rfl

theorem ended_answered {number : Nat} {result : SongResult}
    (run : MusicSystem.process.Run (.create musicDir debounce) (earlier ++ move :: later) system)
    (ended : move.ended? = some (number, result)) :
    ∃ answer ∈ earlier, answer.action = some (.answer number result) := by
  rcases run.move_cases with ⟨rfl, rfl⟩ | ⟨before, action, next, past, possible, rfl⟩
  · simp [MusicMove.ended?, Process.opening] at ended
  · simp only [MusicMove.ended?] at ended
    split at ended
    · simp only [MusicSystem.result?] at ended
      split at ended
      · rename_i read
        obtain ⟨rfl, rfl⟩ := Prod.mk.inj (Option.some.inj ended)
        obtain ⟨song, -, found⟩ := Option.bind_eq_some_iff.mp read
        exact answered past (List.mem_of_find?_eq_some found) rfl
      · simp at ended
    · simp at ended

theorem untouched (run : MusicSystem.process.Run (.create musicDir debounce) moves system)
    (still : ∀ move ∈ moves, move.asksTimer = false) :
    ¬system.builder.IsDue ∧ system.builder.builds = 1 := by
  induction run with
  | begin =>
      rw [MusicSystem.begin_builder]
      exact ⟨by simp [MusicBuilder.IsDue, MusicSystem.create, MusicBuilder.create,
        MusicBuilder.launch, Delay.idle], rfl⟩
  | @step moves before action next run possible ih =>
      obtain ⟨rest, first⟩ := ih fun move member => still move (List.mem_append_left _ member)
      have unwanted : before.builder.wantsBuild = false := by simpa using not_or.mp rest |>.1
      obtain ⟨stage, decided, reaction, after, same, effects, -⟩ :=
        MusicSystem.reaction_of_step? possible
      rw [same]
      cases reaction with
      | quiet | left | stopped => exact ⟨rest, first⟩
      | @changed change =>
          cases change with
          | music =>
              have calm := still _ (List.mem_append_right _ (List.mem_singleton.mpr rfl))
              simp [MusicMove.asksTimer] at calm
          | config | source =>
              have held := MusicBuilder.launch_of_unwanted unwanted
              simpa [MusicBuilder.thenLaunch, MusicBuilder.onChange, held] using ⟨rest, first⟩
      | woken loops due => exact absurd (.inr (Delay.armed_of_isDue due)) rest
      | @finished song result =>
          have held : (before.builder.onFinished result).1.launch =
              ((before.builder.onFinished result).1, []) :=
            MusicBuilder.launch_of_unwanted unwanted
          rw [MusicBuilder.thenLaunch, held]
          exact ⟨rest, first⟩

/-- At most one song is in flight. The end of a song that no change of the music has overtaken shows
as what was answered for it, that of any other does not show, and nothing else does; and a loop at
rest shows, last of all, the result of a song begun after the latest change, or else of the first. -/
theorem convergence (run : MusicSystem.process.Run (.create musicDir debounce) moves system) :
    system.tasks.length ≤ 1 ∧
      songsIn moves = List.range system.builder.builds ∧
      (∀ earlier move later, moves = earlier ++ move :: later →
        move.ShowsAfter earlier move.published ∧
        ∀ number result, move.ended? = some (number, result) →
          ∃ answer ∈ earlier, answer.action = some (.answer number result)) ∧
      (system.stage = .running → system.builder.running = none →
        system.builder.wantsBuild = false → system.builder.delay.armed = false →
        ∃ earlier finish later number result state, moves = earlier ++ finish :: later ∧
          finish.ended? = some (number, result) ∧ result.ShownAs state ∧
          finish.published = [state] ∧
          (∀ move ∈ later, move.published = []) ∧
          number ∈ songsIn (sinceMusicChange moves) ∧
          ((∀ move ∈ moves, move.asksTimer = false) → number = 0)) := by
  refine ⟨(oneSong run).single, songsIn_eq run, ?_, ?_⟩
  · rintro earlier move later rfl
    exact ⟨showsAfter run, fun number result => ended_answered run⟩
  · intro running free unwanted disarmed
    have rest : ¬system.builder.IsDue := by simp [MusicBuilder.IsDue, unwanted, disarmed]
    obtain ⟨number, fresh, earlier, finish, later, result, state, whole, ended, shows, published,
      silent⟩ := (converges run running).settled free rest
    refine ⟨earlier, finish, later, number, result, state, whole, ended, shows, published, silent,
      fresh, ?_⟩
    intro still
    have begun := songsSince_subset moves fresh
    rw [songsIn_eq run, (untouched run still).2] at begun
    simpa using begun

def lateSong : List MusicMove × MusicSystem :=
  MusicSystem.process.attempt .sample
    [.begin 0, .change .music, .pass 500, .wake, .pass 100, .answer 0 (.ok (.ok ⟨#[1]⟩)), .finish,
      .begin 1, .answer 1 (.ok (.ok ⟨#[2]⟩)), .finish]

theorem convergence_late : ∃ overtaken : MusicMove,
    let moves := lateSong.1.take 7 ++ overtaken :: lateSong.1.drop 8
    (MusicSystem.process.Run .sample moves lateSong.2 ∧
      overtaken.ended? = some (0, .ok (.ok ⟨#[1]⟩)) ∧ lateSong.2.stage = .running ∧
      lateSong.2.builder.running = none ∧ lateSong.2.builder.wantsBuild = false ∧
      lateSong.2.builder.delay.armed = false ∧
      lateSong.1.flatMap MusicMove.published = [.ready ⟨#[2]⟩]) ∧
      lateSong.2.tasks.length ≤ 1 ∧ songsIn moves = List.range lateSong.2.builder.builds ∧
      overtaken.ShowsAfter (lateSong.1.take 7) overtaken.published ∧
      (∃ answer ∈ lateSong.1.take 7, answer.action = some (.answer 0 (.ok (.ok ⟨#[1]⟩)))) ∧
      ∃ earlier finish later number result, moves = earlier ++ finish :: later ∧
        finish.ended? = some (number, result) ∧ result.ShownAs (.ready ⟨#[2]⟩) ∧
        finish.published = [.ready ⟨#[2]⟩] ∧
        (∀ move ∈ later, move.published = []) ∧ number ∈ songsIn (sinceMusicChange moves) := by
  obtain ⟨overtaken, found, ended⟩ := Option.map_eq_some_iff.mp
    (show lateSong.1[7]?.map MusicMove.ended? = some (some (0, .ok (.ok ⟨#[1]⟩))) by cbv)
  have whole := take_cons_drop found
  have run : MusicSystem.process.Run .sample
      (lateSong.1.take 7 ++ overtaken :: lateSong.1.drop 8) lateSong.2 := by
    rw [whole]
    exact .attempt MusicSystem.process .sample _
  have running : lateSong.2.stage = .running := by cbv
  have free : lateSong.2.builder.running = none := by cbv
  have unwanted : lateSong.2.builder.wantsBuild = false := by cbv
  have disarmed : lateSong.2.builder.delay.armed = false := by cbv
  have seen : lateSong.1.flatMap MusicMove.published = [.ready ⟨#[2]⟩] := by cbv
  obtain ⟨single, numbered, shown, rest⟩ := convergence run
  obtain ⟨shows, answer⟩ := shown _ overtaken _ rfl
  obtain ⟨earlier, finish, later, number, result, state, split, ends, told, published, silent,
    fresh, -⟩ := rest running free unwanted disarmed
  obtain rfl : state = .ready ⟨#[2]⟩ := by
    have member : state ∈ lateSong.1.flatMap MusicMove.published := by
      refine List.mem_flatMap.mpr ⟨finish, ?_, by simp [published]⟩
      rw [← whole, split]
      simp
    simpa [seen] using member
  exact ⟨overtaken, ⟨run, ended, running, free, unwanted, disarmed, seen⟩, single, numbered,
    shows, answer _ _ ended,
    ⟨earlier, finish, later, number, result, split, ends, told, published, silent, fresh⟩⟩

end MusicRun

end BuildWatch
