import BuildWatch.Proofs.Music.Timer
import BuildWatch.Proofs.Scheduler.Timer

/-!
The quiet period before a build. A change that finds no build wanted is waited for: no build starts
before the debounce after it is over. A build that is still wanted for an earlier change is not held
back by a later one; it starts as soon as the build that runs has ended.
-/

namespace BuildWatch

/-- In both loops no build is started sooner than the debounce after a change that asks the timer
and finds no build wanted. -/
theorem quiet_period (tree : FileTree) (source : ProjectSource) (musicDir : Path)
    (debounce : Time) :
    (∀ (system : BuildSystem) (earlier later : List Turn) (change : Turn),
      BuildRun (.create tree source debounce) (earlier ++ change :: later) system →
      change.asksTimer = true → change.after.scheduler.wantsBuild = false →
      ∀ time ∈ startTimes later, change.before.now + debounce ≤ time) ∧
    ∀ (system : MusicSystem) (earlier later : List MusicMove) (change : MusicMove),
      MusicSystem.process.Run (.create musicDir debounce) (earlier ++ change :: later) system →
      change.asksTimer = true → change.after.builder.wantsBuild = false →
      ∀ time ∈ songTimes later, change.before.now + debounce ≤ time := by
  constructor
  · intro system earlier later change run asks unwanted
    exact run.held_back asks unwanted
  · intro system earlier later change run asks unwanted
    exact MusicRun.held_back run asks unwanted

def calmSources : List Turn × BuildSystem :=
  BuildSystem.sample.attempt
    [.load 0, .list 0, .ask 0, .answer 0 sampleUse, .finish, .change .source, .pass 500, .wake]

def calmMusic : List MusicMove × MusicSystem :=
  MusicSystem.process.attempt .sample
    [.begin 0, .answer 0 (.ok (.ok ⟨#[1]⟩)), .finish, .change .music, .pass 500, .wake]

theorem quiet_period_calm :
    (∃ change, (BuildRun .sample
        (calmSources.1.take 6 ++ change :: calmSources.1.drop 7) calmSources.2 ∧
      change.asksTimer = true ∧ change.after.scheduler.wantsBuild = false ∧
      change.before.now = 0 ∧ startTimes (calmSources.1.drop 7) = [500]) ∧
      ∀ time ∈ startTimes (calmSources.1.drop 7), change.before.now + 500 ≤ time) ∧
    ∃ change, (MusicSystem.process.Run .sample
        (calmMusic.1.take 4 ++ change :: calmMusic.1.drop 5) calmMusic.2 ∧
      change.asksTimer = true ∧ change.after.builder.wantsBuild = false ∧
      change.before.now = 0 ∧ songTimes (calmMusic.1.drop 5) = [500]) ∧
      ∀ time ∈ songTimes (calmMusic.1.drop 5), change.before.now + 500 ≤ time := by
  have held := quiet_period (projectTree ⟨#[123, 125]⟩) ⟨⟨[Path.slash]⟩, ⟨[112]⟩, .compo⟩
    ⟨[Path.slash]⟩ 500
  constructor
  · obtain ⟨change, found, facts⟩ := Option.map_eq_some_iff.mp
      (show calmSources.1[6]?.map (fun turn => (turn.asksTimer,
        turn.after.scheduler.wantsBuild, turn.before.now)) = some (true, false, 0) by cbv)
    obtain ⟨asks, unwanted, moment⟩ : change.asksTimer = true ∧
        change.after.scheduler.wantsBuild = false ∧ change.before.now = 0 := by
      simpa using facts
    have run : BuildRun .sample
        (calmSources.1.take 6 ++ change :: calmSources.1.drop 7) calmSources.2 := by
      rw [take_cons_drop found]
      exact .attempt BuildSystem.sample _
    have starts : startTimes (calmSources.1.drop 7) = [500] := by cbv
    exact ⟨change, ⟨run, asks, unwanted, moment, starts⟩,
      held.1 _ _ _ change run asks unwanted⟩
  · obtain ⟨change, found, facts⟩ := Option.map_eq_some_iff.mp
      (show calmMusic.1[4]?.map (fun (move : MusicMove) => (move.asksTimer,
        move.after.builder.wantsBuild, move.before.now)) = some (true, false, 0) by cbv)
    obtain ⟨asks, unwanted, moment⟩ : change.asksTimer = true ∧
        change.after.builder.wantsBuild = false ∧ change.before.now = 0 := by
      simpa using facts
    have run : MusicSystem.process.Run .sample
        (calmMusic.1.take 4 ++ change :: calmMusic.1.drop 5) calmMusic.2 := by
      rw [take_cons_drop found]
      exact .attempt MusicSystem.process .sample _
    have starts : songTimes (calmMusic.1.drop 5) = [500] := by cbv
    exact ⟨change, ⟨run, asks, unwanted, moment, starts⟩,
      held.2 _ _ _ change run asks unwanted⟩

/-- The sources change while the second build compiles, so that a third one is wanted, and once more
before the second ends. -/
def latchedSources : List Turn × BuildSystem :=
  BuildSystem.sample.attempt
    [.load 0, .list 0, .ask 0, .answer 0 sampleUse, .finish, .change .source, .pass 500, .wake,
      .load 1, .list 1, .ask 1, .change .source, .pass 500, .wake, .pass 100, .change .source,
      .pass 100, .answer 1 sampleUse, .finish]

def latchedMusic : List MusicMove × MusicSystem :=
  MusicSystem.process.attempt .sample
    [.begin 0, .change .music, .pass 500, .wake, .pass 100, .change .music, .pass 100,
      .answer 0 (.ok (.ok ⟨#[1]⟩)), .finish]

theorem quiet_period_latched :
    (¬∀ (tree : FileTree) (source : ProjectSource) (debounce : Time) (system : BuildSystem)
      (earlier later : List Turn) (change : Turn),
      BuildRun (.create tree source debounce) (earlier ++ change :: later) system →
      change.action = some (.change .source) → change.before.scheduler.project.isSome = true →
      (∀ turn ∈ later, turn.asksTimer = false) →
      ∀ time ∈ startTimes later, change.before.now + debounce ≤ time) ∧
    ¬∀ (musicDir : Path) (debounce : Time) (system : MusicSystem)
      (earlier later : List MusicMove) (change : MusicMove),
      MusicSystem.process.Run (.create musicDir debounce) (earlier ++ change :: later) system →
      change.action = some (.change .music) → (∀ move ∈ later, move.asksTimer = false) →
      ∀ time ∈ songTimes later, change.before.now + debounce ≤ time := by
  constructor
  · intro always
    obtain ⟨change, found, facts⟩ := Option.map_eq_some_iff.mp
      (show latchedSources.1[16]?.map (fun turn => (turn.action,
        turn.before.scheduler.project.isSome, turn.before.now)) =
        some (some (.change .source), true, 1100) by cbv)
    obtain ⟨acted, loaded, moment⟩ : change.action = some (.change .source) ∧
        change.before.scheduler.project.isSome = true ∧ change.before.now = 1100 := by
      simpa using facts
    have run : BuildRun .sample
        (latchedSources.1.take 16 ++ change :: latchedSources.1.drop 17) latchedSources.2 := by
      rw [take_cons_drop found]
      exact .attempt BuildSystem.sample _
    have silent : (latchedSources.1.drop 17).all (fun turn => !turn.asksTimer) = true := by cbv
    have starts : startTimes (latchedSources.1.drop 17) = [1200] := by cbv
    have held := always _ _ _ _ _ _ change run acted loaded
      (fun turn member => by simpa using List.all_eq_true.mp silent turn member) 1200
      (by simp [starts])
    simp [moment] at held
  · intro always
    obtain ⟨change, found, facts⟩ := Option.map_eq_some_iff.mp
      (show latchedMusic.1[6]?.map (fun (move : MusicMove) => (move.action, move.before.now)) =
        some (some (.change .music), 600) by cbv)
    obtain ⟨acted, moment⟩ : change.action = some (.change .music) ∧
        change.before.now = 600 := by
      simpa using facts
    have run : MusicSystem.process.Run .sample
        (latchedMusic.1.take 6 ++ change :: latchedMusic.1.drop 7) latchedMusic.2 := by
      rw [take_cons_drop found]
      exact .attempt MusicSystem.process .sample _
    have silent : (latchedMusic.1.drop 7).all (fun move => !MusicMove.asksTimer move) = true := by
      cbv
    have starts : songTimes (latchedMusic.1.drop 7) = [700] := by cbv
    have held := always _ _ _ _ _ change run acted
      (fun move member => by simpa using List.all_eq_true.mp silent move member) 700
      (by simp [starts])
    simp [moment] at held

end BuildWatch
