import BuildWatch.Proofs.Coordinator.Run
import BuildWatch.Proofs.Coordinator.Separation

/-!
The two builds do not get in each other's way. Whatever one of them does, and whatever is noticed
for it, can be left out of a run, and the other one does the same as before at the same times.
-/

namespace BuildWatch

def BuildAction.isEdit : BuildAction → Bool
  | .edit _ => true
  | _ => false

namespace PipelineMove

/-- What is left of a move when the build of the other receiver and all that is noticed for it are
left out. Files that change are not part of a build. -/
def kept? (receiver : Receiver) (keep : Path → Bool) (move : PipelineMove) :
    Option PipelineAction :=
  match move.action with
  | none => none
  | some (.pass time) => some (.pass time)
  | some (.dispatch action) => (move.before.dispatch.kept? receiver keep action).map .dispatch
  | some (.code action) =>
    if receiver = .code ∨ action.isEdit = true then some (.code action) else none
  | some (.music action) => if receiver = .music then some (.music action) else none

end PipelineMove

namespace Pipelines

/-- The watcher gives up and the loops end only because they are told to, or because no notice can
come any more. -/
structure Sound (system : Pipelines) : Prop where
  failed : ∀ receiver, system.dispatch.stage = .failed receiver →
    system.dispatch.isStopping = true
  ended : ∀ receiver, system.loopStage receiver ≠ .running →
    system.dispatch.isStopping = true ∨ system.dispatch.stage = .finished

/-- Another system is like this one, but for the other receiver and its build. -/
structure Follows (receiver : Receiver) (keep : Path → Bool) (system other : Pipelines) :
    Prop where
  dispatch : other.dispatch = system.dispatch.only receiver keep
  code : receiver = .code → other.code = system.code
  music : receiver = .music → other.music = system.music

/-- What becomes of a move in the other system: nothing, or a move of the same loop. -/
inductive Mirrored (receiver : Receiver) (keep : Path → Bool) (other : Pipelines)
    (move : PipelineMove) : Prop
  | skipped : PipelineMove.kept? receiver keep move = none →
      PipelineMove.turn? receiver move = none → Follows receiver keep move.after other →
      Mirrored receiver keep other move
  | taken {kept after} : PipelineMove.kept? receiver keep move = some kept →
      other.step? kept = some after →
      PipelineMove.turn? receiver ⟨other, some kept, after.2, after.1⟩ =
        PipelineMove.turn? receiver move →
      Follows receiver keep move.after after.1 → Mirrored receiver keep other move

variable {system other : Pipelines} {receiver : Receiver} {keep : Path → Bool}
  {next : Pipelines × ServerOutput}

theorem Follows.isOpen_eq (follows : Follows receiver keep system other) :
    other.isOpen receiver = system.isOpen receiver := by
  cases receiver with
  | code => rw [isOpen, loopStage, follows.code rfl, isOpen, loopStage]
  | music => rw [isOpen, loopStage, follows.music rfl, isOpen, loopStage]

theorem mirrored_pass (follows : Follows receiver keep system other) {time : Time}
    (possible : system.step? (.pass time) = some next) :
    Mirrored receiver keep other ⟨system, some (.pass time), next.2, next.1⟩ := by
  obtain rfl := Option.some.inj possible
  refine .taken rfl rfl ?_ ⟨follows.dispatch, ?_, ?_⟩
  · cases receiver with
    | code => simp only [PipelineMove.turn?, follows.code rfl]
    | music => simp only [PipelineMove.turn?, follows.music rfl]
  · intro own
    rw [follows.code own]
  · intro own
    rw [follows.music own]

theorem mirrored_dispatch (separates : system.dispatch.classifier.Separates receiver keep)
    (follows : Follows receiver keep system other) {action : DispatchAction}
    (possible : system.step? (.dispatch action) = some next) :
    Mirrored receiver keep other ⟨system, some (.dispatch action), next.2, next.1⟩ := by
  obtain ⟨dispatch, log, moved, rfl⟩ := step?_dispatch_iff.mp possible
  have alike : receiver = .code →
      other.code.scheduler.sourceDir = system.code.scheduler.sourceDir := by
    intro own
    rw [follows.code own]
  have silent (before after : Pipelines) (output : ServerOutput) (action : DispatchAction) :
      PipelineMove.turn? receiver ⟨before, some (.dispatch action), output, after⟩ = none := by
    cases receiver <;> rfl
  have happens := Dispatch.happens_of_step? moved
  rcases happens.survives separates alike follows.isOpen_eq with
    ⟨kept, left, survives⟩ | ⟨nothing, unchanged⟩
  · rw [← follows.dispatch] at survives
    refine .taken (by simp only [PipelineMove.kept?, left, Option.map_some])
      (step?_dispatch_iff.mpr ⟨_, _, survives.step?, rfl⟩) ?_ ⟨rfl, follows.code, follows.music⟩
    rw [silent, silent]
  · refine .skipped (by simp only [PipelineMove.kept?, nothing, Option.map_none]) (silent ..) ?_
    exact ⟨follows.dispatch.trans unchanged.symm, follows.code, follows.music⟩

theorem mirrored_code (sound : Sound system) (follows : Follows receiver keep system other)
    {action : BuildAction} (possible : system.step? (.code action) = some next) :
    Mirrored receiver keep other ⟨system, some (.code action), next.2, next.1⟩ := by
  obtain ⟨dispatch, code, effects, admitted, moved, rfl⟩ := step?_code_iff.mp possible
  cases receiver with
  | code =>
      have admits := @Dispatch.admit?_only _ _ keep _ _ sound.failed admitted
      rw [← follows.dispatch] at admits
      rw [← follows.code rfl] at moved
      refine .taken (by simp only [PipelineMove.kept?, true_or, if_true])
        (step?_code_iff.mpr ⟨_, _, _, admits, moved, rfl⟩) ?_ ⟨rfl, fun _ => rfl, nofun⟩
      simp only [PipelineMove.turn?, follows.code rfl]
  | music =>
      have unchanged := @Dispatch.admit?_other _ .music keep _ _ _ (by decide) admitted
      have dispatch_eq := follows.dispatch.trans unchanged.symm
      by_cases edits : action.isEdit = true
      · cases action with
        | edit tree =>
            have stays : other.step? (.code (.edit tree)) =
                some ({ other with code := { other.code with tree } }, ⟨[], [], []⟩) := rfl
            exact .taken rfl stays rfl ⟨dispatch_eq, nofun, follows.music⟩
        | _ => simp [BuildAction.isEdit] at edits
      · have left_out : ¬(Receiver.music = .code ∨ action.isEdit = true) := by simp [edits]
        refine .skipped ?_ rfl ⟨dispatch_eq, nofun, follows.music⟩
        simp only [PipelineMove.kept?, if_neg left_out]

theorem mirrored_music (sound : Sound system) (follows : Follows receiver keep system other)
    {action : MusicAction} (possible : system.step? (.music action) = some next) :
    Mirrored receiver keep other ⟨system, some (.music action), next.2, next.1⟩ := by
  obtain ⟨dispatch, music, effects, admitted, moved, rfl⟩ := step?_music_iff.mp possible
  cases receiver with
  | code =>
      have unchanged := @Dispatch.admit?_other _ .code keep _ _ _ (by decide) admitted
      refine .skipped rfl rfl ?_
      exact ⟨follows.dispatch.trans unchanged.symm, follows.code, nofun⟩
  | music =>
      have admits := @Dispatch.admit?_only _ _ keep _ _ sound.failed admitted
      rw [← follows.dispatch] at admits
      rw [← follows.music rfl] at moved
      refine .taken rfl (step?_music_iff.mpr ⟨_, _, _, admits, moved, rfl⟩) ?_
        ⟨rfl, nofun, fun _ => rfl⟩
      simp only [PipelineMove.turn?, follows.music rfl]

theorem Follows.step (sound : Sound system)
    (separates : system.dispatch.classifier.Separates receiver keep)
    (follows : Follows receiver keep system other) {action : PipelineAction}
    (possible : system.step? action = some next) :
    Mirrored receiver keep other ⟨system, some action, next.2, next.1⟩ := by
  cases action with
  | pass time => exact mirrored_pass follows possible
  | dispatch action => exact mirrored_dispatch separates follows possible
  | code action => exact mirrored_code sound follows possible
  | music action => exact mirrored_music sound follows possible

end Pipelines

namespace BuildSystem

theorem stop_of_step? {system : BuildSystem} {action : BuildAction}
    {moved : BuildSystem × List Effect} (running : system.stage = .running)
    (possible : system.step? action = some moved) (ended : moved.1.stage ≠ .running) :
    action = .stop := by
  obtain ⟨stage, decided, reaction, after, -, -⟩ := reaction_of_step? possible
  cases reaction with
  | quiet => exact absurd (after.trans running) ended
  | changed | woken | finished => exact absurd after ended
  | stopped => rfl
  | left stopping => simp [running] at stopping

end BuildSystem

namespace MusicSystem

theorem stop_of_step? {system : MusicSystem} {action : MusicAction}
    {moved : MusicSystem × List MusicEffect} (running : system.stage = .running)
    (possible : system.step? action = some moved) (ended : moved.1.stage ≠ .running) :
    action = .stop := by
  obtain ⟨stage, decided, reaction, after, -⟩ := reaction_of_step? possible
  cases reaction with
  | quiet => exact absurd (after.trans running) ended
  | changed | woken | finished => exact absurd after ended
  | stopped => rfl
  | left stopping => simp [running] at stopping

end MusicSystem

namespace Pipelines

variable {system other : Pipelines} {receiver : Receiver} {keep : Path → Bool}
  {next : Pipelines × ServerOutput}

theorem Sound.admitted (sound : Sound system) {dispatch : Dispatch} {input : LoopInput}
    (stops : input = .stop) (admitted : system.dispatch.admit? receiver input = some dispatch) :
    system.dispatch.isStopping = true ∨ system.dispatch.stage = .finished := by
  subst stops
  simp only [Dispatch.admit?, Option.ite_none_right_eq_some] at admitted
  obtain ⟨told | ⟨ended, -⟩, -⟩ := admitted
  · exact .inl told
  · cases stage : system.dispatch.stage with
    | working => exact absurd stage ended
    | finished => exact .inr rfl
    | failed gone => exact .inl (sound.failed gone stage)

theorem Sound.step_dispatch (sound : Sound system) {action : DispatchAction}
    (possible : system.step? (.dispatch action) = some next) : Sound next.1 := by
  obtain ⟨dispatch, log, moved, rfl⟩ := step?_dispatch_iff.mp possible
  obtain ⟨-, stopping, stage⟩ := (Dispatch.happens_of_step? moved).keeps
  constructor
  · intro gone failed
    rcases stage with same | ⟨working, ends⟩
    · exact stopping (sound.failed gone (same.symm.trans failed))
    · simp only at failed
      rw [failed] at ends
      cases ends with
      | failed closed =>
          have stopped : system.loopStage gone ≠ .running := by
            intro running
            simp [isOpen, running] at closed
          rcases sound.ended gone stopped with told | finished
          · exact stopping told
          · simp [working] at finished
  · intro place stopped
    rcases sound.ended place stopped with told | finished
    · exact .inl (stopping told)
    · rcases stage with same | ⟨working, -⟩
      · exact .inr (same.trans finished)
      · simp [working] at finished

theorem Sound.step_loop (sound : Sound system) {dispatch : Dispatch} {input : LoopInput}
    (admitted : system.dispatch.admit? receiver input = some dispatch)
    (unchanged : next.1.dispatch = dispatch)
    (others : ∀ other, other ≠ receiver → next.1.loopStage other = system.loopStage other)
    (stops : system.loopStage receiver = .running → next.1.loopStage receiver ≠ .running →
      input = .stop) : Sound next.1 := by
  obtain ⟨-, told, stage⟩ := Dispatch.keeps_of_admit? admitted
  rw [← unchanged] at told stage
  constructor
  · intro gone failed
    rw [told]
    exact sound.failed gone (stage.symm.trans failed)
  · intro place stopped
    rw [told, stage]
    by_cases own : place = receiver
    · subst own
      by_cases running : system.loopStage place = .running
      · exact sound.admitted (stops running stopped) admitted
      · exact sound.ended place running
    · rw [others place own] at stopped
      exact sound.ended place stopped

theorem Sound.step (sound : Sound system) {action : PipelineAction}
    (possible : system.step? action = some next) : Sound next.1 := by
  cases action with
  | pass time =>
      obtain rfl := Option.some.inj possible
      refine ⟨sound.failed, ?_⟩
      intro place
      cases place with
      | code => exact sound.ended .code
      | music => exact sound.ended .music
  | dispatch action => exact sound.step_dispatch possible
  | code action =>
      obtain ⟨dispatch, code, effects, admitted, moved, rfl⟩ := step?_code_iff.mp possible
      refine sound.step_loop admitted rfl ?_ ?_
      · intro place other
        cases place with
        | code => exact absurd rfl other
        | music => rfl
      · intro running stopped
        rw [BuildSystem.stop_of_step? running moved stopped]
        rfl
  | music action =>
      obtain ⟨dispatch, music, effects, admitted, moved, rfl⟩ := step?_music_iff.mp possible
      refine sound.step_loop admitted rfl ?_ ?_
      · intro place other
        cases place with
        | code => rfl
        | music => exact absurd rfl other
      · intro running stopped
        rw [MusicSystem.stop_of_step? running moved stopped]
        rfl

end Pipelines

namespace PipelineRun

variable {settings : Settings} {tree : FileTree} {moves : List PipelineMove} {system : Pipelines}

theorem sound (run : Pipelines.process.Run (settings.pipelines tree) moves system) :
    system.Sound := by
  induction run with
  | begin =>
      refine ⟨nofun, ?_⟩
      intro place stopped
      cases place with
      | code => exact absurd (BuildSystem.begin_stage _) stopped
      | music =>
          exact absurd (MusicSystem.foldl_perform ..).2.1 stopped
  | step run possible ih => exact ih.step possible

/-- Leaving out all that is noticed for one of the builds, and all that this build does, leaves a
run in which the other build does the same at the same times: it takes in the same changes, starts
the same builds, learns the same outcomes and publishes the same states. -/
theorem separate (run : Pipelines.process.Run (settings.pipelines tree) moves system)
    {receiver : Receiver} {keep : Path → Bool}
    (separates : (settings.pipelines tree).dispatch.classifier.Separates receiver keep) :
    ∃ others other, Pipelines.process.Run (settings.pipelines tree) others other ∧
      others.filterMap Move.action = moves.filterMap (PipelineMove.kept? receiver keep) ∧
      Pipelines.turns receiver others = Pipelines.turns receiver moves := by
  have follows : ∃ others other, Pipelines.process.Run (settings.pipelines tree) others other ∧
      others.filterMap Move.action = moves.filterMap (PipelineMove.kept? receiver keep) ∧
      Pipelines.turns receiver others = Pipelines.turns receiver moves ∧
      system.Follows receiver keep other := by
    induction run with
    | begin =>
        refine ⟨_, _, .begin, ?_, rfl, ?_, fun _ => rfl, fun _ => rfl⟩
        · rfl
        · exact (Dispatch.create_only ..).symm
    | step past possible ih =>
        obtain ⟨others, other, run, actions, turns, follows⟩ := ih
        rw [← classifier past] at separates
        cases follows.step (sound past) separates possible with
        | skipped left_out silent still =>
            refine ⟨others, other, run, ?_, ?_, still⟩
            · rw [List.filterMap_append, List.filterMap_cons_none left_out, actions]
              exact (List.append_nil _).symm
            · rw [Pipelines.turns, Pipelines.turns, List.filterMap_append,
                List.filterMap_cons_none silent]
              exact turns.trans (List.append_nil _).symm
        | taken kept taken turn still =>
            refine ⟨_, _, run.step taken, ?_, ?_, still⟩
            · rw [List.filterMap_append, List.filterMap_append, actions,
                List.filterMap_cons_some kept]
              rfl
            · rw [Pipelines.turns, Pipelines.turns, List.filterMap_append, List.filterMap_append,
                List.filterMap_cons, List.filterMap_cons, turn]
              exact congrArg (· ++ _) turns
  obtain ⟨others, other, run, actions, turns, -⟩ := follows
  exact ⟨others, other, run, actions, turns⟩

theorem initial_pipelines : Settings.initial.pipelines ⟨[]⟩ =
    ⟨Settings.initial.codeSystem ⟨[]⟩, Settings.initial.musicSystem,
      .create (.of (Path.ofText "/") (Path.ofText "project.json") (Path.ofText "music") none)⟩ := by
  have root : Settings.initial.watchedDir ⟨[]⟩ = Path.ofText "/" := by cbv
  rw [Settings.pipelines, root]
  rfl

def changedTogether : List PipelineMove × Pipelines :=
  Pipelines.process.attempt (Settings.initial.pipelines ⟨[]⟩)
    [.music (.begin 0),
      .dispatch (.notify
        ⟨.modified, [Path.ofText "/music/songs.json", Path.ofText "/project.json"]⟩),
      .dispatch (.take 1), .dispatch .classify, .dispatch .classify, .dispatch .announce,
      .dispatch .send, .dispatch .announce, .dispatch .send, .music (.change .music),
      .code (.change .config), .music (.answer 0 (.error "gone")), .code (.die 0 "gone"),
      .code .finish, .music .finish, .pass 100, .code .wake, .music .wake]

theorem separate_together :
    (∃ others other, Pipelines.process.Run (Settings.initial.pipelines ⟨[]⟩) others other ∧
      others.filterMap Move.action =
        [.dispatch (.notify ⟨.modified, [Path.ofText "/project.json"]⟩), .dispatch (.take 1),
          .dispatch .classify, .dispatch .announce, .dispatch .send, .code (.change .config),
          .code (.die 0 "gone"), .code .finish, .pass 100, .code .wake] ∧
      Pipelines.turns .code others = Pipelines.turns .code changedTogether.1) ∧
    ∃ others other, Pipelines.process.Run (Settings.initial.pipelines ⟨[]⟩) others other ∧
      others.filterMap Move.action =
        [.music (.begin 0),
          .dispatch (.notify ⟨.modified, [Path.ofText "/music/songs.json"]⟩), .dispatch (.take 1),
          .dispatch .classify, .dispatch .announce, .dispatch .send, .music (.change .music),
          .music (.answer 0 (.error "gone")), .music .finish, .pass 100, .music .wake] ∧
      Pipelines.turns .music others = Pipelines.turns .music changedTogether.1 := by
  have run := Process.Run.attempt Pipelines.process (Settings.initial.pipelines ⟨[]⟩)
  constructor
  · obtain ⟨others, other, past, actions, turns⟩ :=
      separate (run _) (Classifier.separates_concerns _ .code)
    refine ⟨others, other, past, actions.trans ?_, turns⟩
    rw [initial_pipelines]
    rfl
  · obtain ⟨others, other, past, actions, turns⟩ :=
      separate (run _) (Classifier.separates_concerns _ .music)
    refine ⟨others, other, past, actions.trans ?_, turns⟩
    rw [initial_pipelines]
    rfl

end PipelineRun

end BuildWatch
