import BuildWatch.Proofs.Music.Reaction

/-!
What is read off a run of the music loop: the songs that were begun, those of them that no change of
the music has overtaken, and what observers are shown when one ends. One song is built at a time.
-/

namespace BuildWatch

def MusicEffect.published? : MusicEffect → Option MusicState
  | .publish state => some state
  | _ => none

inductive MusicError.ToldAs : MusicError → String → Prop
  | cancelled : ToldAs .cancelled "music build cancelled"
  | start {program fault} :
      ToldAs (.start program fault) ("could not start song compiler `" ++ program ++ "`")
  | exit {status output} :
      ToldAs (.exit status output) ("song compiler failed (" ++ status.display ++ "): " ++ output)
  | empty : ToldAs .empty "song compiler produced no output"

/-- What observers are to see of the end of a song. -/
inductive SongResult.ShownAs : SongResult → MusicState → Prop
  | made {data} : ShownAs (.ok (.ok data)) (.ready data)
  | failed {error message} : error.ToldAs message → ShownAs (.ok (.error error)) (.failed message)
  | died {message} : ShownAs (.error message) (.failed ("music task failed: " ++ message))

theorem MusicError.toldAs_message (error : MusicError) : error.ToldAs error.message := by
  cases error with
  | cancelled => exact .cancelled
  | start => exact .start
  | exit => exact .exit
  | empty => exact .empty

theorem SongResult.shownAs_stateOf (result : SongResult) :
    result.ShownAs (MusicBuilder.stateOf result) := by
  cases result with
  | ok answer =>
      cases answer with
      | ok data => exact .made
      | error error => exact .failed error.toldAs_message
  | error message => exact .died

def MusicSystem.result? (system : MusicSystem) : Option (Nat × SongResult) :=
  match system.builder.running.bind fun running => system.task? running.number with
  | some ⟨number, _, .finished result⟩ => some (number, result)
  | _ => none

def songsIn (moves : List MusicMove) : List Nat := moves.flatMap MusicMove.started

/-- The moves since the latest change of the music, or all if there was none. -/
def sinceMusicChange (moves : List MusicMove) : List MusicMove :=
  moves.rtakeWhile fun move => !move.asksTimer

@[simp] theorem songsIn_append_singleton (moves : List MusicMove) (move : MusicMove) :
    songsIn (moves ++ [move]) = songsIn moves ++ move.started := by
  simp [songsIn]

theorem sinceMusicChange_suffix (moves : List MusicMove) : sinceMusicChange moves <:+ moves :=
  List.rtakeWhile_suffix _ _

theorem songsSince_append_singleton (moves : List MusicMove) (move : MusicMove) :
    songsIn (sinceMusicChange (moves ++ [move])) =
      if move.asksTimer then [] else songsIn (sinceMusicChange moves) ++ move.started := by
  rw [sinceMusicChange, List.rtakeWhile_concat]
  by_cases changed : move.asksTimer <;> simp [changed, sinceMusicChange, songsIn]

theorem songsSince_subset (moves : List MusicMove) :
    songsIn (sinceMusicChange moves) ⊆ songsIn moves := by
  intro number member
  obtain ⟨move, among, started⟩ := List.mem_flatMap.mp member
  exact List.mem_flatMap.mpr ⟨move, (sinceMusicChange_suffix moves).subset among, started⟩

namespace MusicMove

def published (move : MusicMove) : List MusicState := move.output.filterMap MusicEffect.published?

/-- The song whose end a move takes in, and its result. -/
def ended? (move : MusicMove) : Option (Nat × SongResult) :=
  match move.action with
  | some .finish => move.before.result?
  | _ => none

/-- What observers are to see of a move that comes after others. -/
inductive ShowsAfter (past : List MusicMove) (move : MusicMove) : List MusicState → Prop
  | current {number result state} : move.ended? = some (number, result) →
      number ∈ songsIn (sinceMusicChange past) → result.ShownAs state → ShowsAfter past move [state]
  | overtaken {number result} : move.ended? = some (number, result) →
      number ∉ songsIn (sinceMusicChange past) → ShowsAfter past move []
  | going : move.ended? = none → ShowsAfter past move []

theorem ended?_of_aside {action : MusicAction} (aside : action.isOfLoop = false)
    (before : MusicSystem) (effects : List MusicEffect) (after : MusicSystem) :
    ended? ⟨before, some action, effects, after⟩ = none := by
  cases action <;> first | rfl | simp [MusicAction.isOfLoop] at aside

end MusicMove

namespace MusicBuilder

/-- What starting the build that is wanted comes to. -/
inductive Launches (builder : MusicBuilder) : List MusicEffect → MusicBuilder → Prop
  | held : (builder.wantsBuild = true → builder.running ≠ none) → Launches builder [] builder
  | started : builder.wantsBuild = true → builder.running = none →
      Launches builder [debug "starting build", .start builder.builds]
        { builder with
          wantsBuild := false
          running := some ⟨builder.builds, false⟩
          builds := builder.builds + 1 }

theorem launches (builder : MusicBuilder) : builder.Launches builder.launch.2 builder.launch.1 := by
  unfold launch
  split
  · rename_i wanted
    simp only [Bool.and_eq_true, Option.isNone_iff_eq_none] at wanted
    exact .started wanted.1 wanted.2
  · rename_i busy
    refine .held fun wanted free => busy ?_
    simp [wanted, free]

theorem launch_of_settled {builder : MusicBuilder}
    (settled : builder.wantsBuild = true → builder.running ≠ none) :
    builder.launch = (builder, []) := by
  unfold launch
  rw [if_neg]
  simp only [Bool.and_eq_true, Option.isNone_iff_eq_none, not_and]
  exact settled

theorem launch_settled (builder : MusicBuilder) :
    builder.launch.1.wantsBuild = true → builder.launch.1.running ≠ none := by
  generalize builder.launch.2 = effects, builder.launch.1 = next, builder.launches = launched
  cases launched with
  | held settled => exact settled
  | started => simp

theorem launch_published (builder : MusicBuilder) :
    builder.launch.2.filterMap MusicEffect.published? = [] := by
  generalize builder.launch.2 = effects, builder.launch.1 = next, builder.launches = launched
  cases launched <;> rfl

theorem thenLaunch_songs {decided : MusicBuilder × List MusicEffect}
    (none : decided.2.filterMap MusicEffect.started? = []) :
    List.range decided.1.builds ++ (thenLaunch decided).2.filterMap MusicEffect.started? =
      List.range (thenLaunch decided).1.builds := by
  rw [thenLaunch_started none]
  change _ = List.range decided.1.launch.1.builds
  generalize decided.1.launch.2 = more, decided.1.launch.1 = next, decided.1.launches = launched
  cases launched with
  | held => exact List.append_nil _
  | started => exact List.range_succ.symm

theorem thenLaunch_published (decided : MusicBuilder × List MusicEffect) :
    (thenLaunch decided).2.filterMap MusicEffect.published? =
      decided.2.filterMap MusicEffect.published? := by
  simp [thenLaunch, launch_published]

theorem onChange_published (builder : MusicBuilder) (now : Time) (change : Change) :
    (builder.onChange now change).2.filterMap MusicEffect.published? = [] := by
  cases change with
  | config | source => rfl
  | music =>
      simp only [onChange, cancelRunning]
      cases builder.running <;> rfl

theorem onFinished_published (builder : MusicBuilder) (result : SongResult) :
    (builder.onFinished result).2.filterMap MusicEffect.published? =
      if builder.running.any RunningSong.isCancelled then [] else [stateOf result] := by
  have logged : ((logOf result).map MusicEffect.log).filterMap MusicEffect.published? = [] := by
    simp [List.filterMap_map, Function.comp_def, MusicEffect.published?]
  simp only [onFinished]
  split
  · rfl
  · rw [deliver, List.filterMap_append, logged]
    rfl

theorem stop_published (builder : MusicBuilder) :
    builder.stop.2.filterMap MusicEffect.published? = [] := by
  simp only [stop, cancelRunning]
  cases builder.running <;> rfl

end MusicBuilder

namespace MusicSystem

theorem begin_builder (origin : MusicSystem) :
    (process.begin origin).1.builder = origin.builder.launch.1 :=
  (origin.goOn_fst (origin.builder, [])).1

theorem result?_eq {system : MusicSystem} {running : RunningSong} {result : SongResult}
    (waiting : system.builder.running = some running)
    (ended : (system.task? running.number).map SongTask.stage = some (.finished result)) :
    system.result? = some (running.number, result) := by
  obtain ⟨task, found, finished⟩ := Option.map_eq_some_iff.mp ended
  have same : task.number = running.number := by simpa using List.find?_some found
  have read : system.builder.running.bind (fun running => system.task? running.number) =
      some task := by
    rw [waiting]
    exact found
  obtain ⟨number, cancelled, stage⟩ := task
  obtain rfl : stage = .finished result := finished
  obtain rfl : number = running.number := same
  simp only [result?, read]

theorem ended?_of_finished {system : MusicSystem} {running : RunningSong} {result : SongResult}
    (waiting : system.builder.running = some running)
    (ended : (system.task? running.number).map SongTask.stage = some (.finished result))
    (effects : List MusicEffect) (after : MusicSystem) :
    MusicMove.ended? ⟨system, some .finish, effects, after⟩ = some (running.number, result) :=
  result?_eq waiting ended

theorem finished_of_foldl_perform {effects : List MusicEffect} {system : MusicSystem}
    {task : SongTask} {result : SongResult} (member : task ∈ (effects.foldl perform system).tasks)
    (finished : task.stage = .finished result) :
    ∃ earlier ∈ system.tasks, earlier.number = task.number ∧ earlier.stage = .finished result := by
  induction effects generalizing system with
  | nil => exact ⟨task, member, rfl, finished⟩
  | cons effect rest ih =>
      obtain ⟨between, among, same, ended⟩ := ih member
      cases effect with
      | log | publish => exact ⟨between, among, same, ended⟩
      | start number =>
          rcases List.mem_append.mp among with old | new
          · exact ⟨between, old, same, ended⟩
          · rw [List.mem_singleton.mp new] at ended
            simp at ended
      | cancel number =>
          obtain ⟨earlier, old, rfl⟩ := List.mem_map.mp among
          refine ⟨earlier, old, ?_, ?_⟩
          · rw [← same]
            split <;> rfl
          · rw [← ended]
            split <;> rfl

theorem finished_of_setStage {system : MusicSystem} {number : Nat} {stage : SongStage}
    {task : SongTask} {result : SongResult} (member : task ∈ (system.setStage number stage).tasks)
    (finished : task.stage = .finished result) :
    task.number = number ∧ stage = .finished result ∨ task ∈ system.tasks := by
  obtain ⟨earlier, old, same⟩ := List.mem_map.mp member
  by_cases own : earlier.number = number
  · rw [if_pos own] at same
    subst task
    exact .inl ⟨own, finished⟩
  · rw [if_neg own] at same
    exact .inr (same ▸ old)

theorem finished_of_step? {system : MusicSystem} {action : MusicAction}
    {next : MusicSystem × List MusicEffect} {task : SongTask} {result : SongResult}
    (possible : system.step? action = some next) (member : task ∈ next.1.tasks)
    (finished : task.stage = .finished result) :
    action = .answer task.number result ∨
      ∃ earlier ∈ system.tasks, earlier.number = task.number ∧ earlier.stage = .finished result := by
  cases action with
  | pass time =>
      obtain rfl := Option.some.inj possible
      exact .inr ⟨task, member, rfl, finished⟩
  | begin number =>
      obtain ⟨actor, -, possible⟩ := Option.bind_eq_some_iff.mp possible
      simp only [taskStep?] at possible
      split at possible <;> simp only [Option.some.injEq, reduceCtorEq] at possible
      subst next
      rcases finished_of_setStage member finished with ⟨-, compiles⟩ | old
      · simp at compiles
      · exact .inr ⟨task, old, rfl, finished⟩
  | answer number answer =>
      obtain ⟨actor, acts, possible⟩ := Option.bind_eq_some_iff.mp possible
      simp only [taskStep?] at possible
      split at possible <;> simp only [Option.some.injEq, reduceCtorEq] at possible
      subst next
      rcases finished_of_setStage member finished with ⟨own, answered⟩ | old
      · have same : actor.number = number := by simpa using List.find?_some acts
        obtain rfl := SongStage.finished.inj answered
        exact .inl (by rw [own, same])
      · exact .inr ⟨task, old, rfl, finished⟩
  | leave =>
      simp only [step?, leave?, Option.ite_none_right_eq_some] at possible
      obtain rfl := Option.some.inj possible.2
      simp at member
  | change _ | stop =>
      simp only [step?, loopStep?, Option.ite_none_right_eq_some, Option.some.injEq] at possible
      obtain ⟨-, rfl⟩ := possible
      obtain ⟨earlier, old, same⟩ := finished_of_foldl_perform member finished
      exact .inr ⟨earlier, old, same⟩
  | wake =>
      simp only [step?, loopStep?, Option.ite_none_right_eq_some, Option.some.injEq] at possible
      obtain ⟨-, -, rfl⟩ := possible
      obtain ⟨earlier, old, same⟩ := finished_of_foldl_perform member finished
      exact .inr ⟨earlier, old, same⟩
  | finish =>
      simp only [step?, loopStep?, Option.ite_none_right_eq_some] at possible
      obtain ⟨-, possible⟩ := possible
      split at possible
      · obtain rfl := Option.some.inj possible
        obtain ⟨earlier, kept, same⟩ := finished_of_foldl_perform member finished
        exact .inr ⟨earlier, (List.mem_filter.mp kept).1, same⟩
      · simp at possible

theorem length_tasks_foldl_perform {effects : List MusicEffect} (system : MusicSystem)
    (none : effects.filterMap MusicEffect.started? = []) :
    (effects.foldl perform system).tasks.length = system.tasks.length := by
  induction effects generalizing system with
  | nil => rfl
  | cons effect rest ih =>
      cases effect with
      | start => simp [MusicEffect.started?] at none
      | log | publish => exact ih system none
      | cancel number =>
          rw [List.foldl_cons, ih _ none]
          simp [perform, mapTask]

/-- There is never more than one task, and none that the loop does not wait for while it runs. -/
structure OneSong (system : MusicSystem) : Prop where
  single : system.tasks.length ≤ 1
  owned : system.stage = .running → system.builder.running = none → system.tasks = []

namespace OneSong

variable {system : MusicSystem}

theorem frame {next : MusicSystem} (one : OneSong system)
    (tasks : next.tasks.length = system.tasks.length)
    (stage : next.stage = .running → system.stage = .running)
    (running : next.builder.running = none → system.builder.running = none) : OneSong next := by
  refine ⟨tasks ▸ one.single, fun loops free => ?_⟩
  have none := one.owned (stage loops) (running free)
  rw [← List.length_eq_zero_iff, tasks, none, List.length_nil]

theorem goOn {builder : MusicBuilder} {effects : List MusicEffect}
    (single : system.tasks.length ≤ 1)
    (free : builder.running = none → system.tasks = [])
    (none : effects.filterMap MusicEffect.started? = []) :
    OneSong (system.goOn builder effects).1 := by
  have kept (next : MusicBuilder) :=
    length_tasks_foldl_perform { system with builder := next } none
  simp only [MusicSystem.goOn, List.foldl_append]
  generalize builder.launch.2 = more, builder.launch.1 = next, builder.launches = launched
  cases launched with
  | held =>
      refine ⟨(kept builder).trans_le single, fun _ gone => ?_⟩
      rw [List.foldl_nil, (foldl_perform ..).1] at gone
      rw [← List.length_eq_zero_iff]
      exact (kept builder).trans (by simp [free gone])
  | started wanted idle =>
      refine ⟨?_, fun _ gone => ?_⟩
      · simp only [MusicBuilder.debug, List.foldl_cons, List.foldl_nil, perform,
          List.length_append]
        rw [kept]
        simp [free idle]
      · simp [MusicBuilder.debug, perform, (foldl_perform ..).1] at gone

theorem drop {number : Nat} {task : SongTask} (one : OneSong system)
    (found : system.task? number = some task) : (system.dropTask number).tasks = [] := by
  have member := List.mem_of_find?_eq_some found
  have same : task.number = number := by simpa using List.find?_some found
  have single := one.single
  match tasks : system.tasks with
  | [] => simp [tasks] at member
  | [only] =>
      obtain rfl : task = only := by simpa [tasks] using member
      simp [dropTask, tasks, same]
  | _ :: _ :: _ => simp [tasks] at single

theorem loopStep {action : MusicAction} {next : MusicSystem × List MusicEffect}
    (one : OneSong system) (running : system.stage = .running)
    (possible : system.loopStep? action = some next) : OneSong next.1 := by
  cases action with
  | change change =>
      obtain rfl := Option.some.inj possible
      refine goOn one.single (fun gone => one.owned running ?_)
        (MusicBuilder.onChange_started ..)
      cases change with
      | config | source => exact gone
      | music => exact Option.map_eq_none_iff.mp gone
  | wake =>
      simp only [loopStep?, Option.ite_none_right_eq_some] at possible
      obtain rfl := Option.some.inj possible.2
      exact goOn one.single (fun gone => one.owned running gone) rfl
  | finish =>
      simp only [loopStep?] at possible
      split at possible
      · rename_i number cancelled result ended
        obtain rfl := Option.some.inj possible
        obtain ⟨song, -, found⟩ := Option.bind_eq_some_iff.mp ended
        obtain rfl : number = song.number := by simpa using List.find?_some found
        have gone := one.drop found
        exact goOn (by simp [gone]) (fun _ => gone) (MusicBuilder.onFinished_started ..)
      · simp at possible
  | stop =>
      obtain rfl := Option.some.inj possible
      refine ⟨?_, fun loops => ?_⟩
      · refine (length_tasks_foldl_perform _ (MusicBuilder.stop_started _)).trans_le one.single
      · simp [(foldl_perform ..).2.1] at loops
  | _ => simp [loopStep?] at possible

theorem taskStep {action : MusicAction} {next : MusicSystem × List MusicEffect} {number : Nat}
    (one : OneSong system)
    (possible : (system.task? number).bind (system.taskStep? · action) = some next) :
    OneSong next.1 := by
  obtain ⟨task, -, possible⟩ := Option.bind_eq_some_iff.mp possible
  have moved : ∃ stage, next.1 = system.setStage task.number stage := by
    unfold taskStep? at possible
    split at possible
    · split at possible
      · exact ⟨_, congrArg Prod.fst (Option.some.inj possible).symm⟩
      all_goals simp at possible
    · split at possible
      · exact ⟨_, congrArg Prod.fst (Option.some.inj possible).symm⟩
      all_goals simp at possible
    · simp at possible
  obtain ⟨stage, same⟩ := moved
  rw [same]
  exact one.frame (by simp [setStage, mapTask]) id id

theorem step {action : MusicAction} {next : MusicSystem × List MusicEffect}
    (one : OneSong system) (possible : system.step? action = some next) : OneSong next.1 := by
  cases action with
  | pass time =>
      obtain rfl := Option.some.inj possible
      exact one.frame rfl id id
  | begin number | answer number result => exact one.taskStep possible
  | leave =>
      simp only [step?, leave?, Option.ite_none_right_eq_some] at possible
      obtain rfl := Option.some.inj possible.2
      exact ⟨Nat.zero_le 1, fun _ _ => rfl⟩
  | change _ | wake | finish | stop =>
      simp only [step?, Option.ite_none_right_eq_some] at possible
      exact one.loopStep possible.1 possible.2

end OneSong

end MusicSystem

namespace MusicRun

variable {musicDir : Path} {debounce : Time} {moves : List MusicMove} {system : MusicSystem}

theorem oneSong (run : MusicSystem.process.Run (.create musicDir debounce) moves system) :
    system.OneSong := by
  induction run with
  | begin => exact .goOn (Nat.zero_le 1) (fun _ => rfl) rfl
  | step run possible ih => exact ih.step possible

theorem settled (run : MusicSystem.process.Run (.create musicDir debounce) moves system)
    (running : system.stage = .running) :
    system.builder.wantsBuild = true → system.builder.running ≠ none := by
  induction run with
  | begin =>
      rw [MusicSystem.begin_builder]
      exact MusicBuilder.launch_settled _
  | step run possible ih =>
      obtain ⟨stage, decided, reaction, after, same, -⟩ :=
        MusicSystem.reaction_of_step? possible
      rw [same]
      cases reaction with
      | quiet => exact ih (after.symm.trans running)
      | changed | woken | finished => exact MusicBuilder.launch_settled _
      | stopped | left => simp [after] at running

theorem answered (run : MusicSystem.process.Run (.create musicDir debounce) moves system)
    {task : SongTask} {result : SongResult} (member : task ∈ system.tasks)
    (finished : task.stage = .finished result) :
    ∃ move ∈ moves, move.action = some (.answer task.number result) := by
  induction run generalizing task with
  | begin =>
      obtain ⟨earlier, old, -⟩ := MusicSystem.finished_of_foldl_perform member finished
      simp [MusicSystem.create] at old
  | step run possible ih =>
      rcases MusicSystem.finished_of_step? possible member finished with
        acted | ⟨earlier, old, same, ended⟩
      · exact ⟨_, List.mem_append_right _ List.mem_cons_self, congrArg some acted⟩
      · obtain ⟨move, among, acted⟩ := ih old ended
        exact ⟨move, List.mem_append_left _ among, same ▸ acted⟩

theorem songsIn_eq (run : MusicSystem.process.Run (.create musicDir debounce) moves system) :
    songsIn moves = List.range system.builder.builds := by
  induction run with
  | begin => rfl
  | @step moves before action next run possible ih =>
      obtain ⟨stage, decided, reaction, -, same, effects, -⟩ :=
        MusicSystem.reaction_of_step? possible
      rw [songsIn_append_singleton, ih, MusicMove.started, effects, same]
      cases reaction with
      | quiet | left => exact List.append_nil _
      | @changed change =>
          have songs := MusicBuilder.thenLaunch_songs
            (before.builder.onChange_started before.now change)
          cases change <;> exact songs
      | woken => exact @MusicBuilder.thenLaunch_songs (before.builder.onWake before.now, []) rfl
      | @finished running result =>
          exact MusicBuilder.thenLaunch_songs (before.builder.onFinished_started result)
      | stopped =>
          rw [MusicBuilder.stop_started, List.append_nil]
          rfl

end MusicRun

end BuildWatch
