import BuildWatch.Proofs.Coordinator.Run
import BuildWatch.Proofs.Scheduler.Loaded

/-!
From the file system to a build. A notice about a source waits for the watcher, then the change
waits for the loop, then the loop owes a build. The watcher knows the source directory that the
loop has; it learns the one that a build has read only when the loop has taken in the end of that
build, so what happens there while the build still compiles is passed over.
-/

namespace BuildWatch

/-- Where a notice about a path still is: it waits for the watcher, or the path does, or a change
that the watcher has found waits to be passed on, or a change waits for the loop. -/
inductive Dispatch.Carries (dispatch : Dispatch) (notice : Notice) (path : Path) : Prop
  | noticed : notice ∈ dispatch.notices → Dispatch.Carries dispatch notice path
  | looking : path ∈ dispatch.paths → Dispatch.Carries dispatch notice path
  | found {change} : change ∈ dispatch.found → change.receiver = .code →
      Dispatch.Carries dispatch notice path
  | waiting : dispatch.waiting .code ≠ [] → Dispatch.Carries dispatch notice path

/-- Nothing is on its way from the file system to the loop that builds the code. -/
structure Dispatch.IsClear (dispatch : Dispatch) : Prop where
  notices : dispatch.notices = []
  paths : dispatch.paths = []
  found : dispatch.found = []
  waiting : dispatch.waiting .code = []

namespace Dispatch.Carries

variable {dispatch next : Dispatch} {notice : Notice} {path : Path} {sourceDir : Option Path}
  {isOpen : Receiver → Bool} {action : DispatchAction} {log : List LogEntry}

theorem not_clear (carries : dispatch.Carries notice path) : ¬dispatch.IsClear := by
  intro clear
  cases carries with
  | noticed member => simp [clear.notices] at member
  | looking member => simp [clear.paths] at member
  | found member => simp [clear.found] at member
  | waiting queued => exact queued clear.waiting

theorem mono (carries : dispatch.Carries notice path) (notices : dispatch.notices ⊆ next.notices)
    (paths : dispatch.paths ⊆ next.paths) (found : dispatch.found ⊆ next.found)
    (queue : next.waiting .code = dispatch.waiting .code) : next.Carries notice path := by
  cases carries with
  | noticed member => exact .noticed (notices member)
  | looking member => exact .looking (paths member)
  | found member code => exact .found (found member) code
  | waiting queued => exact .waiting (queue ▸ queued)

theorem taken (carries : dispatch.Carries notice path) (idle : dispatch.isIdle = true)
    (changed : notice.kind.isChange = true) (among : path ∈ notice.paths) (count : Nat) :
    (dispatch.taken count).Carries notice path := by
  obtain ⟨-, none, nothing⟩ := Dispatch.working_of_isIdle idle
  cases carries with
  | noticed member =>
      rw [← List.take_append_drop count dispatch.notices] at member
      rcases List.mem_append.mp member with batch | left
      · refine .looking (List.mem_flatMap.mpr ⟨notice, ?_, among⟩)
        exact List.mem_filter.mpr ⟨batch, changed⟩
      · exact .noticed left
  | looking member => simp [none] at member
  | found member => simp [nothing] at member
  | waiting queued => exact .waiting queued

theorem classified (carries : dispatch.Carries notice path) {first : Path} {rest : List Path}
    (looking : dispatch.paths = first :: rest)
    (affects : ∃ change, (dispatch.knowing sourceDir).classify path = some change ∧
      change.receiver = .code) :
    ({ dispatch with
      paths := rest
      found := dispatch.found ++
        ((dispatch.knowing sourceDir).classify first).toList } : Dispatch).Carries notice path := by
  cases carries with
  | noticed member => exact .noticed member
  | looking member =>
      rw [looking] at member
      rcases List.mem_cons.mp member with rfl | left
      · obtain ⟨change, classified, code⟩ := affects
        exact .found (List.mem_append_right _ (by simp [classified])) code
      · exact .looking left
  | found member code => exact .found (List.mem_append_left _ member) code
  | waiting queued => exact .waiting queued

theorem sent (carries : dispatch.Carries notice path) (change : Change) :
    (dispatch.sent change).Carries notice path := by
  cases carries with
  | noticed member => exact .noticed member
  | looking member => exact .looking member
  | @found other member code =>
      by_cases same : other = change
      · refine .waiting ?_
        simp [Dispatch.sent_waiting, Change.isFor, ← same, code]
      · exact .found (List.mem_filter.mpr ⟨member, by simpa using same⟩) code
  | waiting queued =>
      refine .waiting ?_
      rw [Dispatch.sent_waiting]
      simp [queued]

/-- The watcher loses nothing about a path that affects the code by what it knows. -/
theorem step (carries : dispatch.Carries notice path) (changed : notice.kind.isChange = true)
    (among : path ∈ notice.paths)
    (affects : ∃ change, (dispatch.knowing sourceDir).classify path = some change ∧
      change.receiver = .code)
    (happens : dispatch.Happens sourceDir isOpen action (next, log)) :
    next.Carries notice path := by
  cases happens with
  | noticed => exact carries.mono (List.subset_append_left _ _) (.refl _) (.refl _) rfl
  | cutOff | told | announced | failed | finished =>
      exact carries.mono (.refl _) (.refl _) (.refl _) rfl
  | taken idle => exact carries.taken idle changed among _
  | classified _ looking => exact carries.classified looking affects
  | sent => exact carries.sent _

theorem admit?_music (carries : dispatch.Carries notice path) {input : LoopInput}
    (admitted : dispatch.admit? .music input = some next) : next.Carries notice path := by
  rcases Dispatch.admitted_of_admit? admitted with ⟨rfl, -⟩ | ⟨change, rest, -, -, rfl⟩
  · exact carries
  · exact carries.mono (.refl _) (.refl _) (.refl _) rfl

end Dispatch.Carries

/-- A notice is not forgotten: a build was started or is owed, or the notice or a change is still on
its way to a loop that has the project. -/
def Reaches (notice : Notice) (path : Path) (project : Project) (started : List Build)
    (system : Pipelines) : Prop :=
  Owes started system.code.scheduler ∨
    HasLoaded project system.code.scheduler ∧ system.dispatch.Carries notice path

/-- Where the watcher sees the sources of a project. -/
def Settings.watchedSources (settings : Settings) (tree : FileTree) (project : Project) : Path :=
  (settings.watchedDir tree).join (Path.ofText project.config.sourceDir)

namespace PipelineRun

variable {settings : Settings} {tree : FileTree} {moves earlier later : List PipelineMove}
  {system : Pipelines} {action : PipelineAction} {next : Pipelines × ServerOutput}
  {notice : Notice} {path : Path} {project : Project} {started : List Build}

theorem classify_source (run : Pipelines.process.Run (settings.pipelines tree) moves system)
    (has : HasLoaded project system.code.scheduler) {name : String}
    (inside : path.components = (settings.watchedSources tree project).components ++
      [.name (Utf8.bytes name)])
    (source : SafeName.isSource name = true)
    (other : (settings.watchedSources tree project).components ≠
      ((settings.watchedDir tree).join settings.musicDir).components) :
    ∃ change, (system.dispatch.knowing system.code.scheduler.sourceDir).classify path =
      some change ∧ change.receiver = .code := by
  have known : system.dispatch.knowing system.code.scheduler.sourceDir =
      .of (settings.watchedDir tree) settings.project settings.musicDir
        (some (Path.ofText project.config.sourceDir)) := by
    have shares := (PipelineRun.code run).sharesSourceDir
    rw [Scheduler.SharesSourceDir, has.loaded] at shares
    rw [Dispatch.knowing, PipelineRun.classifier run, shares]
    rfl
  have holds : Classifier.holdsSources (.of (settings.watchedDir tree) settings.project
      settings.musicDir (some (Path.ofText project.config.sourceDir)))
      (settings.watchedSources tree project).components = true := decide_eq_true rfl
  rw [known]
  rcases Classifier.classify_source inside source holds other with config | script
  · exact ⟨.config, config, rfl⟩
  · exact ⟨.source, script, rfl⟩

theorem reaches_step (run : Pipelines.process.Run (settings.pipelines tree) moves system)
    (loads : Loads (codeTurns moves)) (possible : system.step? action = some next)
    (running : next.1.code.stage = .running) (changed : notice.kind.isChange = true)
    (among : path ∈ notice.paths)
    (affects : HasLoaded project system.code.scheduler →
      ∃ change, (system.dispatch.knowing system.code.scheduler.sourceDir).classify path =
        some change ∧ change.receiver = .code)
    (reaches : Reaches notice path project started system) :
    Reaches notice path project
      (started ++ startedIn (codeTurns [⟨system, some action, next.2, next.1⟩])) next.1 := by
  rw [codeTurns_singleton]
  cases Pipelines.onCode_of_step? possible with
  | @acted _ buildAction _ _ moved turn aside =>
      have code := PipelineRun.code run
      rw [turn]
      change Reaches notice path project (started ++ startedIn [_]) next.1
      rw [startedIn_singleton]
      rcases reaches with owed | ⟨has, carries⟩
      · exact .inl (code.owes_step loads owed moved)
      · by_cases change : ∃ change, buildAction = .change change
        · obtain ⟨change, rfl⟩ := change
          exact .inl (code.owes_of_change moved (.inr has.canBuild))
        · push Not at change
          rcases code.hasLoaded_step has moved change running with built | still
          · exact .inl (.inl (by simp [built]))
          · exact .inr ⟨still, aside change ▸ carries⟩
  | watched happens same =>
      change Reaches notice path project (started ++ []) _
      rw [List.append_nil, Reaches, same]
      exact reaches.imp_right fun ⟨has, carries⟩ =>
        ⟨has, carries.step changed among (affects has) happens⟩
  | sang admitted same =>
      change Reaches notice path project (started ++ []) _
      rw [List.append_nil, Reaches, same]
      exact reaches.imp_right fun ⟨has, carries⟩ => ⟨has, carries.admit?_music admitted⟩

theorem reaches {notification : PipelineMove} {build : Build}
    (run : Pipelines.process.Run (settings.pipelines tree)
      (earlier ++ notification :: later) system)
    (notified : notification.action = some (.dispatch (.notify notice)))
    (loads : Loads (codeTurns (earlier ++ notification :: later)))
    (unharmed : ∀ turn ∈ codeTurns (earlier ++ notification :: later), turn.killed? = none)
    (read : WasRead (codeTurns earlier) build (some project))
    (ended : build ∈ endedIn (codeTurns earlier))
    (fresh : build ∈ startedIn (sinceConfigChange (codeTurns earlier)))
    (changed : notice.kind.isChange = true) (among : path ∈ notice.paths) {name : String}
    (inside : path.components = (settings.watchedSources tree project).components ++
      [.name (Utf8.bytes name)])
    (source : SafeName.isSource name = true)
    (other : (settings.watchedSources tree project).components ≠
      ((settings.watchedDir tree).join settings.musicDir).components)
    (running : system.code.stage = .running) :
    Reaches notice path project (startedIn (codeTurns later)) system := by
  -- The loop ran before every later move, since it still runs after the last one.
  refine run.since (fun between reached =>
    Loads (codeTurns (earlier ++ notification :: between)) → reached.code.stage = .running →
      Reaches notice path project (startedIn (codeTurns between)) reached) notified ?_ ?_ loads
    running
  · intro reached next past possible same loads running
    have code := PipelineRun.code past
    rw [List.append_cons, codeTurns_append, codeTurns_append] at loads unharmed
    obtain ⟨dispatch, log, moved, rfl⟩ := Pipelines.step?_dispatch_iff.mp possible
    cases Dispatch.happens_of_step? moved with
    | noticed =>
        refine .inr ⟨code.hasLoaded_of_ended loads.of_append.of_append ?_ running fresh read ended,
          .noticed (List.mem_append_right _ (List.mem_singleton.mpr rfl))⟩
        exact fun turn member =>
          unharmed turn (List.mem_append_left _ (List.mem_append_left _ member))
  · intro between reached action next past reaches possible loads running
    rw [← List.cons_append, ← List.append_assoc, codeTurns_append] at loads
    rw [codeTurns_append, startedIn_append]
    have before := Pipelines.running_of_step? possible running
    exact reaches_step past loads.of_append possible running changed among
      (fun has => classify_source past has inside source other) (reaches loads.of_append before)

/-- A notice about a source is followed by a build once the loop has taken in the end of a build
that has read the project file, as long as no change of that file has overtaken the build: a build
was started, or it is owed, or the notice or what came of it is still on its way. If all is at rest,
a build was started. -/
theorem source_notice_answered {notification : PipelineMove} {build : Build}
    (run : Pipelines.process.Run (settings.pipelines tree)
      (earlier ++ notification :: later) system)
    (notified : notification.action = some (.dispatch (.notify notice)))
    (loads : Loads (codeTurns (earlier ++ notification :: later)))
    (unharmed : ∀ turn ∈ codeTurns (earlier ++ notification :: later), turn.killed? = none)
    (read : WasRead (codeTurns earlier) build (some project))
    (ended : build ∈ endedIn (codeTurns earlier))
    (fresh : build ∈ startedIn (sinceConfigChange (codeTurns earlier)))
    (touches : notice.TouchesSource (settings.watchedSources tree project))
    (other : (settings.watchedSources tree project).components ≠
      ((settings.watchedDir tree).join settings.musicDir).components)
    (running : system.code.stage = .running) :
    (Owes (startedIn (codeTurns later)) system.code.scheduler ∨
        ∃ path ∈ notice.paths, system.dispatch.Carries notice path) ∧
      (system.dispatch.IsClear → system.code.scheduler.phase = .idle →
        startedIn (codeTurns later) ≠ []) := by
  obtain ⟨changed, path, among, name, inside, source⟩ := touches
  rcases reaches run notified loads unharmed read ended fresh changed among inside source other
    running with owed | ⟨-, carries⟩
  · exact ⟨.inl owed, fun _ rest => owed.built rest⟩
  · exact ⟨.inr ⟨path, among, carries⟩, fun clear => absurd clear carries.not_clear⟩

end PipelineRun

def Settings.sample : Settings where
  baseDir := Path.ofText "/"
  project := Path.ofText "p"
  compiler := []
  musicDir := Path.ofText "m"
  musicCommand := []
  debounce := 100
  subscriberCapacity := 4
  mode := .compo

def sourcesTree (name : UInt8) : FileTree :=
  -- {"srcDir":"…"}
  ⟨[([[112]], .file ⟨#[123, 34, 115, 114, 99, 68, 105, 114, 34, 58, 34, name, 34, 125]⟩),
    ([[name]], .directory)]⟩

def sampleNotice : Notice := ⟨.created, [Path.ofText "/s/a.js"]⟩

theorem sampleNotice_touches {tree : FileTree} {project : Project}
    (base : Settings.sample.watchedDir tree = Path.ofText "/")
    (named : Path.ofText project.config.sourceDir = ⟨[115]⟩) :
    sampleNotice.TouchesSource (Settings.sample.watchedSources tree project) ∧
      (Settings.sample.watchedSources tree project).components ≠
        ((Settings.sample.watchedDir tree).join Settings.sample.musicDir).components := by
  rw [Settings.watchedSources, base, named]
  exact ⟨⟨rfl, _, List.mem_singleton.mpr rfl, "a.js", by cbv, by cbv⟩, by decide⟩

def readings (turns : List Turn) : List (Build × Option Path) :=
  (turns.filterMap Turn.reading?).map fun (build, project) =>
    (build, project.map fun project => Path.ofText project.config.sourceDir)

namespace PipelineRun

theorem exists_notification_at {origin : Pipelines}
    {reached : List PipelineMove × Pipelines} {index : Nat}
    {build : Build} (run : Pipelines.process.Run origin reached.1 reached.2)
    (noticed : reached.1[index]?.map Move.action = some (some (.dispatch (.notify sampleNotice))))
    (good : (codeTurns reached.1).all (fun turn =>
      turn.reading?.all (fun reading => reading.2.isSome) && turn.killed?.isNone) = true)
    (read : (readings (codeTurns (reached.1.take index))).getLast? = some (build, some ⟨[115]⟩)) :
    ∃ notification project,
      Pipelines.process.Run origin
          (reached.1.take index ++ notification :: reached.1.drop (index + 1)) reached.2 ∧
        notification.action = some (.dispatch (.notify sampleNotice)) ∧
        Loads (codeTurns (reached.1.take index ++ notification :: reached.1.drop (index + 1))) ∧
        (∀ turn ∈ codeTurns (reached.1.take index ++ notification :: reached.1.drop (index + 1)),
          turn.killed? = none) ∧
        WasRead (codeTurns (reached.1.take index)) build (some project) ∧
        Path.ofText project.config.sourceDir = ⟨[115]⟩ := by
  obtain ⟨notification, atIndex, acted⟩ := Option.map_eq_some_iff.mp noticed
  obtain ⟨⟨reader, found⟩, last, same⟩ := List.mem_map.mp (List.mem_of_getLast? read)
  obtain ⟨rfl, named⟩ := Prod.mk.inj same
  obtain ⟨project, loaded, sourceDir⟩ := Option.map_eq_some_iff.mp named
  obtain rfl : found = some project := loaded
  obtain ⟨loads, unharmed⟩ := BuildRun.loads_of_all good
  refine ⟨notification, project, ?_⟩
  rw [take_cons_drop atIndex]
  exact ⟨run, acted, loads, unharmed, List.mem_filterMap.mp last, sourceDir⟩

def editedLate : List PipelineMove × Pipelines :=
  Pipelines.process.attempt (Settings.sample.pipelines (sourcesTree 115))
    [.code (.load 0), .code (.list 0), .code (.ask 0), .code (.answer 0 sampleUse), .code .finish,
      .dispatch (.notify sampleNotice), .dispatch (.take 1), .dispatch .classify,
      .dispatch .announce, .dispatch .send, .code (.change .source), .pass 100, .code .wake,
      .code (.load 1), .code (.list 1), .code (.ask 1), .code (.answer 1 sampleUse), .code .finish]

theorem editedLate_moves :
    editedLate.1[6]?.map Move.action = some (some (.dispatch (.notify sampleNotice))) ∧
      (codeTurns editedLate.1).all (fun turn =>
        turn.reading?.all (fun reading => reading.2.isSome) && turn.killed?.isNone) = true ∧
      (readings (codeTurns (editedLate.1.take 6))).getLast? =
        some (⟨0, 0, .reload⟩, some ⟨[115]⟩) ∧
      (endedIn (codeTurns (editedLate.1.take 6))).head? = some ⟨0, 0, .reload⟩ ∧
      (startedIn (sinceConfigChange (codeTurns (editedLate.1.take 6)))).head? =
        some ⟨0, 0, .reload⟩ ∧
      editedLate.2.code.stage = .running ∧ editedLate.2.code.scheduler.phase = .idle ∧
      editedLate.2.dispatch.notices = [] ∧ editedLate.2.dispatch.paths = [] ∧
      editedLate.2.dispatch.found = [] ∧ editedLate.2.dispatch.waiting .code = [] := by
  cbv

theorem source_notice_answered_late : ∃ notification project,
    let earlier := editedLate.1.take 6
    let later := editedLate.1.drop 7
    let system := editedLate.2
    (Pipelines.process.Run (Settings.sample.pipelines (sourcesTree 115))
        (earlier ++ notification :: later) system ∧
      notification.action = some (.dispatch (.notify sampleNotice)) ∧
      Loads (codeTurns (earlier ++ notification :: later)) ∧
      (∀ turn ∈ codeTurns (earlier ++ notification :: later), turn.killed? = none) ∧
      WasRead (codeTurns earlier) ⟨0, 0, .reload⟩ (some project) ∧
      ⟨0, 0, .reload⟩ ∈ endedIn (codeTurns earlier) ∧
      ⟨0, 0, .reload⟩ ∈ startedIn (sinceConfigChange (codeTurns earlier)) ∧
      sampleNotice.TouchesSource (Settings.sample.watchedSources (sourcesTree 115) project) ∧
      (Settings.sample.watchedSources (sourcesTree 115) project).components ≠
        ((Settings.sample.watchedDir (sourcesTree 115)).join Settings.sample.musicDir).components ∧
      system.code.stage = .running ∧ system.dispatch.IsClear ∧
      system.code.scheduler.phase = .idle) ∧ startedIn (codeTurns later) ≠ [] := by
  obtain ⟨noticed, good, reading, ends, starts, running, rest, notices, paths, found, waiting⟩ :=
    editedLate_moves
  have clear : editedLate.2.dispatch.IsClear := ⟨notices, paths, found, waiting⟩
  obtain ⟨notification, project, run, notified, loads, unharmed, read, sourceDir⟩ :=
    @exists_notification_at _ editedLate 6 _ (.attempt Pipelines.process _ _) noticed good reading
  have ended := List.mem_of_mem_head? ends
  have fresh := List.mem_of_mem_head? starts
  obtain ⟨touches, other⟩ := @sampleNotice_touches (sourcesTree 115) project (by cbv) sourceDir
  exact ⟨notification, project, ⟨run, notified, loads, unharmed, read, ended, fresh, touches, other,
      running, clear, rest⟩,
    (source_notice_answered run notified loads unharmed read ended fresh touches other running).2
      clear rest⟩

/-- The project file names another source directory. The new source appears there after the second
build has listed the directory and before that build has ended. -/
def editedEarly : List PipelineMove × Pipelines :=
  Pipelines.process.attempt (Settings.sample.pipelines (sourcesTree 116))
    [.code (.load 0), .code (.list 0), .code (.ask 0), .code (.answer 0 sampleUse), .code .finish,
      .code (.edit (sourcesTree 115)), .dispatch (.notify ⟨.modified, [Path.ofText "/p"]⟩),
      .dispatch (.take 1), .dispatch .classify, .dispatch .announce, .dispatch .send,
      .code (.change .config), .pass 100, .code .wake, .code (.load 1), .code (.list 1),
      .code (.ask 1), .dispatch (.notify sampleNotice), .dispatch (.take 1), .dispatch .classify,
      .code (.answer 1 sampleUse), .code .finish]

theorem editedEarly_moves :
    editedEarly.1[18]?.map Move.action = some (some (.dispatch (.notify sampleNotice))) ∧
      (codeTurns editedEarly.1).all (fun turn =>
        turn.reading?.all (fun reading => reading.2.isSome) && turn.killed?.isNone) = true ∧
      (readings (codeTurns (editedEarly.1.take 18))).getLast? =
        some (⟨1, 0, .reload⟩, some ⟨[115]⟩) ∧
      (codeTurns (editedEarly.1.take 18))[11]?.map Turn.action = some (some (.list 1)) ∧
      (startedIn (sinceConfigChange (codeTurns (editedEarly.1.take 18)))).head? =
        some ⟨1, 0, .reload⟩ ∧
      startedIn (codeTurns (editedEarly.1.drop 19)) = [] ∧
      editedEarly.2.code.stage = .running ∧ editedEarly.2.code.scheduler.phase = .idle ∧
      editedEarly.2.dispatch.notices = [] ∧ editedEarly.2.dispatch.paths = [] ∧
      editedEarly.2.dispatch.found = [] ∧ editedEarly.2.dispatch.waiting .code = [] := by
  cbv

theorem source_notice_answered_early :
    ¬∀ (settings : Settings) (tree : FileTree) (system : Pipelines)
      (earlier later : List PipelineMove) (notification : PipelineMove) (notice : Notice)
      (project : Project) (build : Build),
      Pipelines.process.Run (settings.pipelines tree)
        (earlier ++ notification :: later) system →
      notification.action = some (.dispatch (.notify notice)) →
      Loads (codeTurns (earlier ++ notification :: later)) →
      (∀ turn ∈ codeTurns (earlier ++ notification :: later), turn.killed? = none) →
      WasRead (codeTurns earlier) build (some project) →
      (∃ turn ∈ codeTurns earlier, turn.action = some (.list build.number)) →
      build ∈ startedIn (sinceConfigChange (codeTurns earlier)) →
      notice.TouchesSource (settings.watchedSources tree project) →
      (settings.watchedSources tree project).components ≠
        ((settings.watchedDir tree).join settings.musicDir).components →
      system.code.stage = .running → system.dispatch.IsClear →
      system.code.scheduler.phase = .idle → startedIn (codeTurns later) ≠ [] := by
  intro always
  obtain ⟨noticed, good, reading, lists, starts, nothing, running, rest, notices, paths, found,
    waiting⟩ := editedEarly_moves
  have clear : editedEarly.2.dispatch.IsClear := ⟨notices, paths, found, waiting⟩
  obtain ⟨notification, project, run, notified, loads, unharmed, read, sourceDir⟩ :=
    @exists_notification_at _ editedEarly 18 _ (.attempt Pipelines.process _ _) noticed good reading
  obtain ⟨turn, atIndex, lists⟩ := Option.map_eq_some_iff.mp lists
  have listed := List.mem_of_getElem? atIndex
  have fresh := List.mem_of_mem_head? starts
  obtain ⟨touches, other⟩ :=
    @sampleNotice_touches (sourcesTree 116) project (by cbv) sourceDir
  exact always _ _ _ _ _ notification _ project ⟨1, 0, .reload⟩ run notified loads unharmed read
    ⟨turn, listed, lists⟩ fresh touches other running clear rest nothing

end PipelineRun

end BuildWatch
