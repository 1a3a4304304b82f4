import BuildWatch.Proofs.Compiler.Outcome
import BuildWatch.Proofs.Scheduler.Publication
import BuildWatch.Proofs.Scheduler.Snapshot

/-!
What a published state says about its build. Code comes with the project that its request was made
from and with no error, a failed compilation with that project and an error, and a build without a
project or without sources says only that.
-/

namespace BuildWatch

theorem errorChain_prefix (message : String) (causes : List String) :
    message.toList <+: (errorChain message causes).toList := by
  induction causes using List.reverseRecOn with
  | nil => exact List.prefix_rfl
  | append_singleton causes cause ih =>
      rw [errorChain, List.foldl_append, List.foldl_cons, List.foldl_nil]
      split
      · exact ih
      · rw [String.toList_append, String.toList_append, List.append_assoc]
        exact ih.trans (List.prefix_append ..)

theorem ProjectError.chain_ne (error : ProjectError) : error.chain ≠ "build failed" := by
  intro same
  have begins := errorChain_prefix error.message (error.cause?.map FileError.message).toList
  rw [← chain, same] at begins
  cases error with
  | read path cause =>
      change ("could not read `" ++ path.display ++ "`").toList <+: _ at begins
      simp at begins
  | invalid path fault place =>
      change ("invalid config `" ++ path.display ++ "`: " ++ faultText fault place).toList <+: _
        at begins
      simp at begins
  | sources directory cause =>
      change ("could not list sources in `" ++ directory.display ++ "`").toList <+: _ at begins
      simp at begins

theorem CompileError.chain_ne {error : CompileError}
    (other : ∀ diagnostics, error ≠ .failed diagnostics) : error.chain ≠ "build failed" := by
  intro same
  have begins := errorChain_prefix error.message error.causes
  rw [← chain, same] at begins
  cases error with
  | failed diagnostics => exact other diagnostics rfl
  | cancelled | closed => simp [message] at begins
  | transport error => simp [message, String.join] at begins
  | start program fault => simp [message, String.join] at begins

theorem BuildOutcome.crashMessage_ne (message : String) :
    crashMessage message ≠ "build failed" := by
  intro same
  have letters := congrArg String.toList same
  simp [crashMessage] at letters

/-- What can end a build, besides a cancellation and the death of its task or preparation. -/
inductive TaskEvent where
  | unloaded (error : ProjectError)
  | unlisted (project : Project) (error : ProjectError)
  | answered (answer : Except CompileError Response)

namespace Turn

def met? (turn : Turn) : Option (Build × TaskEvent) :=
  match turn.action, turn.actor? with
  | some (.load _), some task =>
    match task.build.plan.load turn.before.tree turn.before.scheduler.source with
    | .error failure => some (task.build, .unloaded failure.error)
    | .ok _ => none
  | some (.list _), some task =>
    match task.stage with
    | .loaded project =>
      match BuildPlan.requestOf turn.before.tree turn.before.scheduler.source project with
      | .error failure => some (task.build, .unlisted project failure.error)
      | .ok _ => none
    | _ => none
  | some (.answer _ (.answered answer)), some task => some (task.build, .answered answer)
  | _, _ => none

def prepared? (turn : Turn) : Option (Build × Project × Request) :=
  match turn.action, turn.actor? with
  | some (.list _), some task =>
    match task.stage with
    | .loaded project =>
      match BuildPlan.requestOf turn.before.tree turn.before.scheduler.source project with
      | .ok request => some (task.build, project, request)
      | .error _ => none
    | _ => none
  | _, _ => none

end Turn

def Met (turns : List Turn) (build : Build) (event : TaskEvent) : Prop :=
  ∃ turn ∈ turns, turn.met? = some (build, event)

def WasPrepared (turns : List Turn) (build : Build) (project : Project)
    (request : Request) : Prop :=
  ∃ turn ∈ turns, turn.prepared? = some (build, project, request)

def WasAsked (turns : List Turn) (build : Build) (project : Project) (request : Request) : Prop :=
  ∃ turn ∈ turns, turn.asked? = some (build, project, request)

def AskedFor (turns : List Turn) (build : Build) (project : Project) : Prop :=
  ∃ request, WasAsked turns build project request ∧ WasPrepared turns build project request ∧
    ∀ other also, WasAsked turns build other also → other = project ∧ also = request

/-- What the state of a build is to say, after what happened to the build. -/
structure WellMade (past : List Turn) (build : Build) (state : BuildState) : Prop where
  success : ∀ artifact diagnostics project, state = .succeeded artifact diagnostics project →
    0 < artifact.code.size ∧ (∀ diagnostic ∈ diagnostics, diagnostic.isError = false) ∧
      (diagnostics.Pairwise fun left right => left.standsBy right = true) ∧
      AskedFor past build project
  failure : ∀ diagnostics project?,
    state = .failed (CompileError.failed diagnostics).message diagnostics project? →
    (∃ project, project? = some project ∧ AskedFor past build project) ∧
      ((∃ diagnostic ∈ diagnostics, diagnostic.isError = true) ∨
        Met past build (.answered (.error (.failed diagnostics))))
  unloaded : ∀ error, Met past build (.unloaded error) → state = .failed error.chain [] none
  unlisted : ∀ project error, Met past build (.unlisted project error) →
    state = .failed error.chain [] (some project)

/-- What a task works with and comes to is what happened to its build. -/
structure Traced (turns : List Turn) (task : BuildTask) : Prop where
  going : task.stage.isFinished = false → ∀ event, ¬Met turns task.build event
  unasked : task.stage.isCompiling = false → task.stage.isFinished = false →
    ∀ project request, ¬WasAsked turns task.build project request
  prepared : ∀ project request, task.stage = .prepared project request →
    WasPrepared turns task.build project request
  compiling : ∀ project, task.stage = .compiling project → AskedFor turns task.build project
  made : ∀ result, task.stage = .finished result →
    WellMade turns task.build (Scheduler.shownResult result)

section Later

variable {turns : List Turn} {turn : Turn} {build : Build} {event : TaskEvent}
  {project : Project} {request : Request}

theorem met_append_singleton :
    Met (turns ++ [turn]) build event ↔
      Met turns build event ∨ turn.met? = some (build, event) := by
  simp [Met, or_and_right, exists_or]

theorem wasAsked_append_singleton :
    WasAsked (turns ++ [turn]) build project request ↔
      WasAsked turns build project request ∨ turn.asked? = some (build, project, request) := by
  simp [WasAsked, or_and_right, exists_or]

theorem WasPrepared.mono {more : List Turn} (prepared : WasPrepared turns build project request)
    (fewer : turns ⊆ more) : WasPrepared more build project request := by
  obtain ⟨earlier, member, made⟩ := prepared
  exact ⟨earlier, fewer member, made⟩

theorem AskedFor.later (asked : AskedFor turns build project) (still : turn.asked? = none) :
    AskedFor (turns ++ [turn]) build project := by
  obtain ⟨request, once, prepared, only⟩ := asked
  refine ⟨request, wasAsked_append_singleton.mpr (.inl once),
    prepared.mono (List.subset_append_left ..), ?_⟩
  intro other also again
  rcases wasAsked_append_singleton.mp again with earlier | now
  · exact only other also earlier
  · simp [still] at now

theorem AskedFor.first (unasked : ∀ project request, ¬WasAsked turns build project request)
    (prepared : WasPrepared turns build project request)
    (now : turn.asked? = some (build, project, request)) :
    AskedFor (turns ++ [turn]) build project := by
  refine ⟨request, wasAsked_append_singleton.mpr (.inr now),
    prepared.mono (List.subset_append_left ..), ?_⟩
  intro other also again
  rcases wasAsked_append_singleton.mp again with earlier | same
  · exact absurd earlier (unasked other also)
  · obtain ⟨rfl, rfl⟩ : other = project ∧ also = request := by
      simpa [now, eq_comm] using same
    exact ⟨rfl, rfl⟩

theorem WellMade.later {state : BuildState} (made : WellMade turns build state)
    (still : turn.asked? = none) (silent : turn.met? = none) :
    WellMade (turns ++ [turn]) build state where
  success artifact diagnostics project same := by
    obtain ⟨filled, harmless, sorted, asked⟩ := made.success artifact diagnostics project same
    exact ⟨filled, harmless, sorted, asked.later still⟩
  failure diagnostics project? same := by
    obtain ⟨⟨project, kept, asked⟩, error⟩ := made.failure diagnostics project? same
    refine ⟨⟨project, kept, asked.later still⟩, error.imp_right fun failed => ?_⟩
    exact met_append_singleton.mpr (.inl failed)
  unloaded error met := by
    rcases met_append_singleton.mp met with earlier | now
    · exact made.unloaded error earlier
    · simp [silent] at now
  unlisted project error met := by
    rcases met_append_singleton.mp met with earlier | now
    · exact made.unlisted project error earlier
    · simp [silent] at now

theorem WellMade.plain {text : String} {project? : Option Project}
    (other : text ≠ "build failed")
    (unloaded : ∀ error, Met turns build (.unloaded error) → text = error.chain ∧ project? = none)
    (unlisted : ∀ project error, Met turns build (.unlisted project error) →
      text = error.chain ∧ project? = some project) :
    WellMade turns build (.plainFailure text project?) where
  success _ _ _ same := by simp [BuildState.plainFailure] at same
  failure _ _ same := by
    obtain ⟨text, -⟩ := BuildState.failed.inj same
    exact absurd text other
  unloaded error met := by
    obtain ⟨rfl, rfl⟩ := unloaded error met
    rfl
  unlisted project error met := by
    obtain ⟨rfl, rfl⟩ := unlisted project error met
    rfl

theorem WellMade.crashed {text : String} {project? : Option Project}
    (other : text ≠ "build failed") (silent : ∀ event, ¬Met turns build event) :
    WellMade turns build (.plainFailure text project?) :=
  .plain other (fun _ met => absurd met (silent _)) fun _ _ met => absurd met (silent _)

theorem WellMade.answered {answer : Except CompileError Response}
    (asked : AskedFor turns build project)
    (met : ∀ event, Met turns build event ↔ event = .answered answer) :
    WellMade turns build (BuildOutcome.stateOf project (conclude answer)) := by
  have failed {diagnostics : List Diagnostic}
      (error : (∃ diagnostic ∈ diagnostics, diagnostic.isError = true) ∨
        Met turns build (.answered (.error (.failed diagnostics)))) :
      WellMade turns build (.failed "build failed" diagnostics (some project)) := by
    refine ⟨by simp, ?_, by simp [met], by simp [met]⟩
    rintro _ _ ⟨⟩
    exact ⟨⟨project, rfl, asked⟩, error⟩
  cases answer with
  | ok response =>
      cases finished : response.finish with
      | ok compiled =>
          obtain ⟨filled, harmless, sorted⟩ := Response.finish_ok finished
          simp only [conclude, finished, Except.mapError, BuildOutcome.stateOf]
          refine ⟨?_, by simp, by simp [met], by simp [met]⟩
          rintro _ _ _ ⟨⟩
          exact ⟨filled, harmless, sorted, asked⟩
      | error diagnostics =>
          simp only [conclude, finished, Except.mapError, BuildOutcome.stateOf]
          exact failed (.inl (Response.finish_error finished))
  | error error =>
      cases error with
      | failed diagnostics => exact failed (.inr ((met _).mpr rfl))
      | cancelled | transport | start | closed =>
          exact .plain (CompileError.chain_ne (by simp)) (by simp [met]) (by simp [met])

end Later

namespace Turn

variable {turn : Turn} {action : BuildAction} {task : BuildTask} {build : Build}

theorem asked?_of_other (acted : turn.action = some action)
    (other : ∀ number, action ≠ .ask number) : turn.asked? = none := by
  unfold asked?
  split
  · rename_i asking _
    exact absurd (Option.some.inj (acted.symm.trans asking)) (other _)
  · rfl

theorem met?_of_aside (acted : turn.action = some action)
    (aside : ∀ number, action.build? = some number → action = .unwind number) :
    turn.met? = none := by
  cases action with
  | load number | list number | answer number => exact absurd (aside number rfl) (by simp)
  | _ => simp [met?, acted]

theorem actor?_of_met? {event : TaskEvent} (met : turn.met? = some (build, event)) :
    ∃ task, turn.actor? = some task ∧ task.build = build := by
  unfold met? at met
  split at met
  · split at met
    · exact ⟨_, ‹_›, congrArg Prod.fst (Option.some.inj met)⟩
    · simp at met
  · split at met
    · split at met
      · exact ⟨_, ‹_›, congrArg Prod.fst (Option.some.inj met)⟩
      · simp at met
    · simp at met
  · exact ⟨_, ‹_›, congrArg Prod.fst (Option.some.inj met)⟩
  · simp at met

end Turn

namespace Traced

variable {turns : List Turn} {turn : Turn} {task earlier : BuildTask} {action : BuildAction}
  {stage : TaskStage} {compilers : List CompilerInstance} {log : List LogEntry}

theorem begun (silent : ∀ event, ¬Met turns task.build event)
    (unasked : ∀ project request, ¬WasAsked turns task.build project request)
    (starting : task.stage = .starting) : Traced turns task where
  going _ := silent
  unasked _ _ := unasked
  prepared _ _ prepared := by simp [starting] at prepared
  compiling _ compiling := by simp [starting] at compiling
  made _ finished := by simp [starting] at finished

theorem keep (traced : Traced turns earlier) (build : task.build = earlier.build)
    (stage : task.stage = earlier.stage) (still : turn.asked? = none)
    (silent : turn.met? = none) : Traced (turns ++ [turn]) task := by
  refine ⟨?_, ?_, ?_, ?_, ?_⟩
  · rw [build, stage]
    intro going event met
    rcases met_append_singleton.mp met with before | now
    · exact traced.going going event before
    · simp [silent] at now
  · rw [build, stage]
    intro other going project request asked
    rcases wasAsked_append_singleton.mp asked with before | now
    · exact traced.unasked other going project request before
    · simp [still] at now
  · rw [build, stage]
    exact fun project request prepared =>
      (traced.prepared project request prepared).mono (List.subset_append_left ..)
  · rw [build, stage]
    exact fun project compiling => (traced.compiling project compiling).later still
  · rw [build, stage]
    exact fun result finished => (traced.made result finished).later still silent

theorem ended {stage : TaskStage} {result : Except String BuildOutcome}
    (finished : stage = .finished result)
    (made : WellMade turns task.build (Scheduler.shownResult result)) :
    Traced turns { task with stage } := by
  subst stage
  refine ⟨by simp [TaskStage.isFinished], by simp [TaskStage.isFinished], by simp, by simp, ?_⟩
  intro other also
  obtain rfl := TaskStage.finished.inj also
  exact made

theorem progress (traced : Traced turns task) (acted : turn.action = some action)
    (acting : turn.actor? = some task)
    (progress : turn.before.Progress task action stage compilers log) :
    Traced (turns ++ [turn]) { task with stage } := by
  have met (event : TaskEvent) :
      Met (turns ++ [turn]) task.build event ↔ turn.met? = some (task.build, event) := by
    simp [met_append_singleton, traced.going (unfinished_of_progress progress)]
  have unasked (early : task.stage.isCompiling = false) (still : turn.asked? = none)
      (project : Project) (request : Request) :
      ¬WasAsked (turns ++ [turn]) task.build project request := by
    simp [wasAsked_append_singleton, still,
      traced.unasked early (unfinished_of_progress progress)]
  cases progress with
  | loaded starting loaded =>
      have silent : turn.met? = none := by simp [Turn.met?, acted, acting, loaded]
      refine ⟨by simp [met, silent], fun _ _ => unasked (by rw [starting]; rfl) ?_, by simp,
        by simp, by simp⟩
      exact Turn.asked?_of_other acted (by simp)
  | @listed number project request reached requested =>
      have silent : turn.met? = none := by simp [Turn.met?, acted, acting, reached, requested]
      refine ⟨by simp [met, silent], fun _ _ => unasked (by rw [reached]; rfl) ?_, ?_,
        by simp, by simp⟩
      · exact Turn.asked?_of_other acted (by simp)
      · rintro _ _ ⟨⟩
        refine ⟨turn, List.mem_append_right _ (List.mem_singleton.mpr rfl), ?_⟩
        simp [Turn.prepared?, acted, acting, reached, requested]
  | @asked number project request reached live =>
      have silent : turn.met? = none := by simp [Turn.met?, acted]
      refine ⟨by simp [met, silent], by simp [TaskStage.isCompiling], by simp, ?_, by simp⟩
      rintro _ ⟨⟩
      -- a prepared task has not asked before, so this request is the only one
      refine .first (traced.unasked ?_ ?_) (traced.prepared project request reached) ?_
      · rw [reached]
        rfl
      · rw [reached]
        rfl
      · obtain ⟨build, isCancelled, isAborted, stage⟩ := task
        obtain rfl : stage = .prepared project request := reached
        obtain rfl : isCancelled = false := live
        simp [Turn.asked?, acted, acting]
  | @notLoaded number failure starting failed =>
      have now : turn.met? = some (task.build, .unloaded failure.error) := by
        simp [Turn.met?, acted, acting, failed]
      have projectless : failure.project = none := by
        cases plan : task.build.plan with
        | reuse kept => simp [plan, BuildPlan.load] at failed
        | reload => exact BuildPlan.load_failure (plan ▸ failed)
      refine .ended rfl (.plain failure.error.chain_ne ?_ ?_)
      · simp [met, now, projectless]
      · simp [met, now]
  | @notListed number project failure reached failed =>
      have now : turn.met? = some (task.build, .unlisted project failure.error) := by
        simp [Turn.met?, acted, acting, reached, failed]
      refine .ended rfl (.plain failure.error.chain_ne ?_ ?_)
      · simp [met, now]
      · simp [met, now, BuildPlan.requestOf_failure failed]
  | crashed early =>
      refine .ended rfl (.crashed (BuildOutcome.crashMessage_ne _) ?_)
      simp [met, Turn.met?, acted]
  | refused reached =>
      refine .ended rfl (.crashed (CompileError.chain_ne (by simp)) ?_)
      simp [met, Turn.met?, acted]
  | @answered number use project result reached answer =>
      refine .ended rfl ?_
      cases use with
      | answered reply =>
          obtain rfl := ClientResult.compiled.inj answer
          refine .answered ((traced.compiling project reached).later ?_) fun event => ?_
          · exact Turn.asked?_of_other acted (by simp)
          · simp [met, Turn.met?, acted, acting, eq_comm]
      | closed | crashed => simp [ClientUse.result] at answer
  | @closed number use project reached answer =>
      refine .ended rfl (.crashed (CompileError.chain_ne (by simp)) ?_)
      cases use <;> simp [met, Turn.met?, acted, ClientUse.result] at answer ⊢
  | @broken number use project message reached answer =>
      refine .ended rfl (.crashed (BuildOutcome.crashMessage_ne _) ?_)
      cases use <;> simp [met, Turn.met?, acted, ClientUse.result] at answer ⊢
  | died unfinished =>
      refine .ended rfl (.crashed (BuildOutcome.crashMessage_ne _) ?_)
      simp [met, Turn.met?, acted]

end Traced

namespace BuildRun

variable {tree : FileTree} {source : ProjectSource} {debounce : Time}
  {turns : List Turn} {system : BuildSystem} {turn : Turn} {build : Build}

theorem traced {task : BuildTask} (run : BuildRun (.create tree source debounce) turns system)
    (member : task ∈ system.tasks) : Traced turns task := by
  induction run generalizing task with
  | begin =>
      cases Descends.of_adopt member with
      | kept among => simp [BuildSystem.create] at among
      | begun start starting =>
          refine .begun ?_ ?_ starting
          · simp [Met, Turn.met?, BuildSystem.opening]
          · simp [WasAsked, Turn.asked?, BuildSystem.opening]
  | @step turns before action moved run possible ih =>
      rcases run.coherent.task_cases possible member with
        ⟨descends, aside⟩ | ⟨earlier, compilers, log, acting, progress, same⟩
      · have silent : Turn.met? ⟨before, some action, moved.2, moved.1⟩ = none :=
          Turn.met?_of_aside rfl aside
        have still : Turn.asked? ⟨before, some action, moved.2, moved.1⟩ = none := by
          refine Turn.asked?_of_other rfl fun number asks => ?_
          simpa [asks] using aside number (by rw [asks]; rfl)
        cases descends with
        | kept among build stage => exact (ih among).keep build stage still silent
        | begun start starting =>
            -- the build is new, so no turn before can have been its own
            have unstarted := run.unstarted_of_start possible start
            refine .begun (fun event met => ?_) (fun project request asked => ?_) starting
            · rcases met_append_singleton.mp met with ⟨turn, among, met⟩ | now
              · obtain ⟨actor, acting, same⟩ := Turn.actor?_of_met? met
                exact unstarted (same ▸ run.started_actor among acting)
              · simp [silent] at now
            · rcases wasAsked_append_singleton.mp asked with ⟨turn, among, asked⟩ | now
              · obtain ⟨isAborted, acting⟩ := Turn.actor?_of_asked? asked
                have old := run.started_actor among acting
                exact unstarted old
              · simp [still] at now
      · rw [same]
        exact (ih (before.mem_of_actor? acting)).progress rfl acting progress

/-- A published state is loading, or it is that of a build that has ended, and then it says what
happened to that build. -/
theorem published_wellMade {earlier later : List Turn} {shown : Turn} {state : BuildState}
    (run : BuildRun (.create tree source debounce) (earlier ++ shown :: later) system)
    (member : state ∈ shown.published) (terminal : state ≠ .loading) :
    ∃ build result, shown.ended? = some (build, result) ∧ WellMade earlier build state := by
  rw [run.published_eq, shownAfter] at member
  split at member
  · exact absurd (List.mem_singleton.mp member) terminal
  · split at member
    · rename_i build result ended
      split at member
      · obtain rfl := List.mem_singleton.mp member
        obtain ⟨reached, past, -, result?⟩ := run.ending ended
        obtain ⟨running, task, waiting, rfl, found, finished⟩ := reached.finished_of_result? result?
        have among := List.mem_of_find?_eq_some found
        have owned := past.coherent.owned task among
        obtain rfl := Option.some.inj (waiting.symm.trans owned)
        exact ⟨task.build, result, ended, (past.traced among).made result finished⟩
      · simp at member
    · simp at member

def firstAnswered (use : ClientUse) : List Turn × BuildSystem :=
  BuildSystem.sample.attempt [.load 0, .list 0, .ask 0, .answer 0 use, .finish]

theorem firstAnswered_run {use : ClientUse} {shown : Turn}
    (found : (firstAnswered use).1[5]? = some shown) :
    BuildRun .sample ((firstAnswered use).1.take 5 ++ shown :: (firstAnswered use).1.drop 6)
      (firstAnswered use).2 := by
  rw [take_cons_drop found]
  exact .attempt BuildSystem.sample _

theorem published_wellMade_built : ∃ shown artifact diagnostics project,
    let earlier := (firstAnswered sampleUse).1.take 5
    let later := (firstAnswered sampleUse).1.drop 6
    (BuildRun .sample (earlier ++ shown :: later) (firstAnswered sampleUse).2 ∧
      .succeeded artifact diagnostics project ∈ shown.published) ∧
      ∃ build result, shown.ended? = some (build, result) ∧
        WellMade earlier build (.succeeded artifact diagnostics project) ∧
        AskedFor earlier build project := by
  obtain ⟨shown, found, shows⟩ := Option.map_eq_some_iff.mp
    (show (firstAnswered sampleUse).1[5]?.map (fun turn => turn.published.map fun state =>
      state.isSuccess) = some [true] by cbv)
  have run := firstAnswered_run found
  obtain ⟨state, only, success⟩ := List.map_eq_singleton_iff.mp shows
  cases state with
  | loading | failed => simp [BuildState.isSuccess] at success
  | succeeded artifact diagnostics project =>
      have member : .succeeded artifact diagnostics project ∈ shown.published := by simp [only]
      obtain ⟨build, result, ended, made⟩ := published_wellMade run member (by simp)
      obtain ⟨-, -, -, asked⟩ := made.success artifact diagnostics project rfl
      exact ⟨shown, artifact, diagnostics, project, ⟨run, member⟩, build, result, ended, made,
        asked⟩

theorem failure_unexplained :
    ¬∀ (tree : FileTree) (source : ProjectSource) (debounce : Time) (system : BuildSystem)
      (earlier later : List Turn) (shown : Turn) (diagnostics : List Diagnostic)
      (project? : Option Project),
      BuildRun (.create tree source debounce) (earlier ++ shown :: later) system →
      .failed (CompileError.failed diagnostics).message diagnostics project? ∈ shown.published →
      ∃ diagnostic ∈ diagnostics, diagnostic.isError = true := by
  intro explained
  obtain ⟨shown, found, shows⟩ := Option.map_eq_some_iff.mp
    (show (firstAnswered (.answered (.error (.failed [])))).1[5]?.map (fun turn =>
      turn.published.map fun state => decide (state = .failed "build failed" [] state.project?)) =
        some [true] by cbv)
  have run := firstAnswered_run found
  obtain ⟨state, only, empty⟩ := List.map_eq_singleton_iff.mp shows
  have same : state = .failed "build failed" [] state.project? := of_decide_eq_true empty
  have member : .failed "build failed" [] state.project? ∈ shown.published := by
    rw [only, ← same]
    exact List.mem_singleton.mpr rfl
  obtain ⟨diagnostic, impossible, -⟩ := explained _ _ _ _ _ _ shown [] _ run member
  simp at impossible

end BuildRun

end BuildWatch
