import BuildWatch.Compiler.Client
import BuildWatch.Project.Sources

/-!
One build of the code: it takes a project, reading it again if asked to, makes a request of it, has
the compiler answer, and reports a state. What it read again is kept only if the build was not
cancelled.
-/

namespace BuildWatch

/-- Where the project file lies and which game is built. -/
structure ProjectSource where
  baseDir : Path
  configName : Path
  mode : BuildMode
  deriving DecidableEq

/-- The project of a build: the file is read again, or a project that was read before is used. -/
inductive BuildPlan where
  | reload
  | reuse (project : Project)
  deriving DecidableEq

def BuildPlan.isReload : BuildPlan → Bool
  | reload => true
  | reuse _ => false

/-- What a build came to. `reloaded` is there when the project file was read again: the new
project, or none when it could not be loaded. -/
structure BuildOutcome where
  state : BuildState
  reloaded : Option (Option Project)
  isFatal : Bool
  deriving DecidableEq

/-- Why there is no request; the project is there when only its sources are missing. -/
structure PrepareFailure where
  error : ProjectError
  project : Option Project

namespace BuildPlan

/-- The project of a build and what is logged about it; the file is read again if that is the
plan. -/
def load (plan : BuildPlan) (tree : FileTree) (source : ProjectSource) :
    Except PrepareFailure (Project × List LogEntry) :=
  match plan with
  | .reuse project => .ok (project, [])
  | .reload =>
    (Project.load tree source.baseDir source.configName).mapError fun error => ⟨error, none⟩

def requestOf (tree : FileTree) (source : ProjectSource) (project : Project) :
    Except PrepareFailure Request :=
  (project.request tree source.mode).mapError fun error => ⟨error, some project⟩

def reloadedBy (plan : BuildPlan) (project : Option Project) : Option (Option Project) :=
  if plan.isReload then some project else none

end BuildPlan

namespace BuildOutcome

def logError (message : String) : LogEntry := .info "build" message

def ofFailure (plan : BuildPlan) (failure : PrepareFailure) : BuildOutcome :=
  ⟨.plainFailure failure.error.chain failure.project, plan.reloadedBy failure.project, false⟩

abbrev crashMessage (message : String) : String := "build task failed: " ++ message

def ofCrash (message : String) : BuildOutcome :=
  ⟨.plainFailure (crashMessage message) none, none, false⟩

def stateOf (project : Project) : Except CompileError Compiled → BuildState
  | .ok compiled => .succeeded compiled.artifact compiled.diagnostics project
  | .error (.failed diagnostics) => .failed "build failed" diagnostics (some project)
  | .error error => .plainFailure error.chain (some project)

def isFatalResult : Except CompileError Compiled → Bool
  | .ok _ => false
  | .error error => error.isFatal

def ofResult (plan : BuildPlan) (project : Project) (result : Except CompileError Compiled) :
    BuildOutcome :=
  ⟨stateOf project result, plan.reloadedBy (some project), isFatalResult result⟩

def resultLog : Except CompileError Compiled → List LogEntry
  | .ok _ => []
  | .error error => if error.isFatal then [logError error.chain] else []

end BuildOutcome

end BuildWatch
