import BuildWatch.BuildState
import BuildWatch.Terminal.StatusBlock

/-!
How build states are shown. A build that printed diagnostics leaves the block before it alone, for
the diagnostics stand below it.
-/

namespace BuildWatch

namespace BuildState

def failureSummary (error : String) (errors : Nat) : String :=
  match errors with
  | 0 => error
  | 1 => error ++ ": 1 error"
  | count => error ++ ": " ++ toString count ++ " errors"

def firstError (diagnostics : List Diagnostic) : String :=
  ((diagnostics.find? Diagnostic.isError).map Diagnostic.display).getD ""

def successMessage (artifact : Artifact) (project : Project) : String :=
  let name := if project.config.filename = "" then "script" else project.config.filename
  "built " ++ name ++ " (" ++ toString artifact.code.size ++ " bytes)"

def render (state : BuildState) (clock : String) (block : StatusBlock) :
    List Piece × StatusBlock :=
  match state with
  | loading => block.pending clock "loading project..."
  | failed error diagnostics _ =>
    block.detach.failure clock
      (failureSummary error (diagnostics.filter Diagnostic.isError).length)
      (firstError diagnostics)
  | succeeded artifact diagnostics project =>
    let message := successMessage artifact project
    if diagnostics = [] then block.success clock message
    else
      let ending := if diagnostics.length = 1 then "" else "s"
      block.detach.warning clock
        (message ++ ", " ++ toString diagnostics.length ++ " warning" ++ ending)

end BuildState

namespace MusicState

def logEntry : MusicState → LogEntry
  | loading => .debug "music" "compiling songs"
  | failed error => .info "music" ("build failed: " ++ error)
  | ready data => .info "music" ("compiled (" ++ toString data.size ++ " bytes)")

def render (state : MusicState) (verbose : Bool) (block : StatusBlock) :
    List Piece × StatusBlock :=
  (([state.logEntry].filter (LogEntry.isShown verbose)).flatMap Terminal.logPieces, block.detach)

end MusicState

end BuildWatch
