import BuildWatch.Coordinator
import BuildWatch.Terminal.Render

/-!
What the server shows of a project before its first build: where it watches, and whether there is
anything that could be built.
-/

namespace BuildWatch

structure Preview where
  pieces : List Piece
  canBuild : Bool

namespace Preview

def shownLog (verbose : Bool) (log : List LogEntry) : List Piece :=
  (log.filter (LogEntry.isShown verbose)).flatMap Terminal.logPieces

def ofSettings (tree : FileTree) (settings : Settings) (clock : String) (log : List LogEntry)
    (verbose : Bool) : Preview :=
  let (pending, block) := BuildState.loading.render clock .fresh
  let start := shownLog verbose (log ++ [settings.greeting]) ++ pending
  match Project.load tree settings.baseDir settings.project with
  | .ok (_, warnings) => ⟨start ++ shownLog verbose warnings, true⟩
  | .error error =>
    let failure := (BuildState.plainFailure error.chain none).render clock block
    ⟨start ++ shownLog verbose [.info "build" error.chain] ++ failure.1, false⟩

end Preview

end BuildWatch
