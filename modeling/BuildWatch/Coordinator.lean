import BuildWatch.Music.System
import BuildWatch.Scheduler.System
import BuildWatch.Settings.Basic
import BuildWatch.Watch.Classifier

/-!
How the parts of the server are wired together: the build loops and the watcher for given settings.
-/

namespace BuildWatch

inductive StartError where
  | watch (baseDir : Path)
  deriving DecidableEq

def StartError.message : StartError → String
  | watch baseDir => "watcher failed for " ++ baseDir.display

/-- How many changes wait at most for each of the build loops. -/
def changeCapacity : Nat := 32

/-- How long each part has to end when the server stops. -/
def stopGrace : Time := 5000

def stopOverdue : LogEntry := .info "actor" "actor did not stop in time"

namespace Settings

def greeting (settings : Settings) : LogEntry :=
  .info "serve"
    ("watching " ++ settings.baseDir.display ++ " (" ++ settings.mode.label ++ " build)")

def checkWatch (settings : Settings) (tree : FileTree) : Except StartError Unit :=
  match tree.resolve settings.baseDir with
  | .ok (.found _ _) => .ok ()
  | .ok (.free _) | .error _ => .error (.watch settings.baseDir)

def source (settings : Settings) : ProjectSource :=
  ⟨settings.baseDir, settings.project, settings.mode⟩

def codeSystem (settings : Settings) (tree : FileTree) : BuildSystem :=
  .create tree settings.source settings.debounce

def musicSystem (settings : Settings) : MusicSystem :=
  .create settings.musicPath settings.debounce

/-- The classifier of the watcher before a project has been loaded. -/
def classifier (settings : Settings) : Classifier :=
  .of settings.baseDir settings.project settings.musicDir none

end Settings

end BuildWatch
