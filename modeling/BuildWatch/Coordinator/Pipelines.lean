import BuildWatch.Coordinator.Dispatch

/-!
The two build loops and the watcher, each at its own pace. The watcher learns the source directory
from the loop that builds the code, and a queue is gone when its loop has stopped. Which of the
possible actions comes next is left open.
-/

namespace BuildWatch

structure Pipelines where
  code : BuildSystem
  music : MusicSystem
  dispatch : Dispatch

/-- What can happen. Time is the same for both loops. -/
inductive PipelineAction where
  | pass (time : Time)
  | dispatch (action : DispatchAction)
  | code (action : BuildAction)
  | music (action : MusicAction)

structure ServerOutput where
  code : List Effect
  music : List MusicEffect
  watch : List LogEntry

def ServerOutput.none : ServerOutput := ⟨[], [], []⟩

def BuildAction.input : BuildAction → LoopInput
  | .pass _ => .clock
  | .change received => .change received
  | .stop => .stop
  | _ => .nothing

def MusicAction.input : MusicAction → LoopInput
  | .pass _ => .clock
  | .change received => .change received
  | .stop => .stop
  | _ => .nothing

namespace Pipelines

def loopStage (system : Pipelines) : Receiver → LoopStage
  | .code => system.code.stage
  | .music => system.music.stage

def isOpen (system : Pipelines) (receiver : Receiver) : Bool :=
  system.loopStage receiver ≠ .stopped

def begin (system : Pipelines) : Pipelines × ServerOutput :=
  let (code, effects) := system.code.begin
  let (music, musicEffects) := system.music.begin
  ({ system with code, music }, ⟨effects, musicEffects, []⟩)

/-- The system after an action and what was done, or nothing if the action is not possible. -/
def step? (system : Pipelines) : PipelineAction → Option (Pipelines × ServerOutput)
  | .pass time =>
    some ({ system with
        code := { system.code with now := system.code.now + time }
        music := { system.music with now := system.music.now + time } }, .none)
  | .dispatch action => do
    let (dispatch, log) ← system.dispatch.step? system.code.scheduler.sourceDir system.isOpen action
    some ({ system with dispatch }, ⟨[], [], log⟩)
  | .code action => do
    let dispatch ← system.dispatch.admit? .code action.input
    let (code, effects) ← system.code.step? action
    some ({ system with code, dispatch }, ⟨effects, [], []⟩)
  | .music action => do
    let dispatch ← system.dispatch.admit? .music action.input
    let (music, effects) ← system.music.step? action
    some ({ system with music, dispatch }, ⟨[], effects, []⟩)

end Pipelines

namespace Settings

def watchedDir (settings : Settings) (tree : FileTree) : Path :=
  match tree.resolve settings.baseDir with
  | .ok (.found place _) => place.path
  | .ok (.free _) | .error _ => settings.baseDir

def pipelines (settings : Settings) (tree : FileTree) : Pipelines where
  code := settings.codeSystem tree
  music := settings.musicSystem
  dispatch := .create { settings with baseDir := settings.watchedDir tree }.classifier

end Settings

end BuildWatch
