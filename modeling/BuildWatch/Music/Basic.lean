import BuildWatch.BuildState
import BuildWatch.Change
import BuildWatch.Debounce
import BuildWatch.Log
import BuildWatch.Music.Error

/-!
The loop that builds the music. It goes like the loop for the code, but every change of the music
cancels the build that runs, and there is no project file to read again.
-/

namespace BuildWatch

structure RunningSong where
  number : Nat
  isCancelled : Bool
  deriving DecidableEq

def RunningSong.cancel (running : RunningSong) : RunningSong :=
  { running with isCancelled := true }

structure MusicBuilder where
  songList : Path
  debounce : Time
  delay : Delay
  wantsBuild : Bool
  running : Option RunningSong
  builds : Nat

inductive MusicEffect where
  | log (entry : LogEntry)
  | publish (state : MusicState)
  | start (build : Nat)
  | cancel (build : Nat)

namespace MusicBuilder

def songListName : Path := Path.ofText "songs.json"

def debug (message : String) : MusicEffect := .log (.debug "music" message)

def create (musicDir : Path) (debounce : Time) : MusicBuilder :=
  ⟨musicDir.join songListName, debounce, .idle, true, none, 0⟩

/-- Starts the build that is wanted, once no other runs. -/
def launch (builder : MusicBuilder) : MusicBuilder × List MusicEffect :=
  if builder.wantsBuild && builder.running.isNone then
    ({ builder with
        wantsBuild := false
        running := some ⟨builder.builds, false⟩
        builds := builder.builds + 1 },
      [debug "starting build", .start builder.builds])
  else (builder, [])

def cancelRunning (builder : MusicBuilder) : List MusicEffect :=
  match builder.running with
  | some running => [.cancel running.number]
  | none => []

def onChange (builder : MusicBuilder) (now : Time) :
    Change → MusicBuilder × List MusicEffect
  | .music =>
    ({ builder with
        running := builder.running.map RunningSong.cancel
        delay := builder.delay.trigger now builder.debounce },
      builder.cancelRunning ++
        if builder.running.isSome then [debug "cancelled running build"] else [])
  | .config | .source => (builder, [])

def onWake (builder : MusicBuilder) (now : Time) : MusicBuilder :=
  let (delay, isAccepted) := builder.delay.onWake now
  { builder with delay, wantsBuild := builder.wantsBuild || isAccepted }

def stateOf : SongResult → MusicState
  | .ok (.ok data) => .ready data
  | .ok (.error error) => .failed error.message
  | .error message => .failed ("music task failed: " ++ message)

def logOf : SongResult → List LogEntry
  | .ok (.ok data) => [.debug "music" ("compiled " ++ toString data.size ++ " bytes")]
  | .ok (.error error) => [.info "music" error.message]
  | .error _ => []

def deliver (result : SongResult) : List MusicEffect :=
  (logOf result).map .log ++ [.publish (stateOf result)]

def onFinished (builder : MusicBuilder) (result : SongResult) :
    MusicBuilder × List MusicEffect :=
  ({ builder with running := none },
    if builder.running.any RunningSong.isCancelled then [debug "discarding stale result"]
    else deliver result)

def stop (builder : MusicBuilder) : MusicBuilder × List MusicEffect :=
  ({ builder with running := none }, builder.cancelRunning)

def farewell : MusicEffect := debug "stopped"

end MusicBuilder

end BuildWatch
