import BuildWatch.Music.Command
import BuildWatch.Simulation.Coordinator
import BuildWatch.Simulation.Host
import BuildWatch.Terminal.Display

/-!
The whole server on a host: its compilers are programs that run there, and what it shows is what
its user reads.
-/

namespace BuildWatch.Simulation

structure Session where
  lines : List String
  error : Option StartError

def sessionLength : Time := 60000

def daemonFor (settings : Settings) : Daemon :=
  .create settings.compiler settings.baseDir

def hostCompiler (settings : Settings) (tree : FileTree) : ScriptedCompiler :=
  .ofRule fun request => .answered (compileOn tree (daemonFor settings) request).1

def hostSongs (settings : Settings) (tree : FileTree) : ScriptedSongs :=
  .ofRule fun songList =>
    .ok (compileSongs (runCommand tree) settings.musicCommand settings.baseDir songList false)

def turn (clock : String) (screen : Display × List Piece) : Display × List Piece :=
  match screen.1.turn? clock false with
  | some (display, pieces) => (display, screen.2 ++ pieces)
  | none => screen

def shown (capacity : Nat) (clock : String) (builds : List BuildState) (songs : List MusicState) :
    List Piece :=
  let opening := turn clock (turn clock (.create capacity, []))
  let afterBuilds := builds.foldl (fun (display, pieces) state =>
    turn clock ({ display with code := display.code.publish state }, pieces)) opening
  let afterSongs := songs.foldl (fun (display, pieces) state =>
    turn clock ({ display with music := display.music.publish state }, pieces)) afterBuilds
  afterSongs.2

def sessionLog (settings : Settings) (tree : FileTree) (run : CoordinatorRun) : List LogEntry :=
  run.log ++ run.code.compiler.calls.flatMap fun call =>
    (compileOn tree (daemonFor settings) call.2).2.2

def sessionLines (log : List LogEntry) (pieces : List Piece) : List String :=
  (Terminal.logLines false log ++ Terminal.plainLines (Terminal.send pieces)).mergeSort
    fun left right => left ≤ right

def serve (settings : Settings) (tree : FileTree) (clock : String) (log : List LogEntry) :
    Session :=
  let log := log ++ [settings.greeting]
  match CoordinatorRun.create settings tree (hostCompiler settings tree)
      (hostSongs settings tree) log with
  | .error error => ⟨sessionLines log [], some error⟩
  | .ok run =>
    let run := run.advance sessionLength
    ⟨sessionLines (sessionLog settings tree run)
      (shown settings.subscriberCapacity clock run.code.published run.music.published), none⟩

end BuildWatch.Simulation
