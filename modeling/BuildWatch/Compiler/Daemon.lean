import BuildWatch.Compiler.Error
import BuildWatch.Log

/-!
A compiler that runs as a program of its own. It is started for the first request and answers one
frame for each frame it is sent. After the first failure of the channel nothing on it can be
trusted any more: the connection is given up for good.
-/

namespace BuildWatch

structure Connection where
  source : Source
  sink : Sink

/-- The channel to the program: none before the first request, and none again once it is closed. -/
structure Daemon where
  words : List String
  directory : Path
  connection : Option Connection
  isClosed : Bool
  frames : FrameBuffer

namespace Daemon

def create (words : List String) (directory : Path) : Daemon :=
  ⟨words, directory, none, false, .fresh⟩

def noCompilerProgram : StartFault := .noProgram "empty compiler command"

def program (daemon : Daemon) : String := daemon.words.headD ""

def command (daemon : Daemon) : Except StartFault Command :=
  match daemon.words with
  | [] => .error noCompilerProgram
  | program :: arguments => .ok ⟨program, arguments, daemon.directory⟩

def connect (daemon : Daemon) (start : Command → Except StartFault Connection) :
    Except StartFault Connection :=
  match daemon.connection with
  | some connection => .ok connection
  | none => daemon.command.bind start

def roundTrip (frames : FrameBuffer) (connection : Connection)
    (react : Connection → Connection) (request : Request) :
    Except WireError Response × FrameBuffer × Connection :=
  match frames.write connection.sink request with
  | (.error error, frames, sink) => (.error error, frames, { connection with sink })
  | (.ok _, frames, sink) =>
    let connection := react { connection with sink }
    let (result, frames, source) := frames.read connection.source
    (result, frames, { connection with source })

def close (daemon : Daemon) : Daemon :=
  { daemon with isClosed := true, connection := none }

def failureEntry (error : WireError) : LogEntry :=
  .info "compile" ("compiler channel failed: " ++ error.message)

/-- Has the program compile a request. `start` starts programs, `react` is what this one does when
it has been sent a request. -/
def compile (daemon : Daemon) (start : Command → Except StartFault Connection)
    (react : Connection → Connection) (request : Request) :
    Except CompileError Response × Daemon × List LogEntry :=
  if daemon.isClosed then (.error .closed, daemon, [])
  else match daemon.connect start with
  | .error fault => (.error (.start daemon.program fault), daemon, [])
  | .ok connection =>
    match roundTrip daemon.frames connection react request with
    | (.ok response, frames, connection) =>
      (.ok response, { daemon with frames, connection := some connection }, [])
    | (.error error, frames, _) =>
      (.error (.transport error), { daemon with frames }.close, [failureEntry error])

end Daemon

end BuildWatch
