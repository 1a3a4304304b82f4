import BuildWatch.Compiler.Daemon
import BuildWatch.Simulation.Shell.Run

/-!
A host on which programs run: a directory tree and the programs that every system has. A program
is a function of its files and its input, so one that waits for more input is run again from its
start when more has come.
-/

namespace BuildWatch.Simulation

open Shell

/-- How far a program has come, and whether it has left input unread; it has no status while it
waits for input. -/
structure Progress where
  output : ByteArray
  errors : ByteArray
  hasUnread : Bool
  status : Option ExitStatus

def directoryFault? (tree : FileTree) (path : Path) : Option StartFault :=
  match tree.resolve path with
  | .ok (.found _ .directory) => none
  | .ok (.found _ _) => some (.refused .notADirectory)
  | .ok (.free _) => some (.refused .notFound)
  | .error error => some (.refused error)

def patience : Nat := 20000

def argumentRoom : Nat := 131072

def longArgumentNumber : Nat := 7

def hostBindings (directory : Path) : List Binding :=
  [("HOME", "/root"), ("PATH", usualPath), ("PWD", octetsOfPath directory)].map
    fun (name, value) => ⟨name, some value, true, false⟩

def firstProcess : Nat := 4243
def hostProcess : Nat := 4242

def machineFor (tree : FileTree) (command : Command) (input : Channel) : Machine where
  tree
  channels := #[input, .outgoing ByteArray.empty .unlimited,
    .outgoing ByteArray.empty .unlimited]
  clock := 0
  deliveries := []
  newestProcess := firstProcess
  signals := []
  ancestors := [firstProcess, hostProcess]
  shellProcess := firstProcess
  directory := command.directory
  handles := [(standardInput, 0), (standardOutput, 1), (standardError, 2)]
  name := octetsOfText command.program
  called := ""
  command := ""
  parameters := []
  bindings := hostBindings command.directory
  scopes := []
  functions := []
  options := []
  traps := []
  jobs := []
  lastJob := none
  loops := 0
  status := 0
  outputStatus := none
  hasLostOutput := false
  line := 0

def startFault? (tree : FileTree) (command : Command) : Option StartFault :=
  let words := command.program :: command.arguments
  if words.any fun word => word.toList.contains (Char.ofNat 0) then some .nulByte
  else match directoryFault? tree command.directory with
    | some fault => some fault
    | none =>
      if words.any fun word => argumentRoom ≤ word.utf8ByteSize then
        some (.refused (.system longArgumentNumber))
      else if command.program = "" then some (.refused .notFound)
      else if !command.program.toList.contains '/' &&
          FileTree.longestName < command.program.utf8ByteSize then
        some (.refused .nameTooLong)
      else none

def programOf (command : Command) : Action (Except FileError Nat) :=
  launchNamed (execute patience) true (octetsOfText command.program)
    (command.arguments.map octetsOfText)

def settle (machine : Machine) : Machine := (perform (passTo never) machine).2

def progressOf (tree : FileTree) (command : Command) (input : Channel) :
    Except StartFault Progress :=
  match startFault? tree command with
  | some fault => .error fault
  | none =>
    let (result, after) := perform (programOf command) (machineFor tree command input)
    let after := (settle after).toWorld
    let (content, position) := after.contentOf 0
    let outcome (status : Option ExitStatus) : Progress :=
      ⟨after.sent 1, after.sent 2, position < content.size, status⟩
    match result with
    | .ok (.error error) => .error (.refused error)
    | .ok (.ok status) => .ok (outcome (some (.exited (status % 256))))
    | .error (.killed signal) => .ok (outcome (some (.killed signal)))
    | .error (.exited status) | .error (.returned status) =>
      .ok (outcome (some (.exited (status % 256))))
    | .error .failed => .ok (outcome (some (.exited 2)))
    | .error (.left _ _) => .ok (outcome (some (.exited 0)))
    | .error .full | .error .blocked | .error .exhausted => .ok (outcome none)

def runCommand (tree : FileTree) (command : Command) : Except StartFault ProgramRun := do
  let progress ← progressOf tree command (.device .null)
  return ⟨progress.status.getD (.killed 9), progress.output, progress.errors⟩

def openInput (bytes : ByteArray) : Channel := .incoming bytes 0 false

def startDaemon (tree : FileTree) (command : Command) : Except StartFault Connection := do
  discard (progressOf tree command (openInput ByteArray.empty))
  return ⟨.ofBytes ByteArray.empty, .empty⟩

def resetNumber : Nat := 104

/-- What the channel comes to behind the output of a program: it is reset when a program ends that
has not read all it was sent. -/
def Progress.ending (progress : Progress) : Ending :=
  if progress.status.isSome && progress.hasUnread then .broken (.system resetNumber) else .closed

/-- What a program does when it has been sent more input: its output grows, and once it has ended
it takes no more. -/
def reactDaemon (tree : FileTree) (command : Command) (connection : Connection) : Connection :=
  match progressOf tree command (openInput connection.sink.bytes) with
  | .error _ => connection
  | .ok progress =>
    { source := { connection.source with bytes := progress.output, ending := progress.ending },
      sink := { connection.sink with
        room := if progress.status.isSome then some 0 else connection.sink.room } }

def compileOn (tree : FileTree) (daemon : Daemon) (request : Request) :
    Except CompileError Response × Daemon × List LogEntry :=
  match daemon.command with
  | .error _ => daemon.compile (startDaemon tree) id request
  | .ok command => daemon.compile (startDaemon tree) (reactDaemon tree command) request

end BuildWatch.Simulation
