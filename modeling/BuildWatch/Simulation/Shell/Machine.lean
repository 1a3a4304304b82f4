import BuildWatch.Program
import BuildWatch.Simulation.Shell.Script

/-!
The state of a running shell: the world that it shares with other processes, its streams, and what
only the shell itself knows. A script that wants input which has not come yet is blocked; run again
with more input, it comes to the same point and goes on, because nothing else has changed.
-/

namespace BuildWatch.Simulation.Shell

/-- How many bytes go into a channel: any number of them, so many before the one that writes them
has to wait, or so many before nobody is left to read them. -/
inductive Room where
  | unlimited
  | upTo (limit : Nat)
  | brokenAt (limit : Nat)
  deriving DecidableEq, Repr

/-- What a stream leads to. Streams that lead to the same channel share its position. Bytes that
come in may be followed by more of them. -/
inductive Channel where
  | incoming (bytes : ByteArray) (position : Nat) (isWhole : Bool)
  | outgoing (bytes : ByteArray) (room : Room)
  | file (location : Location) (position : Nat) (appends : Bool)
  | device (device : Device)

structure Binding where
  name : String
  value : Option String
  isExported : Bool
  isFixed : Bool

/-- Why a script does not go on. A command that has failed ends the shell unless it belongs to a
command that may fail; `left` leaves so many loops, for good or to run the last of them again; a
channel without room ends the one that writes to it. -/
inductive Halt where
  | exited (code : Nat)
  | killed (signal : Nat)
  | failed
  | returned (code : Nat)
  | left (levels : Nat) (again : Bool)
  | blocked
  | full
  | exhausted
  deriving DecidableEq, Repr

/-- A process in the background: when it ends and how, and whether that is known to the shell
already. -/
structure Job where
  process : Nat
  due : Nat
  outcome : ExitStatus
  isKnown : Bool

/-- What a process in the background has done by the time at which it ends: the bytes that it has
sent through channels, and the entries that it has changed or removed. -/
structure Delivery where
  process : Nat
  due : Nat
  writings : List (Nat × ByteArray)
  changes : List (Location × Option Entry)

structure Sending where
  process : Nat
  signal : Nat
  due : Nat
  deriving DecidableEq, Repr

/-- What all processes share. The clock counts thousandths of a second; deliveries are still to
come, in the order in which they do, and so are signals. -/
structure World where
  tree : FileTree
  channels : Array Channel
  clock : Nat
  deliveries : List Delivery
  newestProcess : Nat
  signals : List Sending

/-- A process that runs a shell, in its world. Its first ancestor is the process itself; `called`
is the word by which a program was started that is no shell, `command` names the command of the
shell that is running, each running function has a scope of the variables that it hides,
`outputStatus` is that of the last script whose output was used, and `hasLostOutput` says that
something was written that could go nowhere. -/
structure Machine extends World where
  ancestors : List Nat
  shellProcess : Nat
  directory : Path
  handles : List (Nat × Nat)
  name : String
  called : String
  command : String
  parameters : List String
  bindings : List Binding
  scopes : List (List (String × Option Binding))
  functions : List (String × Script)
  options : List Char
  traps : List (Nat × String)
  jobs : List Job
  lastJob : Option Nat
  loops : Nat
  status : Nat
  outputStatus : Option Nat
  hasLostOutput : Bool
  line : Nat

def Machine.process (machine : Machine) : Nat := machine.ancestors.headD 0

abbrev Action := ExceptT Halt (StateM Machine)

def perform {α : Type} (action : Action α) (machine : Machine) : Except Halt α × Machine :=
  StateT.run (ExceptT.run action) machine

def rethrow {α : Type} : Except Halt α → Action α
  | .ok value => pure value
  | .error halt => throw halt

def standardInput : Nat := 0
def standardOutput : Nat := 1
def standardError : Nat := 2

def Machine.pathOf (machine : Machine) (name : String) : Path :=
  if name = "" then ⟨[]⟩ else machine.directory.join ⟨(bytesOf name).data.toList⟩

def Machine.resolve (machine : Machine) (name : String) : Except FileError FileTree.Resolved :=
  machine.tree.resolve (machine.pathOf name)

def octetsOfPath (path : Path) : String := octets path.bytes.toByteArray

def Machine.channel? (machine : Machine) (stream : Nat) : Option (Nat × Channel) :=
  match machine.handles.lookup stream with
  | some index => (machine.channels[index]?).map fun channel => (index, channel)
  | none => none

def World.setChannel (world : World) (index : Nat) (channel : Channel) : World :=
  { world with channels := world.channels.setIfInBounds index channel }

def addChannel (channel : Channel) : Action Nat := do
  let machine ← get
  set { machine with channels := machine.channels.push channel }
  return machine.channels.size

def Machine.connect (machine : Machine) (stream channel : Nat) : Machine :=
  { machine with
    handles := (stream, channel) :: machine.handles.filter fun pair => pair.1 ≠ stream }

def Machine.disconnect (machine : Machine) (stream : Nat) : Machine :=
  { machine with handles := machine.handles.filter fun pair => pair.1 ≠ stream }

def contentAt (tree : FileTree) (location : Location) : ByteArray :=
  match tree.entry? location with
  | some (.file content) => content
  | _ => ByteArray.empty

def overwritten (content : ByteArray) (position : Nat) (bytes : ByteArray) : ByteArray :=
  let gap := (Array.replicate (position - content.size) (0 : UInt8)) |> ByteArray.mk
  content.extract 0 position ++ gap ++ bytes ++
    content.extract (position + bytes.size) content.size

def brokenChannelSignal : Nat := 13

def World.send (world : World) (index : Nat) (bytes : ByteArray) : World × Except Halt Unit :=
  let limited (before : ByteArray) (limit : Nat) (room : Room) (halt : Halt) :
      World × Except Halt Unit :=
    let kept := bytes.extract 0 (limit - before.size)
    (world.setChannel index (.outgoing (before ++ kept) room),
      if kept.size = bytes.size then .ok () else .error halt)
  match world.channels[index]? with
  | some (.outgoing before .unlimited) =>
    (world.setChannel index (.outgoing (before ++ bytes) .unlimited), .ok ())
  | some (.outgoing before (.upTo limit)) => limited before limit (.upTo limit) .full
  | some (.outgoing before (.brokenAt limit)) =>
    limited before limit (.brokenAt limit) (.killed brokenChannelSignal)
  | some (.file location position appends) =>
    let content := contentAt world.tree location
    let position := if appends then content.size else position
    let world := { world with
      tree := world.tree.put location (.file (overwritten content position bytes)) }
    (world.setChannel index (.file location (position + bytes.size) appends), .ok ())
  | _ => (world, .ok ())

def sendTo (index : Nat) (bytes : ByteArray) : Action Unit := do
  let machine ← get
  let (world, result) := machine.toWorld.send index bytes
  set { machine with toWorld := world }
  rethrow result

def emitTo (stream : Nat) (bytes : ByteArray) : Action Unit := do
  let machine ← get
  match machine.handles.lookup stream with
  | some index => sendTo index bytes
  | none =>
    if stream = standardOutput && bytes.size ≠ 0 then set { machine with hasLostOutput := true }
    else pure ()

def emit (bytes : ByteArray) : Action Unit := emitTo standardOutput bytes

def print (text : String) : Action Unit := emit (bytesOf text)

def complain (text : String) : Action Unit := emitTo standardError (bytesOf text)

def shellError (text : String) : Action Unit := do
  let machine ← get
  let command := if machine.command = "" then "" else machine.command ++ ": "
  complain (machine.name ++ ": " ++ toString machine.line ++ ": " ++ command ++ text ++ "\n")

def fail {α : Type} (text : String) : Action α := do
  shellError text
  throw .failed

def ownName (program : String) : Action String := do
  let called := (← get).called
  return if called.endsWith ("/" ++ program) then called else program

def complainFor (program text : String) : Action Unit := do
  complain ((← ownName program) ++ ": " ++ text ++ "\n")

def refuse (program text : String) : Action Nat := do
  complainFor program text
  return 1

def referToHelp (program : String) : Action Unit := do
  complain ("Try " ++ quotedName ((← ownName program) ++ " --help") ++ " for more information.\n")

def takeFrom (index : Nat) (limit : Option Nat) : Action (Except FileError (ByteArray × Bool)) := do
  let machine ← get
  let take (content : ByteArray) (position : Nat) : ByteArray :=
    content.extract position ((limit.map (position + ·)).getD content.size)
  match machine.channels[index]? with
  | some (.incoming content position isWhole) =>
    let bytes := take content position
    set { machine with
      toWorld := machine.setChannel index (.incoming content (position + bytes.size) isWhole) }
    return .ok (bytes, isWhole || limit = some bytes.size)
  | some (.file location position appends) =>
    match machine.tree.entry? location with
    | some .directory => return .error .isADirectory
    | _ =>
      let bytes := take (contentAt machine.tree location) position
      set { machine with
        toWorld := machine.setChannel index (.file location (position + bytes.size) appends) }
      return .ok (bytes, true)
  | some (.device .null) => return .ok (ByteArray.empty, true)
  | some (.device .zero) =>
    match limit with
    | some count => return .ok (ByteArray.mk (Array.replicate count 0), true)
    | none => throw .exhausted
  | some (.outgoing _ _) | none => return .error (.system 9)

def waitUnless (isComplete : Bool) : Action Unit :=
  if isComplete then pure () else throw .blocked

def World.contentOf (world : World) (index : Nat) : ByteArray × Nat :=
  match world.channels[index]? with
  | some (.incoming content position _) => (content, position)
  | some (.file location position _) => (contentAt world.tree location, position)
  | _ => (ByteArray.empty, 0)

def lineEnd? (content : ByteArray) : Nat → Nat → Option Nat
  | 0, _ => none
  | count + 1, position =>
    if content.get! position = 10 then some position else lineEnd? content count (position + 1)

def takeLine (index : Nat) : Action (Except FileError (String × Bool)) := do
  let (content, position) := (← get).contentOf index
  let place := lineEnd? content (content.size - position) position
  match ← takeFrom index (place.map (· + 1 - position)) with
  | .error error => return .error error
  | .ok (bytes, isComplete) =>
    waitUnless isComplete
    return .ok (octets (if place.isSome then bytes.extract 0 (bytes.size - 1) else bytes),
      place.isSome)

def giveBack (index count : Nat) : Action Unit :=
  modify fun machine =>
    match machine.channels[index]? with
    | some (.incoming content position isWhole) =>
      { machine with
        toWorld := machine.setChannel index (.incoming content (position - count) isWhole) }
    | some (.file location position appends) =>
      { machine with
        toWorld := machine.setChannel index (.file location (position - count) appends) }
    | _ => machine

inductive Writing where
  | emptied
  | appended
  | kept
  deriving DecidableEq, Repr

def streamOfName? (name : String) : Option Nat :=
  match name with
  | "/dev/stdin" => some standardInput
  | "/dev/stdout" => some standardOutput
  | "/dev/stderr" => some standardError
  | _ =>
    ["/dev/fd/", "/proc/self/fd/"].findSome? fun place =>
      if name.startsWith place then (dropped name place.length).toNat? else none

def openForReading (name : String) : Action (Except FileError Nat) := do
  let machine ← get
  match streamOfName? name with
  | some stream =>
    return match machine.handles.lookup stream with
      | some index => .ok index
      | none => .error .notFound
  | none =>
    match machine.resolve name with
    | .ok (.found _ (.device device)) => return .ok (← addChannel (.device device))
    | .ok (.found location _) => return .ok (← addChannel (.file location 0 false))
    | .ok (.free _) => return .error .notFound
    | .error error => return .error error

def openForWriting (writing : Writing) (name : String) : Action (Except FileError Nat) := do
  let machine ← get
  match streamOfName? name with
  | some stream =>
    return match machine.handles.lookup stream with
      | some index => .ok index
      | none => .error .notFound
  | none =>
    let fresh (location : Location) : Action (Except FileError Nat) := do
      set { machine with tree := machine.tree.put location (.file ByteArray.empty) }
      return .ok (← addChannel (.file location 0 (writing = .appended)))
    match machine.resolve name with
    | .ok (.found _ .directory) => return .error .isADirectory
    | .ok (.found _ (.device device)) => return .ok (← addChannel (.device device))
    | .ok (.found location _) =>
      if writing = .emptied then fresh location
      else return .ok (← addChannel (.file location 0 (writing = .appended)))
    | .ok (.free location) =>
      if name.endsWith "/" then return .error .isADirectory else fresh location
    | .error error => return .error error

structure PartialContent where
  channel : Nat
  bytes : ByteArray
  isComplete : Bool

def contentSoFar (name : String) : Action (Except FileError PartialContent) := do
  let channel ← if name = "-" then do
      pure <| match (← get).handles.lookup standardInput with
        | some index => .ok index
        | none => .error (.system 9)
    else openForReading name
  match channel with
  | .error error => return .error error
  | .ok index =>
    match ← takeFrom index none with
    | .error error => return .error error
    | .ok (bytes, isComplete) => return .ok ⟨index, bytes, isComplete⟩

def contentOf (name : String) : Action (Except FileError ByteArray) := do
  match ← contentSoFar name with
  | .error error => return .error error
  | .ok content =>
    waitUnless content.isComplete
    return .ok content.bytes

def PartialContent.leaveAt (content : PartialContent) (place block : Nat) : Action Unit := do
  let canGoBack := match (← get).channels[content.channel]? with
    | some (.incoming _ _ isWhole) => !isWhole
    | _ => true
  let taken := if canGoBack || place = 0 then place
    else min content.bytes.size ((place + block - 1) / block * block)
  giveBack content.channel (content.bytes.size - taken)

def errorName (error : FileError) : String :=
  (error.number?.map systemErrorName).getD error.message

def Machine.binding? (machine : Machine) (name : String) : Option Binding :=
  machine.bindings.find? fun binding => binding.name = name

def Machine.value? (machine : Machine) (name : String) : Option String :=
  (machine.binding? name).bind Binding.value

def Machine.bind (machine : Machine) (binding : Binding) : Machine :=
  { machine with
    bindings := binding :: machine.bindings.filter fun other => other.name ≠ binding.name }

def setVariable (name value : String) : Action Unit := do
  let machine ← get
  match machine.binding? name with
  | some binding =>
    if binding.isFixed then fail (name ++ ": is read only")
    else set (machine.bind { binding with value := some value })
  | none => set (machine.bind ⟨name, some value, machine.options.contains 'a', false⟩)

def unsetVariable (name : String) : Action Unit := do
  let machine ← get
  match machine.binding? name with
  | some binding =>
    if binding.isFixed then fail (name ++ ": is read only")
    else set { machine with bindings := machine.bindings.filter fun other => other.name ≠ name }
  | none => pure ()

def Machine.home (machine : Machine) : String := (machine.value? "HOME").getD "/root"

end BuildWatch.Simulation.Shell
