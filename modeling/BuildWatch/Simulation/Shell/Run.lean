import BuildWatch.Simulation.Shell.BuiltIn
import BuildWatch.Simulation.Shell.Programs

/-!
Running shell scripts. The fuel bounds the depth of a script, and other numbers the turns of its
loops; a script that uses them up counts as one that still runs.
-/

namespace BuildWatch.Simulation.Shell

/-- How a script runs: whether its status is tested, so that a failure does not end the shell, and
whether it is the last thing that the shell does, so that a program takes the place of the shell. -/
structure Mode where
  isTested : Bool
  isLast : Bool

def Mode.notLast (mode : Mode) : Mode := { mode with isLast := false }

abbrev Runner := Mode → Script → Action Nat

def runLines (run : Runner) (mode : Mode) : Nat → Nat → List Token → Action Nat
  | 0, status, _ => return status
  | fuel + 1, status, tokens => do
    match nextLine tokens with
    | .error (fault, line) =>
      modify fun machine => { machine with line }
      fail ("Syntax error: " ++ fault.message)
    | .ok none => return status
    | .ok (some (script, after)) =>
      let status ← run { mode with isLast := mode.isLast && isEnding after } script
      runLines run mode fuel status after

def runText (run : Runner) (mode : Mode) (line : Nat) (text : String) : Action Nat :=
  let tokens := tokensFrom line text
  runLines run mode (tokens.length + 1) 0 tokens

def endStatus? : Except Halt Nat → Option Nat
  | .ok status => some status
  | .error (.exited code) | .error (.returned code) => some code
  | .error .failed => some 2
  | .error (.left _ _) => some 0
  | .error _ => none

def endShell (run : Runner) (script : Action Nat) : Action Nat := do
  let (result, after) := perform script (← get)
  set after
  match endStatus? result with
  | none => rethrow result
  | some status =>
    match after.traps.lookup 0 with
    | none => return status
    | some text =>
      set { after with
        traps := after.traps.filter fun pair => pair.1 ≠ 0
        command := ""
        status }
      let (result, after) := perform (runText run ⟨false, false⟩ 1 text) (← get)
      set after
      match result with
      | .error (.exited code) => return code
      | .error .failed => return 2
      | .ok _ | .error (.returned _) | .error (.left _ _) => return status
      | .error halt => throw halt

def Machine.fork (machine : Machine) : Machine :=
  { machine with
    newestProcess := machine.newestProcess + 1
    ancestors := (machine.newestProcess + 1) :: machine.ancestors
    traps := machine.traps.filter fun pair => pair.1 ≠ 0 && pair.2 = ""
    jobs := [] }

def inChild (run : Runner) (script : Action Nat) : Action ExitStatus := do
  let before ← get
  let (result, after) := perform (endShell run script) before.fork
  set { before with toWorld := after.toWorld }
  match result with
  | .ok status => return .exited (status % 256)
  | .error (.killed signal) => return .killed signal
  | .error halt => throw halt

def childStatus (mode : Mode) (outcome : ExitStatus) : Action Nat := do
  match outcome with
  | .exited code => return code
  | .killed signal =>
    if mode.isLast && (← get).traps.isEmpty then throw (.killed signal)
    reportSignal signal
    return 128 + signal

def childMode : Mode := ⟨false, true⟩

def inSubshell (run : Runner) (mode : Mode) (script : Script) : Action Nat := do
  childStatus mode (← inChild run (run { mode with isLast := true } script))

def World.sent (world : World) (index : Nat) : ByteArray :=
  match world.channels[index]? with
  | some (.outgoing bytes _) => bytes
  | _ => ByteArray.empty

def substitute (run : Runner) (line : Nat) (text : String) : Action String := do
  let channel ← addChannel (.outgoing ByteArray.empty .unlimited)
  let outcome ← inChild run do
    modify fun machine => machine.connect standardOutput channel
    runText run childMode line text
  let status ← childStatus ⟨true, false⟩ outcome
  modify fun machine => { machine with outputStatus := some status }
  let kept := ((octets ((← get).sent channel)).toList.filter (·.toNat ≠ 0)).reverse
  return String.ofList (kept.dropWhile (· = '\n')).reverse

/-- What comes of two scripts of which the second runs on what the first prints: the second wants
more, or it has ended with a status, and the first may have filled the channel between them. -/
inductive PipeResult where
  | wantsMore
  | ended (status : Nat) (isFull : Bool)

def runStages (run : Runner) (left right : Script) (room : Room) : Action PipeResult := do
  let before ← get
  let channel ← addChannel (.outgoing ByteArray.empty room)
  let (leftResult, afterLeft) := perform (inChild run do
    modify fun machine => machine.connect standardOutput channel
    run childMode left) (← get)
  set { before with toWorld := afterLeft.toWorld }
  match leftResult with
  | .error .exhausted => throw .exhausted
  | .ok (.killed signal) => reportSignal signal
  | _ => pure ()
  let hasEnded : Bool := match leftResult, room with
    | .ok _, .upTo _ => true
    | _, _ => false
  let isFull : Bool := match leftResult, room with
    | .error .full, .upTo limit => (afterLeft.sent channel).size == limit
    | _, _ => false
  let source ← addChannel (.incoming ((← get).sent channel) 0 hasEnded)
  modify fun machine => { machine with clock := before.clock }
  let (rightResult, afterRight) := perform (inChild run do
    modify fun machine => machine.connect standardInput source
    run childMode right) (← get)
  set { afterRight with clock := max afterRight.clock afterLeft.clock }
  match rightResult with
  | .error .blocked => if isFull then return .wantsMore else throw .blocked
  | .error halt => throw halt
  | .ok outcome =>
    match leftResult with
    | .error halt => if !isFull then throw halt
    | .ok _ => pure ()
    return .ended (← childStatus ⟨true, false⟩ outcome) isFull

def channelRoom : Nat := 65536
def roomGrowth : Nat := 16

/-- Runs two scripts, the second on what the first prints. The first runs until it has filled the
channel between them; if that was not enough for the second, both run again with more room, and if
it was, once more with a channel that breaks where it was full. -/
def runPipe (run : Runner) (left right : Script) (room : Nat) : Nat → Action Nat
  | 0 => throw .exhausted
  | tries + 1 => do
    let before ← get
    match ← runStages run left right (.upTo room) with
    | .wantsMore =>
      set before
      runPipe run left right (room * roomGrowth) tries
    | .ended status false => return status
    | .ended _ true =>
      set before
      match ← runStages run left right (.brokenAt room) with
      | .ended status _ => return status
      | .wantsMore => throw .exhausted

def never : Nat := Nat.pow 10 18

def Channel.withoutOutput : Channel → Channel
  | .outgoing _ _ => .outgoing ByteArray.empty .unlimited
  | channel => channel

def writingsSince (before after : World) : List (Nat × ByteArray) :=
  (List.range before.channels.size).filterMap fun index =>
    match (before.channels[index]? : Option Channel) with
    | some (Channel.outgoing _ _) =>
      let bytes := after.sent index
      if bytes.size = 0 then none else some (index, bytes)
    | _ => none

def sameEntry : Entry → Entry → Bool
  | .file content, .file other => content.data = other.data
  | .directory, .directory => true
  | .link target, .link other => target = other
  | .device device, .device other => device = other
  | _, _ => false

def changesBetween (before after : FileTree) : List (Location × Option Entry) :=
  let isKept (location : Location) (entry : Entry) : Bool :=
    match before.entry? location with
    | some old => sameEntry old entry
    | none => false
  let changed := after.entries.filterMap fun (location, entry) =>
    if isKept location entry then none else some (location, some entry)
  let removed := before.entries.filterMap fun (location, _) =>
    if (after.entry? location).isNone then some (location, none) else none
  removed ++ changed

def channelsAround (before after : World) : Array Channel :=
  after.channels.mapIdx fun index channel =>
    match (before.channels[index]? : Option Channel) with
    | some (Channel.outgoing bytes room) => Channel.outgoing bytes room
    | _ => channel

def runInBackground (run : Runner) (script : Script) : Action Nat := do
  let null ← addChannel (.device .null)
  let before ← get
  let fork := before.fork
  let child : Machine :=
    { fork with channels := before.channels.map Channel.withoutOutput }
  let (result, after) := perform (endShell run do
    modify fun machine => machine.connect standardInput null
    run childMode script) child
  let (due, outcome) : Nat × ExitStatus := match result with
    | .ok status => (after.clock, .exited (status % 256))
    | .error (.killed signal) => (after.clock, .killed signal)
    | .error _ => (never, .exited 0)
  let process := child.process
  let delivery : Delivery := ⟨process, due, writingsSince before.toWorld after.toWorld,
    changesBetween before.tree after.tree⟩
  let jobs := before.jobs.filter fun job => !job.isKnown
  let job : Job := ⟨process, due, outcome, false⟩
  set { before with
    toWorld := { after.toWorld with
      tree := before.tree
      channels := channelsAround before.toWorld after.toWorld
      clock := before.clock
      deliveries := after.deliveries ++ [delivery] }
    jobs := jobs ++ [job]
    lastJob := some process }
  passTo before.clock
  return 0

def openComplaint (isCreated : Bool) (name : String) (error : FileError) : String :=
  let isAbsent := error = .notFound || error = .notADirectory
  if isCreated then
    "cannot create " ++ name ++ ": " ++
      if isAbsent then "Directory nonexistent" else errorName error
  else "cannot open " ++ name ++ ": " ++ if isAbsent then "No such file" else errorName error

def redirect (stream : Nat) (symbol target : String) : Action (Except String Unit) := do
  let machine ← get
  let connect (channel : Nat) : Action (Except String Unit) := do
    modify fun machine => machine.connect stream channel
    return .ok ()
  let openFor (writing : Writing) : Action (Except String Unit) := do
    match ← openForWriting writing target with
    | .ok channel => connect channel
    | .error error => return .error (openComplaint true target error)
  match symbol with
  | "<<" | "<<-" => connect (← addChannel (.incoming (bytesOf target) 0 true))
  | ">&" | "<&" =>
    if target = "-" then
      set (machine.disconnect stream)
      return .ok ()
    match target.toNat? with
    | none => fail "Syntax error: Bad fd number"
    | some source =>
      match machine.handles.lookup source with
      | some channel => connect channel
      | none => return .error (target ++ ": Bad file descriptor")
  | "<" =>
    match ← openForReading target with
    | .ok channel => connect channel
    | .error error => return .error (openComplaint false target error)
  | "<>" => openFor .kept
  | ">>" => openFor .appended
  | ">" =>
    let isKept := match machine.entryOf? target with
      | some (_, .file _) => machine.options.contains 'C'
      | _ => false
    if isKept then return .error ("cannot create " ++ target ++ ": File exists")
    openFor .emptied
  | _ => openFor .emptied

def redirectAll : List (Nat × String × String) → Action (Except String Unit)
  | [] => return .ok ()
  | (stream, symbol, target) :: rest => do
    match ← redirect stream symbol target with
    | .ok () => redirectAll rest
    | .error reason => return .error reason

def expandTargets (run : Runner) (redirections : List Redirection) :
    Action (List (Nat × String × String)) :=
  redirections.mapM fun redirection => do
    let expandTarget := if redirection.symbol.startsWith "<<" then expandText else expandWhole
    return (redirection.stream, redirection.symbol,
      ← expandTarget (substitute run) redirection.target)

def Machine.restored (before after : Machine) (streams : List Nat) : Machine :=
  streams.foldl (fun machine stream =>
    match before.handles.lookup stream with
    | some channel => machine.connect stream channel
    | none => machine.disconnect stream) after

def withRedirections (run : Runner) (isSpecial : Bool) (redirections : List Redirection)
    (action : Action Nat) : Action Nat := do
  if redirections.isEmpty then return ← action
  let targets ← expandTargets run redirections
  let before ← get
  let streams := targets.map (·.1)
  match ← redirectAll targets with
  | .error reason =>
    set (before.restored (← get) streams)
    shellError reason
    if isSpecial then throw .failed
    return 2
  | .ok () =>
    let (result, after) := perform action (← get)
    set (before.restored after streams)
    rethrow result

def splitAssignments : List Word → List (String × Word) × List Word
  | [] => ([], [])
  | word :: rest =>
    match assignment? word with
    | some pair =>
      let (others, words) := splitAssignments rest
      (pair :: others, words)
    | none => ([], word :: rest)

def assigningNames : List String := ["export", "readonly", "local"]

def commandFields (run : Runner) (words : List Word) : Action (List String) := do
  let assigns := match words with
    | first :: second :: _ =>
      let name := bareText? first
      let name := if name = some "command" then bareText? second else name
      name.any assigningNames.contains
    | _ => false
  let fields ← words.mapM fun word => do
    match if assigns then assignment? word else none with
    | some (name, value) => return [name ++ "=" ++ (← expandValue (substitute run) value)]
    | none => expandFields (substitute run) word
  return fields.flatten

inductive CommandKind where
  | special
  | function (body : Script)
  | builtIn
  | program
  | denied
  | missing

def runningNames : List String :=
  [".", "break", "command", "continue", "eval", "exec", "exit", "return"]

def Machine.programAt (machine : Machine) (place : String) : CommandKind :=
  if isSystemPlace place then .program
  else if (machine.entryOf? place).isSome then .denied else .missing

def Machine.searchPlaces (machine : Machine) (name : String) : List String :=
  if name.toList.contains '/' then [name]
  else
    let path := (machine.value? "PATH").getD ""
    (path.splitOn ":").map fun directory => if directory = "" then name else within directory name

def Machine.findProgram (machine : Machine) (name : String) : CommandKind × String :=
  let found := (machine.searchPlaces name).map fun place => (machine.programAt place, place)
  let isFound (pair : CommandKind × String) : Bool := match pair.1 with
    | .program => true
    | _ => false
  let isDenied (pair : CommandKind × String) : Bool := match pair.1 with
    | .denied => true
    | _ => false
  if name = "" then (.missing, name)
  else ((found.find? isFound).or (found.find? isDenied)).getD (.missing, name)

def Machine.findCommand (machine : Machine) (skipsFunctions : Bool) (name : String) :
    CommandKind :=
  if specialNames.contains name || name = "local" then .special
  else match if skipsFunctions then none else machine.functions.lookup name with
    | some body => .function body
    | none =>
      if (builtIn? name).isSome || runningNames.contains name then .builtIn
      else (machine.findProgram name).1

def usualPath : String := "/usr/local/sbin:/usr/local/bin:/usr/sbin:/usr/bin:/sbin:/bin"

def ownVariables : List String := ["OPTIND", "PPID", "IFS", "PWD"]

def Machine.freshShell (machine : Machine) (replaces : Bool) (name : String)
    (parameters : List String) : Machine :=
  let fork := machine.fork
  let child := if replaces then
      { fork with newestProcess := machine.newestProcess, ancestors := machine.ancestors }
    else fork
  let own (name value : String) : Binding := ⟨name, some value, false, false⟩
  let kept := child.bindings.filter fun binding => binding.isExported &&
    !ownVariables.contains binding.name
  let hasPath := kept.any fun binding => binding.name = "PATH"
  let path := if hasPath then [] else [own "PATH" usualPath]
  { child with
    shellProcess := child.process
    name
    command := ""
    parameters
    bindings := kept.map (fun binding => { binding with isFixed := false }) ++ path ++
      [own "OPTIND" "1", own "PPID" (toString (child.ancestors.getD 1 0)), own "IFS" " \t\n",
        ⟨"PWD", some machine.place, true, false⟩]
    scopes := []
    functions := []
    options := []
    lastJob := none
    loops := 0
    status := 0
    outputStatus := none
    line := 0 }

def inNewShell (run : Runner) (replaces : Bool) (name : String) (parameters : List String)
    (options : List Char) (action : Action Nat) : Action Nat := do
  let before ← get
  let (result, after) := perform (endShell run action)
    { before.freshShell replaces name parameters with options }
  set { before with toWorld := after.toWorld }
  match result with
  | .ok status => return status % 256
  | .error halt => throw halt

/-- The options of the shell as a program: letters, and whether the script is an argument or the
input. -/
structure ShellOptions where
  letters : List Char
  takesScript : Bool
  readsInput : Bool

def readShellOptions (options : ShellOptions) :
    List String → Except String (ShellOptions × List String)
  | [] => .ok (options, [])
  | word :: rest =>
    if word = "--" || word = "-" then .ok (options, rest)
    else if word.startsWith "-" || word.startsWith "+" then
      let letters := word.toList.drop 1
      let known (letter : Char) : Bool :=
        letter = 'c' || letter = 'l' || optionLetters.contains letter
      match letters.find? fun letter => !known letter with
      | some letter => .error ("Illegal option " ++ taken word 1 ++ String.singleton letter)
      | none =>
        let set := letters.filter fun letter => !"cls".toList.contains letter
        let isOn := word.startsWith "-"
        readShellOptions {
          letters := if isOn then set ++ options.letters
            else options.letters.filter fun letter => !set.contains letter
          takesScript := options.takesScript || letters.contains 'c'
          readsInput := options.readsInput || letters.contains 's' } rest
    else .ok (options, word :: rest)

def runShell (run : Runner) (replaces : Bool) (name : String) : Program := fun arguments => do
  let failed (reason : String) : Action Nat := do
    complain (name ++ ": 0: " ++ reason ++ "\n")
    return 2
  match readShellOptions ⟨[], false, false⟩ arguments with
  | .error reason => failed reason
  | .ok (options, operands) =>
    if options.takesScript then
      match operands with
      | [] => failed "-c requires an argument"
      | text :: rest =>
        inNewShell run replaces (rest.headD name) (rest.drop 1) options.letters
          (runText run childMode 1 text)
    else
      match options.readsInput, operands with
      | false, file :: parameters =>
        match ← openForReading file with
        | .error error => failed (openComplaint false file error)
        | .ok channel =>
          match ← takeFrom channel none with
          | .error _ => return 0
          | .ok (content, _) =>
            inNewShell run replaces file parameters options.letters
              (runText run ⟨false, false⟩ 1 (octets content))
      | _, parameters =>
        match ← contentOf "-" with
        | .error _ => return 0
        | .ok content =>
          inNewShell run replaces name parameters options.letters
            (runText run ⟨false, false⟩ 1 (octets content))

def lossStatus (program : String) : Nat :=
  if ["grep", "ls", "sort"].contains program then 2 else 1

def closedStreamNumber : Nat := 9

def launchNamed (run : Runner) (replaces : Bool) (word : String) (arguments : List String) :
    Action (Except FileError Nat) := do
  let machine ← get
  match machine.findProgram word with
  | (.missing, _) =>
    return .error (if word.toList.contains '/' then machine.absence word else .notFound)
  | (.program, place) =>
    let name := baseName place
    if shellNames.contains name then return .ok (← runShell run replaces word arguments)
    match program? name with
    | some program =>
      set { machine with called := word, hasLostOutput := false }
      let status ← program arguments
      let hasLostOutput := (← get).hasLostOutput
      if hasLostOutput then
        complainFor name ("write error: " ++ errorName (.system closedStreamNumber))
      modify fun after =>
        { after with called := machine.called, hasLostOutput := machine.hasLostOutput }
      return .ok (if hasLostOutput then lossStatus name else status)
    | none => return .error .notFound
  | _ => return .error .permissionDenied

def runExternal (run : Runner) (mode : Mode) (name : String) (arguments : List String) :
    Action Nat := do
  let before ← get
  let replaces := mode.isLast && before.traps.isEmpty
  let (result, after) := perform (launchNamed run replaces name arguments) before
  set { before with toWorld := after.toWorld }
  match result with
  | .ok (.ok status) => return status
  | .ok (.error error) =>
    let isDenied := error = .permissionDenied
    shellError (name ++ ": " ++ if isDenied || name = "" then "Permission denied" else "not found")
    return if isDenied then 126 else 127
  | .error (.killed signal) => childStatus mode (.killed signal)
  | .error .failed => return 1
  | .error halt => throw halt

def restoreBindings (bindings : List Binding) (scope : List (String × Option Binding)) :
    List Binding :=
  scope.foldl (fun bindings (name, before) =>
    before.toList ++ bindings.filter fun binding => binding.name ≠ name) bindings

def functionDepth : Nat := 1000

def callFunction (run : Runner) (mode : Mode) (body : Script) (arguments : List String) :
    Action Nat := do
  let before ← get
  if functionDepth ≤ before.scopes.length then
    fail ("Maximum function recursion depth (" ++ toString functionDepth ++ ") reached")
  set { before with parameters := arguments, scopes := [] :: before.scopes, loops := 0 }
  let (result, after) := perform (run mode.notLast body) (← get)
  set { after with
    parameters := before.parameters
    bindings := restoreBindings after.bindings (after.scopes.headD [])
    scopes := before.scopes
    loops := before.loops }
  match result with
  | .error (.returned status) => return status
  | result => rethrow result

def withAssignments (assignments : List (String × String)) (action : Action Nat) : Action Nat := do
  let before ← get
  let hidden := (assignments.map fun pair => (pair.1, before.binding? pair.1)).reverse
  for (name, value) in assignments do
    setVariable name value
    modify fun machine => machine.bind ⟨name, some value, true, false⟩
  let (result, after) := perform action (← get)
  set { after with bindings := restoreBindings after.bindings hidden }
  rethrow result

def numberArgument (usual : Nat) : List String → Action Nat
  | [] => return usual
  | text :: _ => argumentNumber text

def describeCommand (machine : Machine) (name : String) : Option String :=
  if reservedWords.contains name then some name
  else match machine.findCommand false name with
    | .special | .function _ | .builtIn => some name
    | .program => some (machine.findProgram name).2
    | .denied | .missing => none

def describeAll (names : List String) : Action Nat := do
  let mut status := 0
  for name in names do
    match describeCommand (← get) name with
    | some text => print (text ++ "\n")
    | none => status := 127
  return status

def runSource (run : Runner) (mode : Mode) (arguments : List String) : Action Nat := do
  let file := arguments.headD ""
  if arguments.isEmpty then return 0
  let machine ← get
  let places := machine.searchPlaces file
  match places.find? fun place => (machine.entryOf? place).any fun pair => pair.2.isFile with
  | none =>
    if file.toList.contains '/' then
      fail (openComplaint false file (machine.absence file))
    else fail (file ++ ": not found")
  | some place =>
    match ← contentOf (if place = "-" then "./-" else place) with
    | .error error => fail (openComplaint false file error)
    | .ok content =>
      let line := machine.line
      set { (← get) with command := file }
      let (result, after) := perform (runText run mode.notLast 1 (octets content)) (← get)
      set { after with line }
      match result with
      | .error (.returned status) => return status
      | result => rethrow result

def asCommand (name : String) (mayFail : Bool) (action : Action Nat) : Action Nat := do
  let before ← get
  let whole : Action Nat := do
    let status ← action
    if !(← get).hasLostOutput then return status
    shellError (name ++ ": I/O error")
    return status ||| 1
  let (result, after) := perform whole { before with command := name, hasLostOutput := false }
  set { after with command := before.command, hasLostOutput := before.hasLostOutput }
  match result with
  | .error .failed => if mayFail then return 2 else throw .failed
  | result => rethrow result

def runBuiltIn (run : Runner) (mode : Mode) (name : String) (arguments : List String) :
    Action Nat := do
  let machine ← get
  match name with
  | "exit" => throw (.exited ((← numberArgument machine.status arguments) % 256))
  | "return" => throw (.returned (← numberArgument machine.status arguments))
  | "break" | "continue" =>
    let levels ← numberArgument 1 arguments
    if levels = 0 then fail ("Illegal number: " ++ arguments.headD "")
    if machine.loops = 0 then return 0
    throw (.left (min levels machine.loops) (name = "continue"))
  | "eval" =>
    let text := String.intercalate " " arguments
    runText run mode.notLast machine.line text
  | "." => runSource run mode arguments
  | _ =>
    match builtIn? name with
    | some action => action arguments
    | none => return 0

def replaceShell (run : Runner) (arguments : List String) : Action Nat := do
  match arguments with
  | [] => return 0
  | name :: arguments =>
    modify fun machine =>
      { machine with traps := machine.traps.filter fun pair => pair.2 = "" && pair.1 ≠ 0 }
    throw (.exited (← runExternal run ⟨false, true⟩ name arguments))

def runNamed (run : Runner) (mode : Mode) (skipsFunctions : Bool)
    (assignments : List (String × String)) (name : String) (arguments : List String) :
    Action Nat := do
  match (← get).findCommand skipsFunctions name with
  | .special =>
    if skipsFunctions then
      withAssignments assignments (asCommand name true (runBuiltIn run mode name arguments))
    else
      for (target, value) in assignments do
        setVariable target value
      asCommand name false (runBuiltIn run mode name arguments)
  | .function body => withAssignments assignments (callFunction run mode body arguments)
  | .builtIn =>
    withAssignments assignments (asCommand name true (runBuiltIn run mode name arguments))
  | _ => withAssignments assignments (runExternal run mode name arguments)

def stripCommand : List String → Bool × Bool × List String
  | "command" :: rest =>
    let options := rest.takeWhile fun word => ["-v", "-p"].contains word
    let rest := rest.drop options.length
    (true, options.contains "-v", if rest.head? = some "--" then rest.drop 1 else rest)
  | words => (false, false, words)

def traceCommand (shown : Machine) (assignments : List (String × String)) (fields : List String) :
    Action Unit := do
  let words := assignments.map (fun pair => pair.1 ++ "=" ++ pair.2) ++ fields
  if words.isEmpty then return ()
  match shown.handles.lookup standardError with
  | some channel =>
    let text := ((← get).value? "PS4").getD "+ " ++ String.intercalate " " words ++ "\n"
    sendTo channel (bytesOf text)
  | none => pure ()

def runSimple (run : Runner) (mode : Mode) (line : Nat) (words : List Word)
    (redirections : List Redirection) : Action Nat := do
  modify fun machine => { machine with line, outputStatus := none }
  let (assignments, words) := splitAssignments words
  let fields ← commandFields run words
  let before ← get
  let values : Action (List (String × String)) :=
    assignments.mapM fun (name, value) => do
      return (name, ← expandValue (substitute run) value)
  let trace (assignments : List (String × String)) : Action Unit :=
    if before.options.contains 'x' then traceCommand before assignments fields else pure ()
  match fields with
  | [] =>
    withRedirections run false redirections do
      for (name, value) in assignments do
        let value ← expandValue (substitute run) value
        trace [(name, value)]
        setVariable name value
      return (← get).outputStatus.getD 0
  | fields =>
    let (skipsFunctions, describes, fields) := stripCommand fields
    match describes, fields with
    | true, names => withRedirections run false redirections (describeAll (names.take 1))
    | false, [] => withRedirections run false redirections (return 0)
    | false, name :: arguments =>
      let isSpecial := match before.findCommand skipsFunctions name with
        | .special => !skipsFunctions
        | _ => false
      if name = "exec" then
        let targets ← expandTargets run redirections
        let values ← values
        trace values
        match ← redirectAll targets with
        | .error reason =>
          shellError reason
          throw .failed
        | .ok () =>
          for (target, value) in values do
            setVariable target value
            modify fun machine => machine.bind ⟨target, some value, true, false⟩
          asCommand name false (replaceShell run arguments)
      else
        withRedirections run isSpecial redirections do
          let values ← values
          trace values
          runNamed run mode skipsFunctions values name arguments

def takeSignals (run : Runner) : Nat → Action Unit
  | 0 => pure ()
  | fuel + 1 => do
    let machine ← get
    let isThere (sending : Sending) : Bool :=
      sending.process = machine.process && sending.due ≤ machine.clock
    match machine.signals.find? isThere with
    | none => pure ()
    | some sending =>
      let signal := sending.signal
      set { machine with signals := machine.signals.erase sending }
      match if unstoppableSignals.contains signal then none else machine.traps.lookup signal with
      | some "" => pure ()
      | some text =>
        discard (runText run ⟨false, false⟩ 1 text)
        modify fun after => { after with status := machine.status }
      | none => receive signal
      takeSignals run fuel

def runTurn (turn : Action (Option Nat)) (status : Nat) : Action (Bool × Nat) := do
  let depth := (← get).loops
  set { (← get) with loops := depth + 1 }
  let (result, after) := perform turn (← get)
  set { after with loops := depth }
  match result with
  | .ok (some status) => return (true, status)
  | .ok none => return (false, status)
  | .error (.left levels again) =>
    if 1 < levels then throw (.left (levels - 1) again) else return (again, 0)
  | .error halt => throw halt

def loopPatience : Nat := 1000000

def runLoop (turn : Action (Option Nat)) : Nat → Nat → Action Nat
  | 0, _ => throw .exhausted
  | fuel + 1, status => do
    match ← runTurn turn status with
    | (true, status) => runLoop turn fuel status
    | (false, status) => return status

def runEach (name : String) (body : Action Nat) (status : Nat) : List String → Action Nat
  | [] => return status
  | value :: rest => do
    setVariable name value
    match ← runTurn (do return some (← body)) status with
    | (true, status) => runEach name body status rest
    | (false, status) => return status

def chooseArm (run : Runner) (subject : List Char) : Script → Action (Option Script)
  | .arm patterns body others => do
    for pattern in patterns do
      let letters ← expandLetters (substitute run) pattern
      if (Pattern.ofLetters letters).accepts subject then return some body
    chooseArm run subject others
  | _ => return none

def Script.steps : Script → List Script
  | .sequence left right => left :: right.steps
  | script => [script]

def runSteps (run : Runner) (mode : Mode) : List Script → Action Nat
  | [] => return 0
  | [last] => run mode last
  | script :: rest => do
    discard (run mode.notLast script)
    runSteps run mode rest

def overflowSignal : Nat := 11

def execute : Nat → Runner
  | 0, _, _ => throw (.killed overflowSignal)
  | fuel + 1, mode, script => do
    if (← get).options.contains 'n' then return 0
    let run : Runner := execute fuel
    let tested : Mode := ⟨true, false⟩
    let inner := mode.notLast
    let (status, endsShell) ← match script with
      | .nothing => do pure ((← get).status, false)
      | .simple line words redirections => do
        pure (← runSimple run mode line words redirections, true)
      | .pipe left right => do pure (← runPipe run left right channelRoom 3, true)
      | .both left right => do
        let status ← run tested left
        if status = 0 then pure (← run mode right, false) else pure (status, false)
      | .either left right => do
        let status ← run tested left
        if status = 0 then pure (status, false) else pure (← run mode right, false)
      | .sequence _ _ => do pure (← runSteps run mode script.steps, false)
      | .background script => do pure (← runInBackground run script, false)
      | .negated script => do
        let status ← run tested script
        pure (if status = 0 then 1 else 0, false)
      | .branch condition yes no => do
        if (← run tested condition) = 0 then pure (← run mode yes, false)
        else match no with
        | .nothing => pure (0, false)
        | no => pure (← run mode no, false)
      | .loop whileTrue condition body => do
        let turn : Action (Option Nat) := do
          let status ← run tested condition
          if (status == 0) != whileTrue then return none
          return some (← run inner body)
        pure (← runLoop turn loopPatience 0, false)
      | .each line name words body => do
        modify fun machine => { machine with line }
        let values ← expandAll (substitute run) words
        pure (← runEach name (run inner body) 0 values, false)
      | .choice line subject arms => do
        modify fun machine => { machine with line }
        let text := textOfLetters (← expandLetters (substitute run) subject)
        match ← chooseArm run text.toList arms with
        | some .nothing | none => pure (0, false)
        | some body => pure (← run mode body, false)
      | .arm _ _ _ => pure (0, false)
      | .group isSubshell body redirections => do
        let own := if redirections.isEmpty then mode else inner
        let status ← withRedirections run false redirections
          (if isSubshell then inSubshell run mode body else run own body)
        pure (status, isSubshell)
      | .function name body => do
        modify fun machine =>
          { machine with
            functions := (name, body) :: machine.functions.filter fun pair => pair.1 ≠ name }
        pure (0, false)
    modify fun machine => { machine with status }
    takeSignals run 64
    if endsShell && !mode.isTested && status ≠ 0 && (← get).options.contains 'e' then
      throw (.exited status)
    return status

end BuildWatch.Simulation.Shell
