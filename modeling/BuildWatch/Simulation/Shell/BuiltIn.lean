import BuildWatch.Simulation.Shell.Condition
import BuildWatch.Simulation.Shell.Expansion
import BuildWatch.Simulation.Shell.Printing
import BuildWatch.Simulation.Shell.Signal

/-!
The commands of the shell that change its state: its directory, its variables, its options, its
parameters.
-/

namespace BuildWatch.Simulation.Shell

def shellOptions (known withValue : List Char) : List String →
    Action (List (Char × String) × List String)
  | [] => return ([], [])
  | "--" :: rest => return ([], rest)
  | word :: rest => do
    if !word.startsWith "-" || word = "-" then return ([], word :: rest)
    let letters := word.toList.drop 1
    let simple := letters.takeWhile fun letter =>
      known.contains letter && !withValue.contains letter
    match letters.drop simple.length, rest with
    | [], rest =>
      let (others, operands) ← shellOptions known withValue rest
      return (simple.map (fun letter => (letter, "")) ++ others, operands)
    | letter :: value, rest =>
      if !known.contains letter then fail ("Illegal option -" ++ String.singleton letter)
      let first := simple.map fun letter => (letter, "")
      match value, rest with
      | [], value :: rest =>
        let (others, operands) ← shellOptions known withValue rest
        return (first ++ (letter, value) :: others, operands)
      | [], [] => fail ("No arg for -" ++ String.singleton letter ++ " option")
      | value, rest =>
        let (others, operands) ← shellOptions known withValue rest
        return (first ++ (letter, String.ofList value) :: others, operands)

def plainPath (path : String) : String :=
  let pieces := (path.splitOn "/").foldl (fun pieces piece =>
    if piece = "" || piece = "." then pieces
    else if piece = ".." then pieces.drop 1
    else piece :: pieces) []
  let start := if path.startsWith "//" && !path.startsWith "///" then "//" else "/"
  start ++ String.intercalate "/" pieces.reverse

def Machine.place (machine : Machine) : String := octetsOfPath machine.directory

def runChange (arguments : List String) : Action Nat := do
  let (_, operands) ← shellOptions ['L', 'P'] [] arguments
  let machine ← get
  let target := operands.headD machine.home
  let isBack := operands.head? = some "-"
  let target := if isBack then (machine.value? "OLDPWD").getD "" else target
  let path := if target.startsWith "/" then target else machine.place ++ "/" ++ target
  let place := if target = "" then machine.place else plainPath path
  if machine.tree.isDirectory ⟨(bytesOf place).data.toList⟩ then
    set { machine with directory := ⟨(bytesOf place).data.toList⟩ }
    setVariable "OLDPWD" machine.place
    setVariable "PWD" place
    if isBack then print (place ++ "\n")
    return 0
  fail ("can" ++ String.singleton singleQuote ++ "t cd to " ++ operands.headD target)

def markVariable (mark : Binding → Binding) (argument : String) : Action Unit := do
  let (name, value) := splitAtEqual argument
  if !isName name then fail (name ++ ": bad variable name")
  match value with
  | some value => setVariable name value
  | none => pure ()
  modify fun machine =>
    machine.bind (mark ((machine.binding? name).getD ⟨name, none, false, false⟩))

def runExport (arguments : List String) : Action Nat := do
  for argument in arguments do
    markVariable (fun binding => { binding with isExported := true }) argument
  return 0

def runReadonly (arguments : List String) : Action Nat := do
  for argument in arguments do
    markVariable (fun binding => { binding with isFixed := true }) argument
  return 0

def runLocal (arguments : List String) : Action Nat := do
  for argument in arguments do
    let (name, value) := splitAtEqual argument
    let machine ← get
    match machine.scopes with
    | [] => fail "not in a function"
    | scope :: scopes =>
      if !isName name then fail (name ++ ": bad variable name")
      set { machine with scopes := ((name, machine.binding? name) :: scope) :: scopes }
      match value with
      | some value => setVariable name value
      | none => pure ()
  if (← get).scopes.isEmpty then fail "not in a function"
  return 0

def runUnset (arguments : List String) : Action Nat := do
  let (options, operands) ← shellOptions ['f', 'v'] [] arguments
  for operand in operands do
    if options.any fun option => option.1 = 'f' then
      modify fun machine =>
        { machine with functions := machine.functions.filter fun pair => pair.1 ≠ operand }
    else if !isName operand then fail (operand ++ ": bad variable name")
    else unsetVariable operand
  return 0

def optionLetters : List Char := "efIimnsxvVECabup".toList

def setOption (isOn : Bool) (letter : Char) : Action Unit :=
  modify fun machine =>
    let others := machine.options.filter (· ≠ letter)
    { machine with options := if isOn then letter :: others else others }

def setOptions (isOn : Bool) : List Char → Action Unit
  | [] => pure ()
  | letter :: rest => do
    if optionLetters.contains letter then
      setOption isOn letter
      setOptions isOn rest
    else fail ("Illegal option -" ++ String.singleton letter)

def setAll : List String → Action Unit
  | [] => pure ()
  | word :: rest => do
    let setParameters (parameters : List String) : Action Unit :=
      modify fun machine => { machine with parameters }
    if word = "--" then setParameters rest
    else if word = "-" then
      setOption false 'x'
      setOption false 'v'
      if rest.isEmpty then pure () else setParameters rest
    else if word.startsWith "-" || word.startsWith "+" then
      setOptions (word.startsWith "-") (word.toList.drop 1)
      setAll rest
    else setParameters (word :: rest)

def runSet (arguments : List String) : Action Nat := do
  setAll arguments
  return 0

def runShift (arguments : List String) : Action Nat := do
  let count ← match arguments with
    | count :: _ => argumentNumber count
    | [] => pure 1
  if (← get).parameters.length < count then
    fail ("can" ++ String.singleton singleQuote ++ "t shift that many")
  modify fun machine => { machine with parameters := machine.parameters.drop count }
  return 0

def readLetters (isRaw : Bool) : List Char → List Letter × Bool
  | [] => ([], false)
  | char :: rest =>
    if char = backslash && !isRaw then
      match rest with
      | escaped :: rest =>
        let (letters, joins) := readLetters isRaw rest
        (⟨escaped, true⟩ :: letters, joins)
      | [] => ([], true)
    else
      let (letters, joins) := readLetters isRaw rest
      (⟨char, false⟩ :: letters, joins)

def takeJoined (isRaw : Bool) (channel : Nat) : Nat → Action (List Letter × Bool)
  | 0 => return ([], false)
  | fuel + 1 => do
    match ← takeLine channel with
    | .error _ => return ([], false)
    | .ok (line, hasEnd) =>
      let (letters, joins) := readLetters isRaw (line.toList.filter (·.toNat ≠ 0))
      if joins && hasEnd then
        let (others, hasEnd) ← takeJoined isRaw channel fuel
        return (letters ++ others, hasEnd)
      return (letters, hasEnd)

def distribute (separators : List Char) : List String → List Letter → List (String × String)
  | [], _ => []
  | name :: names, letters =>
    let separates (letter : Letter) : Bool := !letter.isQuoted && separators.contains letter.char
    let isGap (letter : Letter) : Bool :=
      separates letter && (isBlank letter.char || letter.char = '\n')
    let letters := letters.dropWhile isGap
    let field := letters.takeWhile fun letter => !separates letter
    let rest := (letters.drop field.length).dropWhile isGap
    let rest := match rest with
      | next :: after => if separates next then after.dropWhile isGap else rest
      | [] => []
    if names.isEmpty then
      let kept := if rest.isEmpty then field else (letters.reverse.dropWhile isGap).reverse
      [(name, textOfLetters kept)]
    else (name, textOfLetters field) :: distribute separators names rest

def runRead (arguments : List String) : Action Nat := do
  let (options, names) ← shellOptions ['p', 'r'] ['p'] arguments
  if names.isEmpty then fail "arg count"
  for name in names do
    if !isName name then fail (name ++ ": bad variable name")
  let machine ← get
  match machine.handles.lookup standardInput with
  | none => return 1
  | some channel =>
    let isRaw := options.any fun option => option.1 = 'r'
    let limit := (machine.contentOf channel).1.size + 1
    let (letters, hasEnd) ← takeJoined isRaw channel limit
    for (name, value) in distribute machine.separators names letters do
      setVariable name value
    return if hasEnd then 0 else 1

def deliver (delivery : Delivery) : Action Unit :=
  modify fun machine =>
    let world := delivery.writings.foldl (fun world writing =>
      (world.send writing.1 writing.2).1) machine.toWorld
    let tree := delivery.changes.foldl (fun (tree : FileTree) change =>
      match change with
      | (location, some entry) => tree.put location entry
      | (location, none) => ⟨tree.entries.filter fun pair => pair.1 ≠ location⟩) world.tree
    { machine with toWorld := { world with tree } }

def passTo (time : Nat) : Action Unit := do
  let machine ← get
  let isDue (delivery : Delivery) : Bool := delivery.due ≤ time
  set { machine with
    clock := max time machine.clock
    deliveries := machine.deliveries.filter fun delivery => !isDue delivery }
  let due := (machine.deliveries.filter isDue).mergeSort fun left right => left.due ≤ right.due
  for delivery in due do
    deliver delivery

def noteEnds (isNoted : Job → Bool) : Action Unit :=
  modify fun machine =>
    { machine with
      jobs := machine.jobs.map fun job => { job with isKnown := job.isKnown || isNoted job } }

def Machine.interruption? (machine : Machine) (time : Nat) : Option Sending :=
  machine.signals.find? fun sending =>
    sending.process = machine.process && machine.clock < sending.due && sending.due < time &&
      machine.traps.lookup sending.signal ≠ some "" && !harmlessSignals.contains sending.signal

def waitUpTo (time : Nat) : Action (Option Nat) := do
  match (← get).interruption? time with
  | some sending =>
    passTo sending.due
    return some (128 + sending.signal)
  | none =>
    passTo time
    return none

def runWait (arguments : List String) : Action Nat := do
  if arguments.isEmpty then
    for job in (← get).jobs do
      if let some early := ← waitUpTo job.due then return early
    noteEnds fun _ => true
    return 0
  let mut status := 0
  for argument in arguments do
    let process ← argumentNumber argument
    match (← get).jobs.find? fun job => job.process = process with
    | some job =>
      if let some early := ← waitUpTo job.due then return early
      noteEnds fun other => other.process = job.process
      match job.outcome with
      | .killed signal => if !job.isKnown then reportSignal signal
      | .exited _ => pure ()
      status := statusOf job.outcome
    | none => status := 127
  return status

def builtIn? (name : String) : Option (List String → Action Nat) :=
  match name with
  | ":" | "true" => some fun _ => return 0
  | "false" => some fun _ => return 1
  | "echo" => some (runEcho true)
  | "printf" => some (runPrintf true name)
  | "test" => some (runTest true false)
  | "[" => some (runTest true true)
  | "cd" | "chdir" => some runChange
  | "pwd" => some fun arguments => do
    let machine ← get
    let path := match arguments.contains "-P", machine.tree.resolve machine.directory with
      | true, .ok (.found location _) => location.path
      | _, _ => machine.directory
    print (octetsOfPath path ++ "\n")
    return 0
  | "export" => some runExport
  | "readonly" => some runReadonly
  | "local" => some runLocal
  | "unset" => some runUnset
  | "set" => some runSet
  | "shift" => some runShift
  | "read" => some runRead
  | "wait" => some runWait
  | "kill" => some runKill
  | "trap" => some runTrap
  | _ => none

end BuildWatch.Simulation.Shell
