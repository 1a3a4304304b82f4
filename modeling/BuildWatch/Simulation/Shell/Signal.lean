import BuildWatch.Simulation.Shell.Machine

/-!
Signals: their names, what they do to a process that does not care for them, and the commands that
send them and prepare for them.
-/

namespace BuildWatch.Simulation.Shell

def signalCount : Nat := 65

def signalWord (signal : Nat) : String :=
  if signal = 0 then "EXIT"
  else match signalName? signal with
    | some name => dropped name 3
    | none =>
      if signal = 32 || signal = 33 then toString signal
      else if signal = 34 then "RTMIN"
      else if signal = 64 then "RTMAX"
      else if signal < 50 then "RTMIN+" ++ toString (signal - 34)
      else "RTMAX-" ++ toString (64 - signal)

def signalNumber? (lowest : Nat) (word : String) : Option Nat :=
  if word ≠ "" && word.toList.all Char.isDigit then
    word.toNat?.filter (· < signalCount)
  else
    ((List.range signalCount).drop lowest).find? fun signal =>
      signalWord signal = word.toUpper

def signalText (signal : Nat) : String :=
  let names := [
    "Hangup", "Interrupt", "Quit", "Illegal instruction", "Trace/breakpoint trap", "Aborted",
    "Bus error", "Floating point exception", "Killed", "User defined signal 1",
    "Segmentation fault", "User defined signal 2", "Broken pipe", "Alarm clock", "Terminated",
    "Stack fault", "Child exited", "Continued", "Stopped (signal)", "Stopped",
    "Stopped (tty input)", "Stopped (tty output)", "Urgent I/O condition",
    "CPU time limit exceeded", "File size limit exceeded", "Virtual timer expired",
    "Profiling timer expired", "Window changed", "I/O possible", "Power failure",
    "Bad system call"]
  match if signal = 0 then none else names[signal - 1]? with
  | some text => text
  | none =>
    if signal < 34 then "Unknown signal " ++ toString signal
    else "Real-time signal " ++ toString (signal - 34)

def harmlessSignals : List Nat := [17, 18, 23, 28]

def stoppingSignals : List Nat := [19, 20, 21, 22]

def unstoppableSignals : List Nat := [9, 19]

def reportSignal (signal : Nat) : Action Unit :=
  if signal = 2 || signal = 13 then pure () else complain (signalText signal ++ "\n")

def statusOf : ExitStatus → Nat
  | .exited code => code
  | .killed signal => 128 + signal

def receive (signal : Nat) : Action Unit := do
  let machine ← get
  let own := if unstoppableSignals.contains signal then none else machine.traps.lookup signal
  match own with
  | some "" => pure ()
  | some _ =>
    set { machine with
      signals := machine.signals ++ [Sending.mk machine.process signal machine.clock] }
  | none =>
    if harmlessSignals.contains signal then pure ()
    else if stoppingSignals.contains signal then throw .exhausted
    else throw (.killed signal)

def sendSignal (process signal : Nat) : Action Bool := do
  let machine ← get
  if process = machine.process || process = 0 then
    if signal ≠ 0 then receive signal
    return true
  if machine.ancestors.contains process then
    if signal ≠ 0 then
      set { machine with signals := machine.signals ++ [Sending.mk process signal machine.clock] }
    return true
  match machine.jobs.find? fun job => job.process = process && !job.isKnown with
  | some job =>
    if signal ≠ 0 && !harmlessSignals.contains signal && machine.clock < job.due then
      let ended (other : Job) : Job :=
        if other.process = process then
          { other with due := machine.clock, outcome := .killed signal }
        else other
      set { machine with
        jobs := machine.jobs.map ended
        deliveries := machine.deliveries.filter fun delivery => delivery.process ≠ process }
    return true
  | none => return false

def killUsage : String :=
  "Usage: kill [-s sigspec | -signum | -sigspec] [pid | job]... or\nkill -l [exitstatus]"

def argumentNumber (text : String) : Action Nat :=
  if text ≠ "" && text.toList.all Char.isDigit && digitsValue 10 text.toList < 1 <<< 31 then
    return digitsValue 10 text.toList
  else fail ("Illegal number: " ++ text)

def sendToAll (signal : Nat) (processes : List String) : Action Nat := do
  let mut status := 0
  for process in processes do
    let isGroup := process.startsWith "-"
    let number ← argumentNumber (if isGroup then dropped process 1 else process)
    if isGroup || !(← sendSignal number signal) then
      shellError "No such process\n"
      status := 1
  return status

def listSignals (arguments : List String) : Action Nat := do
  match arguments with
  | [] =>
    print (unlines ("0" :: ((List.range signalCount).drop 1).map signalWord))
    return 0
  | status :: _ =>
    let number ← argumentNumber status
    let signal := if number > 128 then number - 128 else number
    if signal = 0 || signalCount ≤ signal then
      fail ("invalid signal number or exit status: " ++ status)
    print (signalWord signal ++ "\n")
    return 0

def runKill (arguments : List String) : Action Nat := do
  let send (signal : Nat) (processes : List String) : Action Nat :=
    if processes.isEmpty then fail killUsage else sendToAll signal processes
  let sendNamed (name : String) (processes : List String) : Action Nat :=
    match signalNumber? 1 name with
    | some signal => send signal processes
    | none => fail ("invalid signal number or name: " ++ name)
  match arguments with
  | [] => fail killUsage
  | first :: rest =>
    if first = "--" then send 15 rest
    else if first.startsWith "-" && first ≠ "-" then
      let letters := dropped first 1
      match signalNumber? 1 letters with
      | some signal => send signal (if rest.head? = some "--" then rest.drop 1 else rest)
      | none =>
        match letters.toList with
        | 'l' :: [] => listSignals rest
        | 's' :: [] =>
          match rest with
          | name :: processes => sendNamed name processes
          | [] => fail "No arg for -s option"
        | 's' :: name => sendNamed (String.ofList name) rest
        | letter :: _ => fail ("Illegal option -" ++ String.singleton letter)
        | [] => fail killUsage
    else send 15 arguments

def runTrap (arguments : List String) : Action Nat := do
  let arguments := if arguments.head? = some "--" then arguments.drop 1 else arguments
  match arguments with
  | [] => return 0
  | first :: rest =>
    let resets := rest.isEmpty || (signalNumber? 0 first).isSome && first.toList.all Char.isDigit
    let action := if resets || first = "-" then none else some first
    for word in if resets then arguments else rest do
      match signalNumber? 0 word with
      | none =>
        complain ("trap: " ++ word ++ ": bad trap\n")
        return 1
      | some signal =>
        modify fun machine =>
          let others := machine.traps.filter fun pair => pair.1 ≠ signal
          { machine with traps := (action.toList.map fun action => (signal, action)) ++ others }
    return 0

end BuildWatch.Simulation.Shell
