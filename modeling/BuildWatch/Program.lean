import BuildWatch.FileTree

/-!
Programs that are started from outside: the command, why it may be refused, and how it may end.
-/

namespace BuildWatch

structure Command where
  program : String
  arguments : List String
  directory : Path
  deriving DecidableEq

inductive StartFault where
  | refused (cause : FileError)
  | nulByte
  | noProgram (message : String)
  deriving DecidableEq, Repr

def StartFault.message : StartFault → String
  | refused cause => cause.message
  | nulByte => "nul byte found in provided data"
  | noProgram message => message

inductive ExitStatus where
  | exited (code : Nat)
  | killed (signal : Nat)
  deriving DecidableEq, Repr

/-- The names of the signals, from number 1 on. -/
def signalNames : List String := [
  "SIGHUP", "SIGINT", "SIGQUIT", "SIGILL", "SIGTRAP", "SIGABRT", "SIGBUS", "SIGFPE", "SIGKILL",
  "SIGUSR1", "SIGSEGV", "SIGUSR2", "SIGPIPE", "SIGALRM", "SIGTERM", "SIGSTKFLT", "SIGCHLD",
  "SIGCONT", "SIGSTOP", "SIGTSTP", "SIGTTIN", "SIGTTOU", "SIGURG", "SIGXCPU", "SIGXFSZ",
  "SIGVTALRM", "SIGPROF", "SIGWINCH", "SIGIO", "SIGPWR", "SIGSYS"]

def signalName? (signal : Nat) : Option String :=
  if signal = 0 then none else signalNames[signal - 1]?

def ExitStatus.display : ExitStatus → String
  | exited code => "exit status: " ++ toString code
  | killed signal =>
    "signal: " ++ toString signal ++
      match signalName? signal with
      | some name => " (" ++ name ++ ")"
      | none => ""

structure ProgramRun where
  status : ExitStatus
  output : ByteArray
  errors : ByteArray

end BuildWatch
