import BuildWatch.Compiler.Error
import BuildWatch.Compiler.Outcome

/-!
Sharing one compiler among callers. The compiler is lent to one caller at a time, to those who wait
in the order in which they came. A caller that was cancelled before it has the compiler goes away
without using it; once the compiler has been asked, the answer is waited for.
-/

namespace BuildWatch

def conclude : Except CompileError Response → Except CompileError Compiled
  | .ok response => response.finish.mapError .failed
  | .error error => .error error

def answerLog : Except CompileError Response → List LogEntry
  | .ok response => response.log
  | .error _ => []

inductive ClientJob where
  | compile (request : Request)
  | close
  deriving DecidableEq

inductive ClientUse where
  | answered (answer : Except CompileError Response)
  | closed
  | crashed (message : String)

inductive ClientResult where
  | compiled (result : Except CompileError Compiled)
  | closed
  | crashed (message : String)

def ClientUse.result : ClientUse → ClientResult
  | answered answer => .compiled (conclude answer)
  | closed => .closed
  | crashed message => .crashed message

def ClientUse.log : ClientUse → List LogEntry
  | answered answer => answerLog answer
  | closed | crashed _ => []

inductive CallStage where
  | arriving
  | asking
  | waiting
  | lent
  | using
  | done (result : ClientResult)

structure ClientCall where
  job : ClientJob
  isCancelled : Bool
  stage : CallStage

def ClientCall.isUnwanted (call : ClientCall) : Bool :=
  match call.job with
  | .compile _ => call.isCancelled
  | .close => false

/-- The callers by their numbers, the one that has the compiler, and those who wait for it. -/
structure Client where
  calls : List ClientCall
  holder : Option Nat
  queue : List Nat

namespace Client

def idle : Client := ⟨[], none, []⟩

def submit (client : Client) (job : ClientJob) (isCancelled : Bool) : Client :=
  { client with calls := client.calls ++ [⟨job, isCancelled, .arriving⟩] }

def setStage (client : Client) (caller : Nat) (stage : CallStage) : Client :=
  { client with calls := client.calls.modify caller fun call => { call with stage } }

def cancel (client : Client) (caller : Nat) : Client :=
  { client with
    calls := client.calls.modify caller fun call => { call with isCancelled := true } }

def giveUp (client : Client) (caller : Nat) : Client :=
  client.setStage caller (.done (.compiled (.error .cancelled)))

def release (client : Client) : Client :=
  match client.queue with
  | [] => { client with holder := none }
  | next :: queue => { client with holder := some next, queue }.setStage next .lent

def check (client : Client) (caller : Nat) : Client :=
  match client.calls[caller]? with
  | some ⟨job, isCancelled, .arriving⟩ =>
    if ClientCall.isUnwanted ⟨job, isCancelled, .arriving⟩ then client.giveUp caller
    else client.setStage caller .asking
  | _ => client

def acquire (client : Client) (caller : Nat) : Client :=
  match client.calls[caller]? with
  | some ⟨_, _, .asking⟩ =>
    if client.holder.isSome then
      { client with queue := client.queue ++ [caller] }.setStage caller .waiting
    else { client with holder := some caller }.setStage caller .lent
  | _ => client

def proceed (client : Client) (caller : Nat) : Client :=
  match client.calls[caller]? with
  | some ⟨job, isCancelled, .lent⟩ =>
    if ClientCall.isUnwanted ⟨job, isCancelled, .lent⟩ then (client.giveUp caller).release
    else client.setStage caller .using
  | _ => client

def enter (client : Client) (caller : Nat) : Client :=
  ((client.check caller).acquire caller).proceed caller

def finish (client : Client) (caller : Nat) (use : ClientUse) : Client :=
  match client.calls[caller]? with
  | some ⟨_, _, .using⟩ => (client.setStage caller (.done use.result)).release
  | _ => client

def jobInUse? (client : Client) (caller : Nat) : Option ClientJob :=
  match client.calls[caller]? with
  | some ⟨job, _, .using⟩ => some job
  | _ => none

def result? (client : Client) (caller : Nat) : Option ClientResult :=
  match client.calls[caller]? with
  | some ⟨_, _, .done result⟩ => some result
  | _ => none

end Client

end BuildWatch
