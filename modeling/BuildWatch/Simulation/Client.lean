import BuildWatch.Simulation.Compiler

/-!
Callers of one scripted compiler on a clock that jumps from one due time to the next. Callers that
can go on take turns in the order in which they became able to. A compilation is started by a turn
of its own and reported by another; closing is both at once.
-/

namespace BuildWatch.Simulation

inductive Turn where
  | start (caller : Nat)
  | enter (caller : Nat)
  | proceed (caller : Nat)
  | finish (caller : Nat) (use : ClientUse)
  | report (caller : Nat)

structure FinishedCall where
  label : Int
  time : Time
  result : ClientResult

structure ClientRun where
  now : Time
  client : Client
  labels : List Int
  turns : List Turn
  due : Option (Time × Nat × ClientUse)
  compiler : ScriptedCompiler
  finished : List FinishedCall
  log : List LogEntry

namespace ClientRun

def start (script : List (ScriptedAnswer ClientUse)) (duration : Time) : ClientRun :=
  ⟨0, .idle, [], [], none, .start script duration, [], []⟩

def clear (run : ClientRun) : ClientRun :=
  { run with compiler := { run.compiler with calls := [] }, finished := [], log := [] }

def later (run : ClientRun) (turns : List Turn) : ClientRun :=
  { run with turns := run.turns ++ turns }

def report (run : ClientRun) (caller : Nat) : ClientRun :=
  match run.client.result? caller, run.labels[caller]? with
  | some result, some label =>
    { run with finished := run.finished ++ [⟨label, run.now, result⟩] }
  | _, _ => run

def nextHolder (client : Client) : List Turn :=
  (client.holder.map Turn.proceed).toList

def finish (run : ClientRun) (caller : Nat) (use : ClientUse) : ClientRun :=
  let client := run.client.finish caller use
  { run with client, compiler := run.compiler.leave, log := run.log ++ use.log }.later
    (nextHolder client ++ [Turn.report caller])

def goOn (run : ClientRun) (caller : Nat) (client : Client) : ClientRun :=
  let hadCompiler := run.client.holder = some caller
  let run := { run with client }
  match client.jobInUse? caller with
  | some (.compile request) =>
    let (compiler, use, duration) := run.compiler.ask run.now request
    let run := { run with compiler }
    if duration = 0 then run.finish caller use
    else { run with due := some (run.now + duration, caller, use) }
  | some .close =>
    let client := client.finish caller .closed
    { run with client, compiler := run.compiler.close }.later (nextHolder client) |>.report caller
  | none =>
    if (client.result? caller).isNone then run
    else run.later ((if hadCompiler then nextHolder client else []) ++ [Turn.report caller])

def take (run : ClientRun) : Turn → ClientRun
  | .start caller => run.later [.enter caller]
  | .enter caller => run.goOn caller (run.client.enter caller)
  | .proceed caller => run.goOn caller (run.client.proceed caller)
  | .finish caller use => run.finish caller use
  | .report caller => run.report caller

def settleWithin : Nat → ClientRun → ClientRun
  | 0, run => run
  | fuel + 1, run =>
    match run.turns with
    | [] => run
    | turn :: turns => settleWithin fuel ({ run with turns }.take turn)

def settle (run : ClientRun) : ClientRun :=
  settleWithin (5 * run.client.calls.length) run

def answer (run : ClientRun) (time : Time) (caller : Nat) (use : ClientUse) : ClientRun :=
  { run with now := time, due := none }.later [.finish caller use]

def advanceWithin (limit : Time) : Nat → ClientRun → ClientRun
  | 0, run => { run with now := limit }
  | fuel + 1, run =>
    match run.due with
    | some (time, caller, use) =>
      if time < limit then advanceWithin limit fuel (run.answer time caller use).settle
      else if time = limit then run.answer time caller use
      else { run with now := limit }
    | none => { run with now := limit }

/-- Lets time pass; every caller has at most one round trip. What is due at the end of that time
has not happened yet when it is reached. -/
def advance (run : ClientRun) (time : Time) : ClientRun :=
  if time = 0 then run
  else advanceWithin (run.now + min time longestWait) (run.client.calls.length + 1) run.settle

def call (run : ClientRun) (label : Int) (job : ClientJob) (isCancelled : Bool) : ClientRun :=
  let caller := run.client.calls.length
  let first := match job with
    | .compile _ => Turn.start caller
    | .close => Turn.enter caller
  { run with
    client := run.client.submit job isCancelled
    labels := run.labels ++ [label] }.later [first]

def caller? (run : ClientRun) (label : Int) : Option Nat :=
  (run.labels.zipIdx.findRev? fun pair => pair.1 = label).map (·.2)

def cancel (run : ClientRun) (label : Int) : ClientRun :=
  match run.caller? label with
  | some caller => { run with client := run.client.cancel caller }
  | none => run

end ClientRun

end BuildWatch.Simulation
