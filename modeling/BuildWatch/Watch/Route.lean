import BuildWatch.Change
import BuildWatch.Log

/-!
Passing changes on: those of the project file and of sources to the code build, those of the music
to the music build, in order, until a receiver is gone.
-/

namespace BuildWatch

/-- The two receivers of changes. -/
inductive Receiver where
  | code
  | music
  deriving DecidableEq, Repr

def Change.receiver : Change → Receiver
  | .config | .source => .code
  | .music => .music

structure Delivery where
  delivered : List Change
  log : List LogEntry
  isComplete : Bool
  deriving DecidableEq, Repr

def route (isOpen : Receiver → Bool) : List Change → Delivery
  | [] => ⟨[], [], true⟩
  | change :: rest =>
    let entry := LogEntry.info "watch" (change.label ++ " changed")
    if isOpen change.receiver then
      let after := route isOpen rest
      ⟨change :: after.delivered, entry :: after.log, after.isComplete⟩
    else ⟨[], [entry], false⟩

end BuildWatch
