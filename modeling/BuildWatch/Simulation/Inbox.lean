import BuildWatch.Change

/-!
A bounded queue of changes between one sender and one receiver.
-/

namespace BuildWatch.Simulation

inductive Sent where
  | ok
  | full
  | closed
  | noSender
  deriving DecidableEq, Repr

structure Inbox where
  items : List Change
  size : Nat
  hasSender : Bool
  deriving DecidableEq, Repr

namespace Inbox

def ofSize (size : Nat) : Inbox := ⟨[], max 1 size, true⟩

def send (inbox : Inbox) (hasReceiver : Bool) (change : Change) : Sent × Inbox :=
  if !inbox.hasSender then (.noSender, inbox)
  else if !hasReceiver then (.closed, inbox)
  else if inbox.size ≤ inbox.items.length then (.full, inbox)
  else (.ok, { inbox with items := inbox.items ++ [change] })

def sendAll (inbox : Inbox) (hasReceiver : Bool) : List Change → List Sent × Inbox
  | [] => ([], inbox)
  | change :: rest =>
    let (sent, inbox) := inbox.send hasReceiver change
    let (others, inbox) := inbox.sendAll hasReceiver rest
    (sent :: others, inbox)

def pop (inbox : Inbox) : Inbox := { inbox with items := inbox.items.drop 1 }

def isOver (inbox : Inbox) : Bool := inbox.items.isEmpty && !inbox.hasSender

end Inbox

end BuildWatch.Simulation
