import BuildWatch.Coordinator
import BuildWatch.Watch.Route

/-!
The watcher at its work, between the notices of the file system and the queues of the two build
loops. It takes a batch of notices and looks at their paths one after the other, with the source
directory as it is known at that moment. Then it passes on each kind of change that it has found,
and waits as long as the queue of the receiver is full.
-/

namespace BuildWatch

/-- How far the watcher has come. It gives up when a receiver is gone. -/
inductive WatchStage where
  | working
  | finished
  | failed (receiver : Receiver)
  deriving DecidableEq, Repr

/-- The watcher with the paths of its batch that it has not looked at, the changes that it has
found and not passed on, and the one of them that it has announced. -/
structure Dispatch where
  classifier : Classifier
  notices : List Notice
  isCutOff : Bool
  paths : List Path
  found : List Change
  announced : Option Change
  stage : WatchStage
  waiting : Receiver → List Change
  isStopping : Bool

inductive DispatchAction where
  | notify (notice : Notice)
  | cutOff
  | shutDown
  | take (count : Nat)
  | classify
  | announce
  | send
  | fail
  | finish

inductive LoopInput where
  | clock
  | change (change : Change)
  | stop
  | nothing

namespace Dispatch

def create (classifier : Classifier) : Dispatch where
  classifier := classifier
  notices := []
  isCutOff := false
  paths := []
  found := []
  announced := none
  stage := .working
  waiting := fun _ => []
  isStopping := false

def knowing (dispatch : Dispatch) (sourceDir : Option Path) : Classifier :=
  { dispatch.classifier with sourceDir }

/-- The changes to be passed on, each once and in order. -/
def pending (dispatch : Dispatch) : List Change :=
  Change.all.filter fun change => change ∈ dispatch.found

def next? (dispatch : Dispatch) : Option Change :=
  if dispatch.stage = .working ∧ dispatch.paths = [] ∧ dispatch.announced = none then
    dispatch.pending.head?
  else none

def isIdle (dispatch : Dispatch) : Bool :=
  dispatch.stage = .working && dispatch.paths.isEmpty && dispatch.found.isEmpty

def changedPaths (notices : List Notice) : List Path :=
  (notices.filter fun notice => notice.kind.isChange).flatMap Notice.paths

def setWaiting (dispatch : Dispatch) (receiver : Receiver) (changes : List Change) : Dispatch :=
  { dispatch with
    waiting := fun other => if other = receiver then changes else dispatch.waiting other }

def taken (dispatch : Dispatch) (count : Nat) : Dispatch :=
  { dispatch with
    notices := dispatch.notices.drop count
    paths := changedPaths (dispatch.notices.take count) }

def sent (dispatch : Dispatch) (change : Change) : Dispatch :=
  { dispatch.setWaiting change.receiver (dispatch.waiting change.receiver ++ [change]) with
    found := dispatch.found.filter fun other => other ≠ change
    announced := none }

def isFull (dispatch : Dispatch) (receiver : Receiver) : Bool :=
  changeCapacity ≤ (dispatch.waiting receiver).length

def isOver (dispatch : Dispatch) : Bool :=
  dispatch.isStopping || (dispatch.isCutOff && dispatch.notices.isEmpty)

/-- The watcher after an action and what it logs, if the action is possible, for a source directory
and receivers that are still there. -/
def step? (dispatch : Dispatch) (sourceDir : Option Path) (isOpen : Receiver → Bool) :
    DispatchAction → Option (Dispatch × List LogEntry)
  | .notify notice =>
    if dispatch.isCutOff then none
    else some ({ dispatch with notices := dispatch.notices ++ [notice] }, [])
  | .cutOff => some ({ dispatch with isCutOff := true }, [])
  | .shutDown => some ({ dispatch with isStopping := true }, [])
  | .take count =>
    if dispatch.isIdle = true ∧ dispatch.isStopping = false ∧ 0 < count ∧
        count ≤ dispatch.notices.length then
      some (dispatch.taken count, [])
    else none
  | .classify =>
    match dispatch.stage, dispatch.paths with
    | .working, path :: rest =>
      let change := (dispatch.knowing sourceDir).classify path
      some ({ dispatch with paths := rest, found := dispatch.found ++ change.toList }, [])
    | _, _ => none
  | .announce =>
    dispatch.next?.map fun change =>
      ({ dispatch with announced := some change }, [.info "watch" (change.label ++ " changed")])
  | .send =>
    match dispatch.announced with
    | some change =>
      if dispatch.stage = .working ∧ isOpen change.receiver = true ∧
          dispatch.isFull change.receiver = false then some (dispatch.sent change, [])
      else none
    | none => none
  | .fail =>
    match dispatch.announced with
    | some change =>
      if dispatch.stage = .working ∧ isOpen change.receiver = false then
        some ({ dispatch with stage := .failed change.receiver }, [])
      else none
    | none => none
  | .finish =>
    if dispatch.isIdle = true ∧ dispatch.isOver = true then
      some ({ dispatch with stage := .finished }, [])
    else none

/-- The watcher's side of an action of a build loop: the loop takes in the oldest change, and it
stops when it is told to or when no change can come any more. -/
def admit? (dispatch : Dispatch) (receiver : Receiver) : LoopInput → Option Dispatch
  | .clock => none
  | .change change =>
    match dispatch.waiting receiver with
    | first :: rest => if first = change then some (dispatch.setWaiting receiver rest) else none
    | [] => none
  | .stop =>
    if dispatch.isStopping = true ∨
        (dispatch.stage ≠ .working ∧ dispatch.waiting receiver = []) then
      some dispatch
    else none
  | .nothing => some dispatch

end Dispatch

end BuildWatch
