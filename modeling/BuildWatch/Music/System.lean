import BuildWatch.LoopStage
import BuildWatch.Music.Basic

/-!
The music loop together with the tasks of its builds and the time. Every action that can happen is
a step; which of those that are possible comes next is left open. When the loop ends it cancels the
build that runs and waits for it, however long that takes.
-/

namespace BuildWatch

inductive SongStage where
  | waiting
  | compiling
  | finished (result : SongResult)

structure SongTask where
  number : Nat
  isCancelled : Bool
  stage : SongStage

def SongTask.isFinished (task : SongTask) : Bool :=
  match task.stage with
  | .finished _ => true
  | .waiting | .compiling => false

structure MusicSystem where
  now : Time
  builder : MusicBuilder
  tasks : List SongTask
  stage : LoopStage

inductive MusicAction where
  | pass (time : Time)
  | change (change : Change)
  | wake
  | finish
  | stop
  | leave
  | begin (build : Nat)
  | answer (build : Nat) (result : SongResult)

namespace MusicSystem

def create (musicDir : Path) (debounce : Time) : MusicSystem :=
  ⟨0, .create musicDir debounce, [], .running⟩

def task? (system : MusicSystem) (build : Nat) : Option SongTask :=
  system.tasks.find? fun task => task.number = build

def mapTask (system : MusicSystem) (build : Nat) (change : SongTask → SongTask) : MusicSystem :=
  { system with
    tasks := system.tasks.map fun task => if task.number = build then change task else task }

def setStage (system : MusicSystem) (build : Nat) (stage : SongStage) : MusicSystem :=
  system.mapTask build fun task => { task with stage }

def dropTask (system : MusicSystem) (build : Nat) : MusicSystem :=
  { system with tasks := system.tasks.filter fun task => task.number ≠ build }

def perform (system : MusicSystem) : MusicEffect → MusicSystem
  | .log _ | .publish _ => system
  | .start build => { system with tasks := system.tasks ++ [⟨build, false, .waiting⟩] }
  | .cancel build => system.mapTask build fun task => { task with isCancelled := true }

/-- The loop goes on with a new state and does what it has decided, starting the build that it
wants if it can. -/
def goOn (system : MusicSystem) (builder : MusicBuilder) (effects : List MusicEffect) :
    MusicSystem × List MusicEffect :=
  let (builder, more) := builder.launch
  let effects := effects ++ more
  (effects.foldl perform { system with builder }, effects)

def begin (system : MusicSystem) : MusicSystem × List MusicEffect :=
  system.goOn system.builder []

def loopStep? (system : MusicSystem) : MusicAction → Option (MusicSystem × List MusicEffect)
  | .change change =>
    let (builder, effects) := system.builder.onChange system.now change
    some (system.goOn builder effects)
  | .wake =>
    if system.builder.delay.isDue system.now then
      some (system.goOn (system.builder.onWake system.now) [])
    else none
  | .finish =>
    match system.builder.running.bind fun running => system.task? running.number with
    | some ⟨build, _, .finished result⟩ =>
      let (builder, effects) := system.builder.onFinished result
      some ((system.dropTask build).goOn builder effects)
    | _ => none
  | .stop =>
    let (builder, effects) := system.builder.stop
    some (effects.foldl perform { system with builder, stage := .stopping }, effects)
  | _ => none

def taskStep? (system : MusicSystem) (task : SongTask) :
    MusicAction → Option (MusicSystem × List MusicEffect)
  | .begin _ =>
    match task.stage with
    | .waiting => some (system.setStage task.number .compiling, [])
    | .compiling | .finished _ => none
  | .answer _ result =>
    match task.stage with
    | .compiling => some (system.setStage task.number (.finished result), [])
    | .waiting | .finished _ => none
  | _ => none

def leave? (system : MusicSystem) : Option (MusicSystem × List MusicEffect) :=
  if system.stage = .stopping ∧ system.tasks.all SongTask.isFinished = true then
    some ({ system with stage := .stopped, tasks := [] }, [MusicBuilder.farewell])
  else none

/-- The system after an action and what was done, or nothing if the action is not possible. -/
def step? (system : MusicSystem) : MusicAction → Option (MusicSystem × List MusicEffect)
  | .pass time => some ({ system with now := system.now + time }, [])
  | .begin build => (system.task? build).bind (system.taskStep? · (.begin build))
  | .answer build result => (system.task? build).bind (system.taskStep? · (.answer build result))
  | .leave => system.leave?
  | action => if system.stage = .running then system.loopStep? action else none

end MusicSystem

end BuildWatch
