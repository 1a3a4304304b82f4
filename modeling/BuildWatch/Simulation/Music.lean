import BuildWatch.Broadcast.Basic
import BuildWatch.Music.System
import BuildWatch.Simulation.Compiler
import BuildWatch.Simulation.Inbox

/-!
The music loop with a scripted song compiler on a clock that jumps from one due time to the next.
A call that takes time ends as soon as its build is cancelled, unless the song compiler does not
care. When the script is used up a rule decides; the usual one is that a call succeeds with its own
number as its only byte.
-/

namespace BuildWatch.Simulation

structure ScriptedSongs where
  script : List (ScriptedAnswer SongResult)
  rule : Nat → Path → SongResult
  duration : Time
  ignoresCancel : Bool
  count : Nat
  active : Nat
  mostActive : Nat
  calls : List (Time × Path)

/-- A call that is under way: when it ends, for which build, and how; whether cancelling its build
ends it. -/
structure PendingSong where
  time : Time
  build : Nat
  result : SongResult
  canBeCut : Bool

namespace ScriptedSongs

def usualResult (number : Nat) (_ : Path) : SongResult :=
  .ok (.ok [UInt8.ofNat number].toByteArray)

def start (script : List (ScriptedAnswer SongResult)) (duration : Time) (ignoresCancel : Bool) :
    ScriptedSongs :=
  ⟨script, usualResult, duration, ignoresCancel, 0, 0, 0, []⟩

def ofRule (rule : Path → SongResult) : ScriptedSongs :=
  { start [] 0 false with rule := fun _ => rule }

def ask (songs : ScriptedSongs) (now : Time) (build : Nat) (songList : Path) :
    ScriptedSongs × PendingSong :=
  let next := songs.script.head?
  let duration := (next.bind ScriptedAnswer.duration).getD songs.duration
  let result := (next.bind ScriptedAnswer.answer).getD (songs.rule (songs.count + 1) songList)
  ({ songs with
      script := songs.script.drop 1
      count := songs.count + 1
      active := songs.active + 1
      mostActive := max songs.mostActive (songs.active + 1)
      calls := songs.calls ++ [(now, songList)] },
    ⟨now + duration, build, result, duration ≠ 0 && !songs.ignoresCancel⟩)

def leave (songs : ScriptedSongs) : ScriptedSongs :=
  { songs with active := songs.active - 1 }

end ScriptedSongs

structure MusicRun where
  system : MusicSystem
  inbox : Inbox
  songs : ScriptedSongs
  due : Option PendingSong
  states : Broadcaster MusicState
  stopRequested : Bool
  published : List MusicState
  log : List LogEntry

namespace MusicRun

def create (system : MusicSystem) (inbox : Inbox) (songs : ScriptedSongs) (capacity : Nat) :
    MusicRun :=
  ⟨system, inbox, songs, none, .create .loading capacity, false, [], []⟩

def clear (run : MusicRun) : MusicRun :=
  { run with songs := { run.songs with calls := [] }, published := [], log := [] }

def answer? (run : MusicRun) (task : SongTask) : Option SongResult :=
  match run.due with
  | some due =>
    if due.build ≠ task.number then none
    else if task.isCancelled && due.canBeCut then some (.ok (.error .cancelled))
    else if due.time ≤ run.system.now then some due.result
    else none
  | none => none

def taskAction? (run : MusicRun) (task : SongTask) : Option MusicAction :=
  match task.stage with
  | .waiting => some (.begin task.number)
  | .compiling => (run.answer? task).map (.answer task.number)
  | .finished _ => none

def next? (run : MusicRun) : Option MusicAction :=
  let background := run.system.tasks.findSome? run.taskAction?
  match run.system.stage with
  | .stopped => background
  | .stopping => background.or (some .leave)
  | .running =>
    if run.stopRequested then some .stop
    else match run.inbox.items with
    | change :: _ => some (.change change)
    | [] =>
      if run.inbox.isOver then some .stop
      else if run.system.builder.delay.isDue run.system.now then some .wake
      else if run.system.tasks.any SongTask.isFinished then some .finish
      else background

def record (run : MusicRun) : MusicEffect → MusicRun
  | .log entry => { run with log := run.log ++ [entry] }
  | .publish state =>
    { run with
      states := run.states.publish state
      published := run.published ++ [state]
      log := run.log ++ run.states.publishLog state }
  | .start _ | .cancel _ => run

def account (run : MusicRun) : MusicAction → MusicRun
  | .change _ => { run with inbox := run.inbox.pop }
  | .begin build =>
    let (songs, due) := run.songs.ask run.system.now build run.system.builder.songList
    { run with songs, due := some due }
  | .answer _ _ => { run with songs := run.songs.leave, due := none }
  | _ => run

def adopt (run : MusicRun) (moved : MusicSystem × List MusicEffect) : MusicRun :=
  moved.2.foldl record { run with system := moved.1 }

def take (run : MusicRun) (action : MusicAction) : MusicRun :=
  match run.system.step? action with
  | some moved => (run.account action).adopt moved
  | none => run

def canTake (run : MusicRun) (action : MusicAction) : Bool :=
  (run.system.step? action).isSome

def settleWithin : Nat → MusicRun → MusicRun
  | 0, run => run
  | fuel + 1, run =>
    match run.next? with
    | some action =>
      if run.canTake action then settleWithin fuel (run.take action) else run
    | none => run

/-- Lets everything happen that is due. A change causes at most two wakes and one build, and a
build takes at most three actions. -/
def settle (run : MusicRun) : MusicRun :=
  settleWithin (8 * (run.inbox.items.length + 4)) run

def start (run : MusicRun) : MusicRun :=
  (run.adopt run.system.begin).settle

def nextTime? (run : MusicRun) : Option Time :=
  let answer := run.due.map PendingSong.time
  let wake :=
    if run.system.stage = .running then run.system.builder.delay.nextWake run.system.now
    else none
  match answer, wake with
  | some answer, some wake => some (min answer wake)
  | some answer, none => some answer
  | none, wake => wake

def passTo (run : MusicRun) (time : Time) : MusicRun :=
  run.take (.pass (time - run.system.now))

def advanceWithin (limit : Time) : Nat → MusicRun → MusicRun
  | 0, run => run.passTo limit
  | fuel + 1, run =>
    match run.nextTime? with
    | some time =>
      if time ≤ limit then advanceWithin limit fuel (run.passTo time).settle
      else run.passTo limit
    | none => run.passTo limit

/-- Lets time pass. Without changes the timer wakes at most twice, and the build that runs is
followed by at most two more. -/
def advance (run : MusicRun) (time : Time) : MusicRun :=
  advanceWithin (run.system.now + min time longestWait) 8 run

def send (run : MusicRun) (changes : List Change) : List Sent × MusicRun :=
  let (sent, inbox) := run.inbox.sendAll (run.system.stage ≠ .stopped) changes
  (sent, { run with inbox })

end MusicRun

end BuildWatch.Simulation
