import BuildWatch.SystemError

/-!
The two ends of the channel to the compiler. A stream moves bytes in pieces whose size it chooses
itself: `pace` bounds the piece of each turn, and a turn always moves at least one byte. Reading
for a number of bytes therefore goes on until they are there or the stream stops.
-/

namespace BuildWatch

inductive ChannelFault where
  | unexpectedEnd
  | earlyEnd
  | brokenPipe
  | reset
  | system (number : Nat)
  deriving DecidableEq, Repr

def ChannelFault.message : ChannelFault → String
  | unexpectedEnd => "unexpected end of file"
  | earlyEnd => "early eof"
  | brokenPipe => "broken pipe"
  | reset => "connection reset"
  | system number => systemErrorText number

inductive Ending where
  | closed
  | broken (fault : ChannelFault)
  deriving DecidableEq, Repr

/-- A stream that is read, up to `position` so far. -/
structure Source where
  bytes : ByteArray
  position : Nat
  pace : Nat → Nat
  turns : Nat
  ending : Ending

/-- More bytes than a turn can be asked to move. -/
def fullPace : Nat → Nat := fun _ => 1 <<< 64

namespace Source

def ofBytes (bytes : ByteArray) : Source := ⟨bytes, 0, fullPace, 0, .closed⟩

def left (source : Source) : Nat :=
  source.bytes.size - source.position

def feed (source : Source) (bytes : ByteArray) : Source :=
  { source with
    bytes := source.bytes.extract source.position source.bytes.size ++ bytes
    position := 0 }

def nextCount (source : Source) (wanted : Nat) : Nat :=
  min wanted (min source.left (max 1 (source.pace source.turns)))

def read (source : Source) (wanted : Nat) : Except ChannelFault ByteArray × Source :=
  if source.left = 0 then
    match source.ending with
    | .closed => (.ok ByteArray.empty, source)
    | .broken fault => (.error fault, source)
  else
    let count := source.nextCount wanted
    (.ok (source.bytes.extract source.position (source.position + count)),
      { source with position := source.position + count, turns := source.turns + 1 })

end Source

inductive Stop where
  | complete
  | ended
  | failed (fault : ChannelFault)
  deriving DecidableEq, Repr

structure Gathered where
  bytes : ByteArray
  stop : Stop
  source : Source

namespace Source

def gather (source : Source) (missing : Nat) (got : ByteArray) : Gathered :=
  if missing = 0 then ⟨got, .complete, source⟩
  else match source.read missing with
    | (.error fault, after) => ⟨got, .failed fault, after⟩
    | (.ok piece, after) =>
      if piece.size = 0 then ⟨got, .ended, after⟩
      else gather after (missing - piece.size) (got ++ piece)
termination_by missing

end Source

structure Sink where
  bytes : ByteArray
  pace : Nat → Nat
  turns : Nat
  room : Option Nat

namespace Sink

def empty : Sink := ⟨ByteArray.empty, fullPace, 0, none⟩

def nextCount (sink : Sink) (offered : Nat) : Nat :=
  min offered (min (sink.room.getD offered) (max 1 (sink.pace sink.turns)))

def write (sink : Sink) (bytes : ByteArray) (position : Nat) : Except ChannelFault Unit × Sink :=
  if position < bytes.size then
    let count := sink.nextCount (bytes.size - position)
    if count = 0 then (.error .brokenPipe, sink)
    else
      let after : Sink := { sink with
        bytes := sink.bytes ++ bytes.extract position (position + count)
        turns := sink.turns + 1
        room := sink.room.map (· - count) }
      write after bytes (position + count)
  else (.ok (), sink)
termination_by bytes.size - position

end Sink

end BuildWatch
