import BuildWatch.Compiler.Decode
import BuildWatch.Compiler.Stream

/-!
Frames: a message led by its length in four bytes, the highest first, and at most
`Frame.longest` bytes long. Both directions share one scratch buffer, which grows to powers of two
and never shrinks; what it held before does not show in a frame.
-/

namespace BuildWatch

inductive WireError where
  | channel (fault : ChannelFault)
  | tooLarge (length : Nat)
  | encode
  | decode (error : DecodeError)
  | closed
  deriving DecidableEq, Repr

def WireError.message : WireError → String
  | channel fault => String.join ["io: ", fault.message]
  | tooLarge length => String.join ["message size is too large: ", toString length]
  | encode => "encode: the message does not fit its frame"
  | decode error => String.join ["decode: ", error.message]
  | closed => "peer closed the channel"

namespace Frame

/-- The longest message that is sent or received. -/
def longest : Nat := 64 * 1024 * 1024

def headerSize : Nat := 4

def header (length : Nat) : ByteArray :=
  [UInt8.ofNat (length >>> 24), UInt8.ofNat (length >>> 16), UInt8.ofNat (length >>> 8),
    UInt8.ofNat length].toByteArray

def headerValue (bytes : ByteArray) : Nat :=
  bytes.data.toList.foldl (fun value byte => value * 256 + byte.toNat) 0

end Frame

/-- The scratch buffer. -/
structure FrameBuffer where
  bytes : ByteArray

namespace FrameBuffer

def fresh : FrameBuffer := ⟨ByteArray.empty⟩

def capacity (buffer : FrameBuffer) : Nat := buffer.bytes.size

def zeros (count : Nat) : ByteArray :=
  if count = 0 then ByteArray.empty
  else
    let half := zeros (count / 2)
    if count % 2 = 0 then half ++ half else (half ++ half).push 0

def roundUp (count : Nat) : Nat :=
  if count ≤ 1 then 1 else 1 <<< ((count - 1).log2 + 1)

/-- A buffer with room for `length` bytes: this one, or a larger one in its place. -/
def scratch (buffer : FrameBuffer) (length : Nat) : FrameBuffer :=
  if buffer.capacity < length then ⟨zeros (roundUp length)⟩ else buffer

def fill (buffer : FrameBuffer) (position : Nat) (bytes : ByteArray) : FrameBuffer :=
  ⟨bytes.copySlice 0 buffer.bytes position bytes.size⟩

def take (buffer : FrameBuffer) (length : Nat) : ByteArray :=
  buffer.bytes.extract 0 length

def frame [Message α] (buffer : FrameBuffer) (message : α) :
    Except WireError ByteArray × FrameBuffer :=
  let length := Message.size message
  if Frame.longest < length then (.error (.tooLarge length), buffer)
  else
    let room := (buffer.scratch (Frame.headerSize + length)).fill 0 (Frame.header length)
    let payload := Message.encode message
    if payload.size = length then
      let filled := room.fill Frame.headerSize payload
      (.ok (filled.take (Frame.headerSize + length)), filled)
    else (.error .encode, room)

def write [Message α] (buffer : FrameBuffer) (sink : Sink) (message : α) :
    Except WireError Unit × FrameBuffer × Sink :=
  match buffer.frame message with
  | (.error error, buffer) => (.error error, buffer, sink)
  | (.ok frame, buffer) =>
    match sink.write frame 0 with
    | (.error fault, sink) => (.error (.channel fault), buffer, sink)
    | (.ok _, sink) => (.ok (), buffer, sink)

/-- Receives the length of the next message; a stream that ends before it is closed, one that
ends inside it is torn. -/
def readHeader (source : Source) : Except WireError Nat × Source :=
  let gathered := source.gather Frame.headerSize ByteArray.empty
  (match gathered.stop with
    | .complete => .ok (Frame.headerValue gathered.bytes)
    | .ended =>
      if gathered.bytes.size = 0 then .error .closed else .error (.channel .unexpectedEnd)
    | .failed fault => .error (.channel fault),
    gathered.source)

def readFrame (buffer : FrameBuffer) (source : Source) :
    Except WireError ByteArray × FrameBuffer × Source :=
  match readHeader source with
  | (.error error, source) => (.error error, buffer, source)
  | (.ok length, source) =>
    if Frame.longest < length then (.error (.tooLarge length), buffer, source)
    else
      let gathered := source.gather length ByteArray.empty
      let filled := (buffer.scratch length).fill 0 gathered.bytes
      (match gathered.stop with
        | .complete => .ok (filled.take length)
        | .ended => .error (.channel .earlyEnd)
        | .failed fault => .error (.channel fault),
        filled, gathered.source)

def read [Message α] (buffer : FrameBuffer) (source : Source) :
    Except WireError α × FrameBuffer × Source :=
  match buffer.readFrame source with
  | (.error error, buffer, source) => (.error error, buffer, source)
  | (.ok payload, buffer, source) =>
    ((Message.decode payload).mapError .decode, buffer, source)

end FrameBuffer

end BuildWatch
