import BuildWatch.Proofs.Compiler.Codec
import BuildWatch.Proofs.Compiler.Frame

/-!
The traffic of a channel: frames and messages of the four kinds, one after another. What is
received depends on the bytes that are left and on nothing else, so it is what the grammar says.
-/

namespace BuildWatch

inductive Packet where
  | request (message : Request)
  | response (message : Response)
  | define (message : Define)
  | finding (message : Finding)
  deriving DecidableEq

inductive PacketKind where
  | request
  | response
  | define
  | finding
  deriving DecidableEq, Repr

namespace Packet

def kind : Packet → PacketKind
  | request _ => .request
  | response _ => .response
  | define _ => .define
  | finding _ => .finding

def encode : Packet → ByteArray
  | request message => message.encode
  | response message => message.encode
  | define message => message.encode
  | finding message => message.encode

def frame (packet : Packet) : ByteArray :=
  Frame.header packet.encode.size ++ packet.encode

end Packet

def PacketKind.decode (bytes : ByteArray) : PacketKind → Except DecodeError Packet
  | request => (Request.decode bytes).map .request
  | response => (Response.decode bytes).map .response
  | define => (Define.decode bytes).map .define
  | finding => (Finding.decode bytes).map .finding

theorem Packet.decode_encode (packet : Packet) (fits : packet.encode.size < Varint.limit) :
    packet.kind.decode packet.encode = .ok packet := by
  cases packet with
  | request message =>
      exact congrArg (Except.map request) (message.decode_encode (message.size_encode ▸ fits))
  | response message =>
      exact congrArg (Except.map response) (message.decode_encode (message.size_encode ▸ fits))
  | define message =>
      exact congrArg (Except.map define) (message.decode_encode (message.size_encode ▸ fits))
  | finding message =>
      exact congrArg (Except.map finding) (message.decode_encode (message.size_encode ▸ fits))

/-- What is asked of a channel: the bytes of a frame, or the message in it. -/
inductive Wanted where
  | bytes
  | message (kind : PacketKind)

inductive Arrived where
  | bytes (payload : ByteArray)
  | message (packet : Packet)
  deriving DecidableEq

def Wanted.interpret (payload : ByteArray) : Wanted → Except WireError Arrived
  | bytes => .ok (.bytes payload)
  | message kind => ((kind.decode payload).map .message).mapError .decode

theorem Wanted.interpret_ne_tooLarge (wanted : Wanted) (payload : ByteArray) (length : Nat) :
    wanted.interpret payload ≠ .error (.tooLarge length) := by
  cases wanted with
  | bytes => nofun
  | message kind =>
      rw [interpret]
      cases kind.decode payload <;> nofun

namespace Frame

def expect (ending : Ending) (bytes : List UInt8) (wanted : Wanted) :
    Except WireError Arrived × List UInt8 :=
  ((parse ending bytes).1.bind wanted.interpret, (parse ending bytes).2)

def expectAll (ending : Ending) (bytes : List UInt8) :
    List Wanted → List (Except WireError Arrived) × List UInt8
  | [] => ([], bytes)
  | wanted :: more =>
    let (arrived, rest) := expect ending bytes wanted
    let (others, last) := expectAll ending rest more
    (arrived :: others, last)

end Frame

namespace FrameBuffer

def readAs {α : Type} [Message α] (make : α → Packet) (buffer : FrameBuffer) (source : Source) :
    Except WireError Arrived × FrameBuffer × Source :=
  let (result, buffer, source) := buffer.read source
  (result.map fun message => .message (make message), buffer, source)

def receive (buffer : FrameBuffer) (source : Source) :
    Wanted → Except WireError Arrived × FrameBuffer × Source
  | .bytes =>
    let (result, buffer, source) := buffer.readFrame source
    (result.map .bytes, buffer, source)
  | .message .request => buffer.readAs .request source
  | .message .response => buffer.readAs .response source
  | .message .define => buffer.readAs .define source
  | .message .finding => buffer.readAs .finding source

def receiveAll (buffer : FrameBuffer) (source : Source) :
    List Wanted → List (Except WireError Arrived) × FrameBuffer × Source
  | [] => ([], buffer, source)
  | wanted :: more =>
    let (arrived, buffer, source) := buffer.receive source wanted
    let (others, buffer, source) := buffer.receiveAll source more
    (arrived :: others, buffer, source)

def send (buffer : FrameBuffer) (sink : Sink) :
    Packet → Except WireError Unit × FrameBuffer × Sink
  | .request message => buffer.write sink message
  | .response message => buffer.write sink message
  | .define message => buffer.write sink message
  | .finding message => buffer.write sink message

def sendAll (buffer : FrameBuffer) (sink : Sink) :
    List Packet → List (Except WireError Unit) × FrameBuffer × Sink
  | [] => ([], buffer, sink)
  | packet :: more =>
    let (sent, buffer, sink) := buffer.send sink packet
    let (others, buffer, sink) := buffer.sendAll sink more
    (sent :: others, buffer, sink)

variable (buffer : FrameBuffer) (source : Source)

theorem readAs_eq {α : Type} [Message α] {make : α → Packet} {kind : PacketKind}
    (known : ∀ payload, kind.decode payload = (Message.decode payload).map make) :
    buffer.readAs make source =
      ((buffer.readFrame source).1.bind (Wanted.message kind).interpret,
        (buffer.readFrame source).2) := by
  rw [readAs, read_eq]
  cases (buffer.readFrame source).1 with
  | error error => rfl
  | ok payload =>
      simp only [Except.bind, Wanted.interpret, known]
      cases (Message.decode payload : Except DecodeError α) <;> rfl

theorem receive_eq (wanted : Wanted) :
    buffer.receive source wanted =
      ((buffer.readFrame source).1.bind wanted.interpret, (buffer.readFrame source).2) := by
  cases wanted with
  | bytes =>
      rw [receive]
      obtain ⟨result, after⟩ := buffer.readFrame source
      cases result <;> rfl
  | message kind => cases kind <;> exact buffer.readAs_eq source fun _ => rfl

theorem receive_expect (wanted : Wanted) :
    ((buffer.receive source wanted).1, (buffer.receive source wanted).2.2.rest) =
        Frame.expect source.ending source.rest wanted ∧
      (buffer.receive source wanted).2.2.ending = source.ending := by
  obtain ⟨agrees, ending, -⟩ := buffer.readFrame_eq source
  rw [receive_eq, Frame.expect, ← agrees]
  exact ⟨rfl, ending⟩

theorem receiveAll_expect (wanted : List Wanted) :
    ((buffer.receiveAll source wanted).1, (buffer.receiveAll source wanted).2.2.rest) =
        Frame.expectAll source.ending source.rest wanted ∧
      (buffer.receiveAll source wanted).2.2.ending = source.ending := by
  induction wanted generalizing buffer source with
  | nil => exact ⟨rfl, rfl⟩
  | cons wanted more ih =>
      obtain ⟨first, ending⟩ := buffer.receive_expect source wanted
      obtain ⟨others, still⟩ :=
        ih (buffer.receive source wanted).2.1 (buffer.receive source wanted).2.2
      rw [ending] at others still
      rw [Frame.expectAll, ← first]
      simp only [← others]
      exact ⟨rfl, still⟩

end FrameBuffer

end BuildWatch
