import BuildWatch.Proofs.Compiler.Packet

/-!
A message, whatever it holds, is what its encoding is read as; the size computed beforehand is that
of the encoding, so the only message that cannot be put into a frame is one that is too large.
-/

namespace BuildWatch

namespace Packet

def size : Packet → Nat
  | request message => message.size
  | response message => message.size
  | define message => message.size
  | finding message => message.size

theorem size_encode (packet : Packet) : packet.encode.size = packet.size := by
  cases packet with
  | request message => exact message.size_encode
  | response message => exact message.size_encode
  | define message => exact message.size_encode
  | finding message => exact message.size_encode

end Packet

namespace FrameBuffer

theorem frame_of_large {α : Type} [Message α] (buffer : FrameBuffer) {message : α}
    (large : Frame.longest < Message.size message) :
    buffer.frame message = (.error (.tooLarge (Message.size message)), buffer) := by
  rw [frame]
  exact if_pos large

def framePacket (buffer : FrameBuffer) : Packet → Except WireError ByteArray × FrameBuffer
  | .request message => buffer.frame message
  | .response message => buffer.frame message
  | .define message => buffer.frame message
  | .finding message => buffer.frame message

theorem frame_cases {α : Type} [Message α] (buffer : FrameBuffer) {message : α}
    (counted : (Message.encode message).size = Message.size message) :
    (buffer.frame message).1 =
      if Message.size message ≤ Frame.longest then
        .ok (Frame.header (Message.encode message).size ++ Message.encode message)
      else .error (.tooLarge (Message.size message)) := by
  by_cases fits : Message.size message ≤ Frame.longest
  · rw [if_pos fits, buffer.frame_eq counted fits, counted]
  · rw [if_neg fits, buffer.frame_of_large (Nat.not_le.mp fits)]

theorem framePacket_cases (buffer : FrameBuffer) (packet : Packet) :
    (buffer.framePacket packet).1 =
      if packet.size ≤ Frame.longest then .ok packet.frame else .error (.tooLarge packet.size) := by
  cases packet with
  | request message => exact buffer.frame_cases message.size_encode
  | response message => exact buffer.frame_cases message.size_encode
  | define message => exact buffer.frame_cases message.size_encode
  | finding message => exact buffer.frame_cases message.size_encode

end FrameBuffer

namespace Packet

/-- A message whose size is a number of 64 bits is read back as it was written. Whatever its size,
that is the number of bytes written, and a frame is made of it out of any buffer unless it is larger
than a frame may be. -/
theorem round_trip (packet : Packet) (fits : packet.size < Varint.limit) :
    packet.kind.decode packet.encode = .ok packet ∧ packet.encode.size = packet.size ∧
      ∀ buffer : FrameBuffer, (buffer.framePacket packet).1 =
        if packet.size ≤ Frame.longest then .ok packet.frame
        else .error (.tooLarge packet.size) := by
  have counted := packet.size_encode
  refine ⟨?_, counted, ?_⟩
  · apply packet.decode_encode
    rwa [counted]
  · intro buffer
    exact buffer.framePacket_cases packet

example : (request ⟨["a.js"], [], "", "", [⟨"COMPO", some (.boolean true)⟩]⟩).encode =
    "\x0a\x04a.js\x2a\x09\x0a\x05COMPO\x10\x01".toUTF8 := by
  cbv

/-- Numbers at their limits, severities without a meaning, empty texts in a list, and every kind of
value that a constant can have. -/
def extremes : List Packet :=
  [.finding ⟨-2147483648, "", 4294967295, 0, "é"⟩, .finding ⟨42, "a.js", 128, 16384, ""⟩,
    .request ⟨["", "a.js", ""], [""], "", "map", [⟨"", none⟩, ⟨"ZERO", some (.number 0)⟩,
      ⟨"", some (.boolean false)⟩, ⟨"EMPTY", some (.text "")⟩,
      ⟨"NEGATIVE", some (.number 0x8000000000000000)⟩]⟩,
    .response ⟨⟨#[0, 255]⟩, ⟨#[]⟩, [⟨0, "", 0, 0, ""⟩, ⟨-1, "", 0, 0, ""⟩]⟩]

theorem round_trip_extremes :
    extremes.all (fun packet => packet.size < Varint.limit) = true ∧
      (extremes.map fun packet => packet.kind.decode packet.encode) = extremes.map .ok := by
  have small : extremes.all (fun packet => packet.size < Varint.limit) = true := by cbv
  constructor
  · exact small
  · apply List.map_congr_left
    intro packet member
    have fits : packet.size < Varint.limit := by
      simpa using List.all_eq_true.mp small packet member
    exact (packet.round_trip fits).1

end Packet

end BuildWatch
