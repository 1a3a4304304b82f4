import BuildWatch.Proofs.Compiler.Packet

/-!
Messages that are sent arrive. Whatever is sent one after another into a stream is received from it
in the same order, and nothing is left.
-/

namespace BuildWatch

namespace Packet

theorem parse_frame {packet : Packet} (fits : packet.encode.size ≤ Frame.longest)
    (ending : Ending) (rest : List UInt8) :
    Frame.parse ending (octets packet.frame ++ rest) = (.ok packet.encode, rest) := by
  have header := Frame.size_header packet.encode.size
  have bytes : octets packet.frame ++ rest =
      octets (Frame.header packet.encode.size) ++ (octets packet.encode ++ rest) := by
    rw [frame, octets_append, List.append_assoc]
  have enough : Frame.headerSize ≤ (octets packet.frame ++ rest).length := by
    rw [bytes, List.length_append, length_octets, header]
    omega
  have leads : (octets packet.frame ++ rest).take Frame.headerSize =
      octets (Frame.header packet.encode.size) := by
    rw [bytes, ← header, ← length_octets, List.take_left]
  have follows : (octets packet.frame ++ rest).drop Frame.headerSize =
      octets packet.encode ++ rest := by
    rw [bytes, ← header, ← length_octets, List.drop_left]
  have same (bytes : ByteArray) : (octets bytes).toByteArray = bytes :=
    octets_inj (octets_toByteArray _)
  have small : packet.encode.size < 2 ^ 32 := Nat.lt_of_le_of_lt fits (by decide)
  have whole : ¬ (octets packet.encode ++ rest).length < packet.encode.size := by
    rw [List.length_append, length_octets]
    omega
  rw [Frame.parse_of_le ending enough, leads, follows, same, Frame.headerValue_header small]
  simp only [if_neg (Nat.not_lt.mpr fits), if_neg whole]
  rw [← length_octets, List.take_left, List.drop_left, same]

theorem expect_frame {packet : Packet} (fits : packet.encode.size ≤ Frame.longest)
    (ending : Ending) (rest : List UInt8) :
    Frame.expect ending (octets packet.frame ++ rest) (.message packet.kind) =
      (.ok (.message packet), rest) := by
  have small : packet.encode.size < Varint.limit := Nat.lt_of_le_of_lt fits (by decide)
  rw [Frame.expect, parse_frame fits]
  simp only [Except.bind, Wanted.interpret, packet.decode_encode small]
  rfl

theorem expectAll_frames {packets : List Packet}
    (fit : ∀ packet ∈ packets, packet.encode.size ≤ Frame.longest) (ending : Ending) :
    Frame.expectAll ending (packets.flatMap fun packet => octets packet.frame)
        (packets.map fun packet => .message packet.kind) =
      (packets.map fun packet => .ok (.message packet), []) := by
  induction packets with
  | nil => rfl
  | cons packet more ih =>
      have others := ih fun other among => fit other (List.mem_cons_of_mem _ among)
      rw [List.map_cons, List.flatMap_cons, Frame.expectAll,
        expect_frame (fit packet List.mem_cons_self)]
      simp only [others, List.map_cons]

end Packet

namespace FrameBuffer

theorem write_eq {α : Type} [Message α] (buffer : FrameBuffer) {sink : Sink}
    (endless : sink.room = none) (message : α)
    (counted : (Message.encode message).size = Message.size message)
    (fits : (Message.encode message).size ≤ Frame.longest) :
    (buffer.write sink message).1 = .ok () ∧
      octets (buffer.write sink message).2.2.bytes =
        octets sink.bytes ++
          octets (Frame.header (Message.encode message).size ++ Message.encode message) ∧
      (buffer.write sink message).2.2.room = none := by
  have made := buffer.frame_eq counted (counted ▸ fits)
  rw [← counted] at made
  obtain ⟨done, written, still⟩ := Sink.write_eq endless
    (Frame.header (Message.encode message).size ++ Message.encode message) 0
  cases framed : buffer.frame message with
  | mk result after =>
      rw [framed] at made
      simp only [write, framed, show result = .ok _ from made]
      generalize sink.write _ 0 = outcome at done written still ⊢
      obtain ⟨result, sink⟩ := outcome
      obtain rfl : result = .ok () := done
      exact ⟨rfl, written, still⟩

theorem send_eq (buffer : FrameBuffer) {sink : Sink} (endless : sink.room = none)
    {packet : Packet} (fits : packet.encode.size ≤ Frame.longest) :
    (buffer.send sink packet).1 = .ok () ∧
      octets (buffer.send sink packet).2.2.bytes = octets sink.bytes ++ octets packet.frame ∧
      (buffer.send sink packet).2.2.room = none := by
  cases packet with
  | request message => exact buffer.write_eq endless message message.size_encode fits
  | response message => exact buffer.write_eq endless message message.size_encode fits
  | define message => exact buffer.write_eq endless message message.size_encode fits
  | finding message => exact buffer.write_eq endless message message.size_encode fits

theorem sendAll_eq (buffer : FrameBuffer) {sink : Sink} (endless : sink.room = none)
    {packets : List Packet} (fit : ∀ packet ∈ packets, packet.encode.size ≤ Frame.longest) :
    (buffer.sendAll sink packets).1 = packets.map (fun _ => .ok ()) ∧
      octets (buffer.sendAll sink packets).2.2.bytes =
        octets sink.bytes ++ packets.flatMap fun packet => octets packet.frame := by
  induction packets generalizing buffer sink with
  | nil => exact ⟨rfl, (List.append_nil _).symm⟩
  | cons packet more ih =>
      obtain ⟨sent, written, still⟩ := buffer.send_eq endless (fit packet List.mem_cons_self)
      obtain ⟨others, bytes⟩ := ih (buffer.send sink packet).2.1 still
        fun other among => fit other (List.mem_cons_of_mem _ among)
      refine ⟨?_, ?_⟩
      · rw [List.map_cons, ← others, ← sent]
        rfl
      · rw [List.flatMap_cons, ← List.append_assoc, ← written, ← bytes]
        rfl

/-- Messages that fit into frames are sent without a fault, at any pace and out of any buffer;
received at any pace and into any buffer, they are the same messages in the same order. Nothing
is left then, and whatever is asked for next, the channel is closed. -/
theorem receiveAll_sendAll (writing reading : FrameBuffer) (sendPace receivePace : Nat → Nat)
    (sendTurns receiveTurns : Nat) (packets : List Packet)
    (fit : ∀ packet ∈ packets, packet.encode.size ≤ Frame.longest) :
    let sent := writing.sendAll ⟨ByteArray.empty, sendPace, sendTurns, none⟩ packets
    let source : Source := ⟨sent.2.2.bytes, 0, receivePace, receiveTurns, .closed⟩
    let got := reading.receiveAll source (packets.map fun packet => .message packet.kind)
    sent.1 = packets.map (fun _ => .ok ()) ∧
      got.1 = packets.map (fun packet => .ok (.message packet)) ∧
      got.2.2.left = 0 ∧
      ∀ wanted, (got.2.1.receive got.2.2 wanted).1 = .error .closed := by
  intro sent source got
  have endless : (⟨ByteArray.empty, sendPace, sendTurns, none⟩ : Sink).room = none := rfl
  obtain ⟨done, bytes⟩ := writing.sendAll_eq endless fit
  obtain ⟨arrives, ending⟩ := reading.receiveAll_expect source
    (packets.map fun packet => .message packet.kind)
  have left : source.rest = packets.flatMap fun packet => octets packet.frame := bytes
  rw [left, Packet.expectAll_frames fit] at arrives
  obtain ⟨arrived, nothing⟩ := Prod.mk.inj arrives
  refine ⟨done, arrived, ?_, fun wanted => ?_⟩
  · rw [Source.left_eq, nothing, List.length_nil]
  · have next := congrArg Prod.fst (got.2.1.receive_expect got.2.2 wanted).1
    rw [nothing, ending] at next
    exact next

def assorted : List Packet :=
  [.define ⟨"PRODUCTION", some (.boolean true)⟩, .finding ⟨-1, "", 3, 0, ""⟩]

theorem receiveAll_sendAll_assorted :
    (∀ packet ∈ assorted, packet.encode.size ≤ Frame.longest) ∧
      let sent := fresh.sendAll ⟨ByteArray.empty, fun _ => 1, 0, none⟩ assorted
      (fresh.receiveAll ⟨sent.2.2.bytes, 0, fun turn => turn, 0, .closed⟩
        [.message .define, .message .finding]).1 =
          [.ok (.message (.define ⟨"PRODUCTION", some (.boolean true)⟩)),
            .ok (.message (.finding ⟨-1, "", 3, 0, ""⟩))] := by
  have fit : ∀ packet ∈ assorted, packet.encode.size ≤ Frame.longest := by
    intro packet member
    simp only [assorted, List.mem_cons, List.not_mem_nil, or_false] at member
    rcases member with rfl | rfl <;> cbv
  obtain ⟨-, arrived, -, -⟩ :=
    receiveAll_sendAll fresh fresh (fun _ => 1) (fun turn => turn) 0 0 assorted fit
  exact ⟨fit, arrived⟩

end FrameBuffer

end BuildWatch
