import BuildWatch.Proofs.Compiler.Encoding

/-!
The scratch buffer over any number of calls. How large it is follows from the largest length that was
asked of it: it is the power of two that just has room for that, and it never gets smaller. What it
held before does not show in what a call yields.
-/

namespace BuildWatch

namespace Frame

def announced? : List UInt8 → Option Nat
  | first :: second :: third :: fourth :: _ =>
    some (((first.toNat * 256 + second.toNat) * 256 + third.toNat) * 256 + fourth.toNat)
  | _ => none

theorem announced?_eq (bytes : List UInt8) : announced? bytes =
    if headerSize ≤ bytes.length then some (headerValue (bytes.take headerSize).toByteArray)
    else none := by
  match bytes with
  | [] | [_] | [_, _] | [_, _, _] => rfl
  | first :: second :: third :: fourth :: rest => simp [announced?, headerValue, headerSize]

end Frame

inductive FrameCall where
  | frame (packet : Packet)
  | write (packet : Packet) (sink : Sink)
  | receive (wanted : Wanted) (source : Source)

inductive FrameAnswer where
  | framed (result : Except WireError ByteArray)
  | written (result : Except WireError Unit) (sink : Sink)
  | received (result : Except WireError Arrived) (source : Source)

/-- The length that a call asks of the buffer: a message that is written needs its frame, one that is
read needs no room for its header. A message that is refused for its size needs nothing. -/
def FrameCall.requested? : FrameCall → Option Nat
  | .frame packet | .write packet _ =>
    if packet.size ≤ Frame.longest then some (Frame.headerSize + packet.size) else none
  | .receive _ source => (Frame.announced? source.rest).filter fun length => length ≤ Frame.longest

def FrameCall.largest (calls : List FrameCall) : Nat :=
  calls.foldl (fun length call => max length (call.requested?.getD 0)) 0

namespace FrameBuffer

def call (buffer : FrameBuffer) : FrameCall → FrameAnswer × FrameBuffer
  | .frame packet =>
    let (result, buffer) := buffer.framePacket packet
    (.framed result, buffer)
  | .write packet sink =>
    let (result, buffer, sink) := buffer.send sink packet
    (.written result sink, buffer)
  | .receive wanted source =>
    let (result, buffer, source) := buffer.receive source wanted
    (.received result source, buffer)

def callAll (buffer : FrameBuffer) (calls : List FrameCall) : FrameBuffer :=
  calls.foldl (fun buffer call => (buffer.call call).2) buffer

section Room

theorem size_zeros (count : Nat) : (zeros count).size = count := by
  fun_induction zeros count with
  | case1 => rfl
  | case2 count some half even ih =>
      rw [ByteArray.size_append, ih]
      omega
  | case3 count some half odd ih =>
      rw [ByteArray.size_push, ByteArray.size_append, ih]
      omega

theorem roundUp_eq (count : Nat) : roundUp count = 2 ^ Nat.clog 2 count := by
  unfold roundUp
  split_ifs with one
  · rw [Nat.clog_of_right_le_one one, pow_zero]
  · have bound : count - 1 ≠ 0 := by omega
    rw [Nat.shiftLeft_eq, one_mul]
    congr 1
    apply le_antisymm
    · apply Nat.lt_of_not_le
      intro small
      have reach := (Nat.clog_le_iff_le_pow Nat.one_lt_two).mp small
      have low := Nat.log2_self_le bound
      omega
    · rw [Nat.clog_le_iff_le_pow Nat.one_lt_two]
      have high := @Nat.lt_log2_self (count - 1)
      omega

def roomFor (length : Nat) : Nat :=
  if length = 0 then 0 else 2 ^ Nat.clog 2 length

theorem le_roomFor (length : Nat) : length ≤ roomFor length := by
  unfold roomFor
  split_ifs with none
  · exact none.le
  · exact Nat.le_pow_clog Nat.one_lt_two length

theorem roomFor_mono {low high : Nat} (below : low ≤ high) : roomFor low ≤ roomFor high := by
  unfold roomFor
  split_ifs with none some
  · exact le_rfl
  · exact Nat.zero_le _
  · omega
  · exact Nat.pow_le_pow_right Nat.two_pos (Nat.clog_mono_right 2 below)

theorem roomFor_le {length other : Nat} (fits : length ≤ roomFor other) :
    roomFor length ≤ roomFor other := by
  unfold roomFor at *
  split_ifs at * with none some
  · exact le_rfl
  · exact Nat.zero_le _
  · omega
  · exact Nat.pow_le_pow_right Nat.two_pos ((Nat.clog_le_iff_le_pow Nat.one_lt_two).mpr fits)

end Room

variable {buffer : FrameBuffer} {length : Nat}

theorem capacity_scratch (buffer : FrameBuffer) (length : Nat) :
    (buffer.scratch length).capacity =
      if buffer.capacity < length then roundUp length else buffer.capacity := by
  rw [scratch]
  split_ifs
  · exact size_zeros _
  · rfl

theorem le_scratch (buffer : FrameBuffer) (length : Nat) :
    length ≤ (buffer.scratch length).capacity ∧
      buffer.capacity ≤ (buffer.scratch length).capacity := by
  have room := Nat.le_pow_clog Nat.one_lt_two length
  rw [capacity_scratch, roundUp_eq]
  split_ifs <;> omega

theorem scratch_zero (buffer : FrameBuffer) : buffer.scratch 0 = buffer :=
  if_neg (Nat.not_lt_zero _)

theorem capacity_scratch_of_eq {before : Nat} (exact_room : buffer.capacity = roomFor before)
    (length : Nat) : (buffer.scratch length).capacity = roomFor (max before length) := by
  have room := le_roomFor before
  rw [capacity_scratch, exact_room]
  split_ifs with small
  · have grown : max before length = length := by omega
    rw [grown, roundUp_eq, roomFor, if_neg (by omega)]
  · apply le_antisymm
    · exact roomFor_mono (le_max_left before length)
    · exact roomFor_le (by omega)

theorem capacity_fill (buffer : FrameBuffer) {position : Nat} {bytes : ByteArray}
    (within : position + bytes.size ≤ buffer.capacity) :
    (buffer.fill position bytes).capacity = buffer.capacity := by
  unfold capacity at *
  rw [← length_octets, octets_fill, List.length_append, List.length_append, List.length_take,
    List.length_drop, length_octets, length_octets]
  omega

theorem capacity_frame {α : Type} [Message α] (buffer : FrameBuffer) {message : α}
    (counted : (Message.encode message).size = Message.size message)
    (fits : Message.size message ≤ Frame.longest) :
    (buffer.frame message).2.capacity =
      (buffer.scratch (Frame.headerSize + Message.size message)).capacity := by
  let room := buffer.scratch (Frame.headerSize + Message.size message)
  have enough : Frame.headerSize + Message.size message ≤ room.capacity := (le_scratch _ _).1
  have header := Frame.size_header (Message.size message)
  have led : (room.fill 0 (Frame.header (Message.size message))).capacity = room.capacity :=
    room.capacity_fill (by omega)
  have filled : ((room.fill 0 (Frame.header (Message.size message))).fill Frame.headerSize
      (Message.encode message)).capacity = room.capacity := by
    rw [capacity_fill _ (by omega), led]
  simp only [frame, if_neg (Nat.not_lt.mpr fits), if_pos counted]
  exact filled

theorem frame_congr {α : Type} [Message α] (buffer other : FrameBuffer) {message : α}
    (counted : (Message.encode message).size = Message.size message) :
    (buffer.frame message).1 = (other.frame message).1 := by
  rw [frame_cases _ counted, frame_cases _ counted]

theorem write_congr {α : Type} [Message α] (buffer other : FrameBuffer) (sink : Sink) {message : α}
    (counted : (Message.encode message).size = Message.size message) :
    (buffer.write sink message).1 = (other.write sink message).1 ∧
      (buffer.write sink message).2.2 = (other.write sink message).2.2 ∧
        (buffer.write sink message).2.1 = (buffer.frame message).2 := by
  have same := frame_congr buffer other counted
  rw [write, write]
  cases framed : buffer.frame message with
  | mk result after =>
      cases again : other.frame message with
      | mk also rest =>
          rw [framed, again] at same
          obtain rfl : result = also := same
          cases result with
          | error => exact ⟨rfl, rfl, rfl⟩
          | ok bytes =>
              simp only
              cases sink.write bytes 0 with
              | mk outcome sink => cases outcome <;> exact ⟨rfl, rfl, rfl⟩

theorem send_congr (buffer other : FrameBuffer) (sink : Sink) (packet : Packet) :
    (buffer.send sink packet).1 = (other.send sink packet).1 ∧
      (buffer.send sink packet).2.2 = (other.send sink packet).2.2 ∧
        (buffer.send sink packet).2.1 = (buffer.framePacket packet).2 := by
  cases packet with
  | request message => exact buffer.write_congr other sink message.size_encode
  | response message => exact buffer.write_congr other sink message.size_encode
  | define message => exact buffer.write_congr other sink message.size_encode
  | finding message => exact buffer.write_congr other sink message.size_encode

theorem framePacket_of_large (buffer : FrameBuffer) {packet : Packet}
    (large : Frame.longest < packet.size) : (buffer.framePacket packet).2 = buffer := by
  cases packet with
  | request message => exact congrArg Prod.snd (buffer.frame_of_large large)
  | response message => exact congrArg Prod.snd (buffer.frame_of_large large)
  | define message => exact congrArg Prod.snd (buffer.frame_of_large large)
  | finding message => exact congrArg Prod.snd (buffer.frame_of_large large)

theorem capacity_framePacket (buffer : FrameBuffer) {packet : Packet}
    (fits : packet.size ≤ Frame.longest) : (buffer.framePacket packet).2.capacity =
      (buffer.scratch (Frame.headerSize + packet.size)).capacity := by
  cases packet with
  | request message => exact buffer.capacity_frame message.size_encode fits
  | response message => exact buffer.capacity_frame message.size_encode fits
  | define message => exact buffer.capacity_frame message.size_encode fits
  | finding message => exact buffer.capacity_frame message.size_encode fits

theorem readFrame_congr (buffer other : FrameBuffer) (source : Source) :
    (buffer.readFrame source).1 = (other.readFrame source).1 ∧
      (buffer.readFrame source).2.2 = (other.readFrame source).2.2 := by
  have grammar (buffer : FrameBuffer) := congrArg Prod.fst (buffer.readFrame_eq source).1
  refine ⟨(grammar buffer).trans (grammar other).symm, ?_⟩
  simp only [readFrame]
  split
  · rfl
  · split_ifs <;> rfl

theorem readFrame_of_unled (buffer : FrameBuffer) {source : Source}
    (unled : Frame.announced? source.rest = none) : (buffer.readFrame source).2.1 = buffer := by
  rw [Frame.announced?_eq, ite_eq_right_iff] at unled
  have few : source.rest.length < Frame.headerSize :=
    Nat.lt_of_not_le fun enough => Option.some_ne_none _ (unled enough)
  obtain ⟨after, header, -⟩ := readHeader_of_lt few
  simp only [readFrame, header]

theorem readHeader_of_led {source : Source} {length : Nat}
    (led : Frame.announced? source.rest = some length) :
    ∃ middle, readHeader source = (.ok length, middle) := by
  rw [Frame.announced?_eq, Option.ite_none_right_eq_some] at led
  obtain ⟨enough, same⟩ := led
  obtain ⟨middle, header, -⟩ := readHeader_of_le enough
  exact ⟨middle, Option.some.inj same ▸ header⟩

theorem readFrame_of_large (buffer : FrameBuffer) {source : Source} {length : Nat}
    (led : Frame.announced? source.rest = some length) (large : Frame.longest < length) :
    (buffer.readFrame source).2.1 = buffer := by
  obtain ⟨middle, header⟩ := readHeader_of_led led
  simp only [readFrame, header, if_pos large]

theorem capacity_readFrame (buffer : FrameBuffer) {source : Source} {length : Nat}
    (led : Frame.announced? source.rest = some length) (fits : length ≤ Frame.longest) :
    (buffer.readFrame source).2.1.capacity = (buffer.scratch length).capacity := by
  obtain ⟨middle, header⟩ := readHeader_of_led led
  have got := (middle.gather_eq length ByteArray.empty).1
  have few : (middle.gather length ByteArray.empty).bytes.size ≤ length := by
    rw [← length_octets, got, octets_empty, List.nil_append]
    exact List.length_take_le _ _
  have room := (buffer.le_scratch length).1
  simp only [readFrame, header, if_neg (Nat.not_lt.mpr fits)]
  exact capacity_fill _ (by omega)

variable {call : FrameCall}

theorem fits_of_requested {packet : Packet}
    (requested : (FrameCall.frame packet).requested? = some length) :
    packet.size ≤ Frame.longest ∧ Frame.headerSize + packet.size = length :=
  (Option.ite_none_right_eq_some.mp requested).imp_right Option.some.inj

theorem large_of_refused {packet : Packet}
    (refused : (FrameCall.frame packet).requested? = none) : Frame.longest < packet.size := by
  simpa [FrameCall.requested?] using refused

theorem call_of_refused (buffer : FrameBuffer) (refused : call.requested? = none) :
    (buffer.call call).2 = buffer := by
  cases call with
  | frame packet => exact buffer.framePacket_of_large (large_of_refused refused)
  | write packet sink =>
      have framed := buffer.framePacket_of_large (large_of_refused refused)
      exact (buffer.send_congr buffer sink packet).2.2.trans framed
  | receive wanted source =>
      simp only [FrameBuffer.call, receive_eq]
      cases led : Frame.announced? source.rest with
      | none => exact buffer.readFrame_of_unled led
      | some length =>
          have large : Frame.longest < length := by
            simpa [FrameCall.requested?, led] using refused
          exact buffer.readFrame_of_large led large

theorem capacity_call (buffer : FrameBuffer) (call : FrameCall) :
    (buffer.call call).2.capacity = (buffer.scratch (call.requested?.getD 0)).capacity := by
  cases requested : call.requested? with
  | none => rw [buffer.call_of_refused requested, Option.getD_none, scratch_zero]
  | some length =>
      rw [Option.getD_some]
      cases call with
      | frame packet =>
          obtain ⟨fits, rfl⟩ := fits_of_requested requested
          exact buffer.capacity_framePacket fits
      | write packet sink =>
          obtain ⟨fits, rfl⟩ := fits_of_requested requested
          rw [FrameBuffer.call]
          simp only [(buffer.send_congr buffer sink packet).2.2]
          exact buffer.capacity_framePacket fits
      | receive wanted source =>
          obtain ⟨led, fits⟩ := Option.filter_eq_some_iff.mp requested
          simp only [FrameBuffer.call, receive_eq]
          exact buffer.capacity_readFrame led (by simpa using fits)

theorem call_congr (buffer other : FrameBuffer) (call : FrameCall) :
    (buffer.call call).1 = (other.call call).1 := by
  cases call with
  | frame packet =>
      simp only [FrameBuffer.call, framePacket_cases]
  | write packet sink =>
      obtain ⟨result, written, -⟩ := buffer.send_congr other sink packet
      simp only [FrameBuffer.call, result, written]
  | receive wanted source =>
      obtain ⟨result, source⟩ := buffer.readFrame_congr other source
      simp only [FrameBuffer.call, receive_eq, result, source]

end FrameBuffer

namespace FrameCall

variable {calls : List FrameCall}

theorem largest_append_singleton (calls : List FrameCall) (call : FrameCall) :
    largest (calls ++ [call]) = max (largest calls) (call.requested?.getD 0) := by
  rw [largest, List.foldl_append]
  rfl

theorem requested?_le {call : FrameCall} {length : Nat} (requested : call.requested? = some length) :
    length ≤ Frame.headerSize + Frame.longest := by
  cases call with
  | frame packet | write packet sink =>
      obtain ⟨fits, rfl⟩ := FrameBuffer.fits_of_requested requested
      omega
  | receive wanted source =>
      have fits : length ≤ Frame.longest := by
        simpa using (Option.filter_eq_some_iff.mp requested).2
      omega

theorem largest_le (calls : List FrameCall) :
    largest calls ≤ Frame.headerSize + Frame.longest := by
  induction calls using List.reverseRecOn with
  | nil => exact Nat.zero_le _
  | append_singleton earlier call ih =>
      rw [largest_append_singleton]
      refine max_le ih ?_
      cases requested : call.requested? with
      | none => exact Nat.zero_le _
      | some length => exact requested?_le requested

end FrameCall

namespace FrameBuffer

theorem capacity_callAll (calls : List FrameCall) :
    (fresh.callAll calls).capacity = roomFor (FrameCall.largest calls) := by
  induction calls using List.reverseRecOn with
  | nil => rfl
  | append_singleton earlier call ih =>
      rw [FrameCall.largest_append_singleton, callAll, List.foldl_append]
      exact (capacity_call _ call).trans (capacity_scratch_of_eq ih _)

/-- After any calls the buffer just has room for the largest length that one of them asked for, in a
power of two; it never gets smaller, and a message that is refused for its size leaves it alone. What
a call yields is what it yields with a buffer that has not been used. -/
theorem scratch_follows_requests (calls : List FrameCall) :
    let after := fresh.callAll calls
    let largest := FrameCall.largest calls
    (after.capacity = if largest = 0 then 0 else 2 ^ Nat.clog 2 largest) ∧
      (after.capacity = 0 ∨ ∃ power ≤ 27, after.capacity = 2 ^ power) ∧
      ∀ call, after.capacity ≤ (after.call call).2.capacity ∧
        (call.requested? = none → (after.call call).2 = after) ∧
        (after.call call).1 = (fresh.call call).1 := by
  intro after largest
  have capacity : after.capacity = roomFor largest := capacity_callAll calls
  refine ⟨capacity, ?_, fun call => ⟨?_, after.call_of_refused, after.call_congr fresh call⟩⟩
  · rw [capacity, roomFor]
    split_ifs with none
    · exact .inl rfl
    · have fits : largest ≤ 2 ^ 27 := (FrameCall.largest_le calls).trans (by decide)
      exact .inr ⟨_, (Nat.clog_le_iff_le_pow Nat.one_lt_two).mpr fits, rfl⟩
  · rw [capacity_call]
    exact (after.le_scratch _).2

def mixedCalls : List FrameCall :=
  [.receive .bytes (.ofBytes [0, 0, 0, 5, 97, 98, 99].toByteArray),
    .frame (.define ⟨"COMPO", some (.boolean true)⟩),
    .receive .bytes (.ofBytes [4, 0, 0, 1, 97].toByteArray),
    .receive .bytes (.ofBytes [0, 0, 0, 1, 97].toByteArray)]

theorem scratch_follows_requests_mixed :
    (fresh.callAll mixedCalls).capacity = 16 ∧
      (FrameCall.receive .bytes (.ofBytes [4, 0, 0, 1, 97].toByteArray)).requested? = none ∧
      ((fresh.callAll mixedCalls).call
        (.receive .bytes (.ofBytes [4, 0, 0, 1, 97].toByteArray))).2 = fresh.callAll mixedCalls := by
  obtain ⟨capacity, -, calls⟩ := scratch_follows_requests mixedCalls
  have largest : FrameCall.largest mixedCalls = 13 := by cbv
  have refused :
      (FrameCall.receive .bytes (.ofBytes [4, 0, 0, 1, 97].toByteArray)).requested? = none := by
    cbv
  rw [largest] at capacity
  exact ⟨capacity.trans (by decide), refused, (calls _).2.1 refused⟩

end FrameBuffer

end BuildWatch
