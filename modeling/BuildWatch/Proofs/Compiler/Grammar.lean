import BuildWatch.Proofs.Compiler.Packet

/-!
Receiving from any bytes whatever. What is received, one thing after another, is what the grammar
says of the bytes that are left; a length that is refused costs its header and leaves the buffer
alone, and a message that cannot be read costs its frame.
-/

namespace BuildWatch.FrameBuffer

/-- What is received from a stream, in order, is what the grammar says of its bytes, however the
stream cuts them into pieces and whatever the buffer held. A length that is refused leaves the
buffer as it was, and a receipt ends where its frame ends, whether or not a message is in it. -/
theorem receiveAll_grammar (buffer : FrameBuffer) (source : Source) :
    (∀ wanted : List Wanted,
      ((buffer.receiveAll source wanted).1, (buffer.receiveAll source wanted).2.2.rest) =
        Frame.expectAll source.ending source.rest wanted) ∧
      ∀ wanted : Wanted,
        (∀ length, (buffer.receive source wanted).1 = .error (.tooLarge length) →
          (buffer.receive source wanted).2.1 = buffer) ∧
          (buffer.receive source wanted).2.2.rest =
            (Frame.parse source.ending source.rest).2 := by
  obtain ⟨agrees, -, unchanged⟩ := buffer.readFrame_eq source
  refine ⟨fun wanted => (buffer.receiveAll_expect source wanted).1, fun wanted => ⟨?_, ?_⟩⟩
  · intro length refused
    rw [receive_eq] at refused ⊢
    refine unchanged length ?_
    cases result : (buffer.readFrame source).1 with
    | error error =>
        rw [result] at refused
        exact congrArg _ (Except.error.inj refused)
    | ok payload =>
        rw [result] at refused
        exact absurd refused (wanted.interpret_ne_tooLarge payload length)
  · rw [receive_eq]
    exact congrArg Prod.snd agrees

/-- A length that is refused, a frame, bytes that are no message, an empty frame, and a header
that is torn; the stream moves one byte at a time. -/
def tornSource : Source :=
  ⟨[4, 0, 0, 1, 0, 0, 0, 2, 97, 98, 0, 0, 0, 1, 255, 0, 0, 0, 0, 0, 0].toByteArray, 0,
    fun _ => 1, 0, .closed⟩

theorem receiveAll_grammar_torn :
    (fresh.receiveAll tornSource
        [.bytes, .bytes, .message .define, .bytes, .bytes, .bytes]).1 =
      [.error (.tooLarge (Frame.longest + 1)), .ok (.bytes [97, 98].toByteArray),
        .error (.decode ⟨.invalidVarint, []⟩), .ok (.bytes ByteArray.empty),
        .error (.channel .unexpectedEnd), .error .closed] ∧
      (fresh.receive tornSource .bytes).1 = .error (.tooLarge (Frame.longest + 1)) ∧
      (fresh.receive tornSource .bytes).2.1 = fresh := by
  obtain ⟨agrees, each⟩ := receiveAll_grammar fresh tornSource
  have arrived := congrArg Prod.fst (agrees
    [.bytes, .bytes, .message .define, .bytes, .bytes, .bytes])
  have refused : (fresh.receive tornSource .bytes).1 =
      .error (.tooLarge (Frame.longest + 1)) :=
    (congrArg Prod.fst (fresh.receive_expect tornSource .bytes).1).trans (by cbv)
  exact ⟨arrived.trans (by cbv), refused, (each .bytes).1 _ refused⟩

end BuildWatch.FrameBuffer
