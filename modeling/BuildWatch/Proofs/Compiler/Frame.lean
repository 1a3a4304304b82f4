import BuildWatch.Compiler.Frame
import BuildWatch.Proofs.Compiler.Stream

/-!
Frames against a grammar. `Frame.parse` says of the bytes of a whole stream what its first frame
is; receiving a frame agrees with it, whatever the pace of the stream and whatever the scratch
buffer held before. A frame that is made in the buffer is the header and the message.
-/

namespace BuildWatch

def Ending.fault (closedMeans : WireError) : Ending → WireError
  | closed => closedMeans
  | broken fault => .channel fault

namespace Frame

/-- The first frame of some bytes, and the bytes after it. -/
def parse (ending : Ending) : List UInt8 → Except WireError ByteArray × List UInt8
  | [] => (.error (ending.fault .closed), [])
  | first :: second :: third :: fourth :: rest =>
    let length := ((first.toNat * 256 + second.toNat) * 256 + third.toNat) * 256 + fourth.toNat
    if longest < length then (.error (.tooLarge length), rest)
    else if rest.length < length then (.error (ending.fault (.channel .earlyEnd)), [])
    else (.ok (rest.take length).toByteArray, rest.drop length)
  | _ => (.error (ending.fault (.channel .unexpectedEnd)), [])

theorem parse_of_lt (ending : Ending) {bytes : List UInt8} (few : bytes.length < headerSize) :
    parse ending bytes =
      (.error (ending.fault (if bytes = [] then .closed else .channel .unexpectedEnd)), []) := by
  match bytes, few with
  | [], _ => rfl
  | [first], _ => rfl
  | [first, second], _ => rfl
  | [first, second, third], _ => rfl
  | _ :: _ :: _ :: _ :: rest, few =>
      simp only [List.length_cons, headerSize] at few
      omega

theorem parse_of_le (ending : Ending) {bytes : List UInt8} (enough : headerSize ≤ bytes.length) :
    parse ending bytes =
      let length := headerValue (bytes.take headerSize).toByteArray
      let rest := bytes.drop headerSize
      if longest < length then (.error (.tooLarge length), rest)
      else if rest.length < length then (.error (ending.fault (.channel .earlyEnd)), [])
      else (.ok (rest.take length).toByteArray, rest.drop length) := by
  match bytes, enough with
  | [], enough | [_], enough | [_, _], enough | [_, _, _], enough =>
      exact absurd enough (by simp [headerSize])
  | first :: second :: third :: fourth :: rest, _ =>
      have value : headerValue [first, second, third, fourth].toByteArray =
          ((first.toNat * 256 + second.toNat) * 256 + third.toNat) * 256 + fourth.toNat := by
        simp [headerValue]
      simp only [parse, headerSize, List.take_succ_cons, List.take_zero, List.drop_succ_cons,
        List.drop_zero, value]

theorem size_header (length : Nat) : (header length).size = headerSize := rfl

theorem headerValue_header {length : Nat} (fits : length < 2 ^ 32) :
    headerValue (header length) = length := by
  simp only [headerValue, header, List.data_toByteArray, List.foldl_cons, List.foldl_nil,
    UInt8.toNat_ofNat']
  omega

theorem octets_header (first second third fourth : UInt8) :
    octets (header (((first.toNat * 256 + second.toNat) * 256 + third.toNat) * 256 +
      fourth.toNat)) = [first, second, third, fourth] := by
  have bounds := And.intro first.toNat_lt
    (And.intro second.toNat_lt (And.intro third.toNat_lt fourth.toNat_lt))
  simp only [header, octets_toByteArray, List.cons.injEq, ← UInt8.toNat_inj,
    UInt8.toNat_ofNat', Nat.shiftRight_eq_div_pow, and_true]
  omega

def around (payload : ByteArray) : List UInt8 :=
  octets (header payload.size ++ payload)

theorem around_of_parse {ending : Ending} {bytes rest : List UInt8} {payload : ByteArray}
    (parsed : parse ending bytes = (.ok payload, rest)) :
    bytes = around payload ++ rest ∧ payload.size ≤ longest := by
  match bytes, parsed with
  | [], parsed | [_], parsed | [_, _], parsed | [_, _, _], parsed =>
      simp [parse] at parsed
  | first :: second :: third :: fourth :: tail, parsed =>
      simp only [parse] at parsed
      split at parsed
      · simp at parsed
      · rename_i fits
        split at parsed
        · simp at parsed
        · rename_i enough
          simp only [Prod.mk.injEq, Except.ok.injEq] at parsed
          obtain ⟨rfl, rfl⟩ := parsed
          have lead := octets_header first second third fourth
          generalize ((first.toNat * 256 + second.toNat) * 256 + third.toNat) * 256 +
            fourth.toNat = length at *
          have size : (tail.take length).toByteArray.size = length := by
            rw [← length_octets, octets_toByteArray, List.length_take]
            omega
          refine ⟨?_, by omega⟩
          rw [around, size, octets_append, lead, octets_toByteArray]
          simp

end Frame

namespace FrameBuffer

theorem octets_fill (buffer : FrameBuffer) (position : Nat) (bytes : ByteArray) :
    octets (buffer.fill position bytes).bytes =
      (octets buffer.bytes).take position ++ octets bytes ++
        (octets buffer.bytes).drop (position + bytes.size) := by
  have all : (octets bytes).take bytes.size = octets bytes := by
    rw [← length_octets, List.take_length]
  have tail : ((octets buffer.bytes).drop (position + bytes.size)).take
      (buffer.bytes.size - (position + bytes.size)) =
      (octets buffer.bytes).drop (position + bytes.size) := by
    rw [← length_octets, ← List.length_drop, List.take_length]
  rw [fill, ByteArray.copySlice_eq_append]
  simp only [octets_append, octets_extract, Nat.zero_add, Nat.sub_zero, List.drop_zero,
    ByteArray.size_data, Nat.min_self, all, tail]

theorem take_fill (buffer : FrameBuffer) (bytes : ByteArray) :
    (buffer.fill 0 bytes).take bytes.size = bytes := by
  apply octets_inj
  rw [take, octets_extract, octets_fill, List.drop_zero, List.take_zero, List.nil_append,
    Nat.sub_zero, ← length_octets, List.take_left]

theorem take_fill_fill (buffer : FrameBuffer) (front back : ByteArray) :
    ((buffer.fill 0 front).fill front.size back).take (front.size + back.size) =
      front ++ back := by
  have before : (octets (buffer.fill 0 front).bytes).take front.size = octets front := by
    rw [octets_fill, List.take_zero, List.nil_append, ← length_octets, List.take_left]
  apply octets_inj
  rw [take, octets_extract, octets_fill, before, List.drop_zero, Nat.sub_zero, octets_append,
    ← length_octets, ← length_octets, ← List.length_append, List.take_left]

theorem frame_eq {α : Type} [Message α] (buffer : FrameBuffer) {message : α}
    (counted : (Message.encode message).size = Message.size message)
    (fits : Message.size message ≤ Frame.longest) :
    (buffer.frame message).1 =
      .ok (Frame.header (Message.size message) ++ Message.encode message) := by
  have made := (buffer.scratch (Frame.headerSize + Message.size message)).take_fill_fill
    (Frame.header (Message.size message)) (Message.encode message)
  rw [Frame.size_header, counted] at made
  simp only [frame, if_neg (Nat.not_lt.mpr fits), if_pos counted, made]

theorem readHeader_of_le {source : Source} (enough : Frame.headerSize ≤ source.rest.length) :
    ∃ after, readHeader source =
        (.ok (Frame.headerValue (source.rest.take Frame.headerSize).toByteArray), after) ∧
      after.rest = source.rest.drop Frame.headerSize ∧ after.ending = source.ending := by
  obtain ⟨bytes, stop, rest, ending⟩ := source.gather_eq Frame.headerSize ByteArray.empty
  have got : (source.gather Frame.headerSize ByteArray.empty).bytes =
      (source.rest.take Frame.headerSize).toByteArray :=
    octets_inj (by rw [bytes, octets_empty, List.nil_append, octets_toByteArray])
  refine ⟨_, ?_, rest, ending⟩
  rw [readHeader, stop, if_pos enough, got]

theorem readHeader_of_lt {source : Source} (few : source.rest.length < Frame.headerSize) :
    ∃ after, readHeader source =
        (.error (source.ending.fault
          (if source.rest = [] then .closed else .channel .unexpectedEnd)), after) ∧
      after.rest = [] ∧ after.ending = source.ending := by
  obtain ⟨bytes, stop, rest, ending⟩ := source.gather_eq Frame.headerSize ByteArray.empty
  rw [List.take_of_length_le (Nat.le_of_lt few), octets_empty, List.nil_append] at bytes
  rw [List.drop_of_length_le (Nat.le_of_lt few)] at rest
  refine ⟨_, ?_, rest, ending⟩
  rw [readHeader, stop, if_neg (Nat.not_le.mpr few), ← length_octets, bytes]
  cases source.ending with
  | closed =>
      by_cases none_left : source.rest = []
      · simp [none_left, Ending.stop, Ending.fault]
      · simp [none_left, Ending.stop, Ending.fault]
  | broken fault => rfl

/-- Receiving a frame agrees with the grammar, and a length that is refused leaves the buffer as
it was. -/
theorem readFrame_eq (buffer : FrameBuffer) (source : Source) :
    ((buffer.readFrame source).1, (buffer.readFrame source).2.2.rest) =
        Frame.parse source.ending source.rest ∧
      (buffer.readFrame source).2.2.ending = source.ending ∧
      ∀ length, (buffer.readFrame source).1 = .error (.tooLarge length) →
        (buffer.readFrame source).2.1 = buffer := by
  by_cases few : source.rest.length < Frame.headerSize
  · obtain ⟨after, header, rest, ending⟩ := readHeader_of_lt few
    rw [Frame.parse_of_lt _ few]
    simp only [readFrame, header, rest, ending, implies_true, and_self]
  · obtain ⟨middle, header, remains, ending⟩ := readHeader_of_le (Nat.not_lt.mp few)
    rw [Frame.parse_of_le _ (Nat.not_lt.mp few)]
    simp only [readFrame, header]
    generalize Frame.headerValue (source.rest.take Frame.headerSize).toByteArray = length
    by_cases large : Frame.longest < length
    · simp only [if_pos large, remains, ending, implies_true, and_self]
    · obtain ⟨bytes, stop, rest, same⟩ := middle.gather_eq length ByteArray.empty
      rw [octets_empty, List.nil_append] at bytes
      rw [remains] at bytes stop rest
      rw [ending] at stop same
      simp only [if_neg large, stop, rest, same, true_and]
      by_cases short : (source.rest.drop Frame.headerSize).length < length
      · rw [if_neg (Nat.not_le.mpr short), if_pos short,
          List.drop_of_length_le (Nat.le_of_lt short)]
        cases source.ending <;> simp [Ending.stop, Ending.fault]
      · have whole : (middle.gather length ByteArray.empty).bytes =
            ((source.rest.drop Frame.headerSize).take length).toByteArray :=
          octets_inj (by rw [bytes, octets_toByteArray])
        have size : ((source.rest.drop Frame.headerSize).take length).toByteArray.size =
            length := by
          rw [List.size_toByteArray, List.length_take]
          omega
        have taken := (buffer.scratch length).take_fill
          ((source.rest.drop Frame.headerSize).take length).toByteArray
        rw [size] at taken
        rw [if_pos (Nat.not_lt.mp short), if_neg short, whole]
        simp only [taken, reduceCtorEq, false_implies, implies_true, and_self]

theorem read_eq {α : Type} [Message α] (buffer : FrameBuffer) (source : Source) :
    (buffer.read source : Except WireError α × FrameBuffer × Source) =
      ((buffer.readFrame source).1.bind fun payload => (Message.decode payload).mapError .decode,
        (buffer.readFrame source).2) := by
  rw [read]
  obtain ⟨result, after⟩ := buffer.readFrame source
  cases result <;> rfl

end FrameBuffer

end BuildWatch
