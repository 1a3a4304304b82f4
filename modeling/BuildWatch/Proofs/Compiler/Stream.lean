import BuildWatch.Compiler.Stream
import BuildWatch.Proofs.Compiler.Varint

/-!
The pieces in which a stream moves its bytes do not show. What reading for a number of bytes yields
depends on the bytes that are left and on how the stream ends, and what is written is what was
offered, whatever the pace.
-/

namespace BuildWatch

def Ending.stop : Ending → Stop
  | closed => .ended
  | broken fault => .failed fault

namespace Source

variable {source after : Source} {wanted missing : Nat}

def rest (source : Source) : List UInt8 :=
  (octets source.bytes).drop source.position

theorem left_eq (source : Source) : source.left = source.rest.length := by
  rw [rest, List.length_drop, length_octets, left]

theorem read_of_nil (empty : source.rest = []) (wanted : Nat) :
    source.read wanted =
      (match source.ending with
        | .closed => .ok ByteArray.empty
        | .broken fault => .error fault, source) := by
  have none_left : source.left = 0 := by rw [left_eq, empty, List.length_nil]
  rw [read, if_pos none_left]
  cases source.ending <;> rfl

theorem read_of_ne_nil (more : source.rest ≠ []) (wanted : Nat) :
    source.read wanted =
      (.ok (source.bytes.extract source.position (source.position + source.nextCount wanted)),
        { source with
          position := source.position + source.nextCount wanted
          turns := source.turns + 1 }) := by
  have some_left : source.left ≠ 0 := by
    rw [left_eq]
    exact fun none_left => more (List.eq_nil_of_length_eq_zero none_left)
  rw [read, if_neg some_left]

theorem nextCount_le (source : Source) (wanted : Nat) :
    source.nextCount wanted ≤ wanted ∧ source.nextCount wanted ≤ source.rest.length := by
  rw [nextCount, left_eq]
  omega

theorem nextCount_pos (more : source.rest ≠ []) {wanted : Nat} (some_wanted : wanted ≠ 0) :
    0 < source.nextCount wanted := by
  have some_left := List.length_pos_iff.mpr more
  rw [nextCount, left_eq]
  omega

theorem read_fault {fault : ChannelFault} (turn : source.read wanted = (.error fault, after)) :
    source.rest = [] ∧ source.ending = .broken fault ∧ after = source := by
  by_cases empty : source.rest = []
  · rw [read_of_nil empty] at turn
    cases ending : source.ending with
    | closed => simp [ending] at turn
    | broken other =>
        simp only [ending, Prod.mk.injEq, Except.error.injEq] at turn
        exact ⟨empty, congrArg _ turn.1, turn.2.symm⟩
  · simp [read_of_ne_nil empty] at turn

theorem read_piece {piece : ByteArray} (turn : source.read wanted = (.ok piece, after))
    (moved : piece.size ≠ 0) :
    octets piece = source.rest.take piece.size ∧ piece.size ≤ wanted ∧
      piece.size ≤ source.rest.length ∧ after.rest = source.rest.drop piece.size ∧
      after.ending = source.ending := by
  by_cases empty : source.rest = []
  · rw [read_of_nil empty] at turn
    cases ending : source.ending with
    | closed =>
        simp only [ending, Prod.mk.injEq, Except.ok.injEq] at turn
        exact absurd (turn.1 ▸ rfl) moved
    | broken fault => simp [ending] at turn
  · rw [read_of_ne_nil empty] at turn
    simp only [Prod.mk.injEq, Except.ok.injEq] at turn
    obtain ⟨same, rfl⟩ := turn
    have taken : octets piece = source.rest.take (source.nextCount wanted) := by
      rw [← same, octets_extract, Nat.add_sub_cancel_left, rest]
    obtain ⟨asked, within⟩ := source.nextCount_le wanted
    have size : piece.size = source.nextCount wanted := by
      rw [← length_octets, taken, List.length_take]
      exact Nat.min_eq_left within
    refine ⟨size ▸ taken, size ▸ asked, size ▸ within, ?_, rfl⟩
    rw [size, rest, rest, List.drop_drop]

theorem read_nothing {piece : ByteArray} (turn : source.read wanted = (.ok piece, after))
    (nothing : piece.size = 0) (some_wanted : wanted ≠ 0) :
    source.rest = [] ∧ source.ending = .closed ∧ after = source := by
  by_cases empty : source.rest = []
  · rw [read_of_nil empty] at turn
    cases ending : source.ending with
    | closed =>
        simp only [Prod.mk.injEq] at turn
        exact ⟨empty, rfl, turn.2.symm⟩
    | broken fault => simp [ending] at turn
  · rw [read_of_ne_nil empty] at turn
    simp only [Prod.mk.injEq, Except.ok.injEq] at turn
    have moved := nextCount_pos empty some_wanted
    have within := (source.nextCount_le wanted).2
    have size := congrArg ByteArray.size turn.1
    rw [nothing, ByteArray.size_extract, ← length_octets] at size
    rw [rest, List.length_drop] at within
    omega

theorem gather_eq (source : Source) (missing : Nat) (got : ByteArray) :
    octets (source.gather missing got).bytes = octets got ++ source.rest.take missing ∧
      (source.gather missing got).stop =
        (if missing ≤ source.rest.length then .complete else source.ending.stop) ∧
      (source.gather missing got).source.rest = source.rest.drop missing ∧
      (source.gather missing got).source.ending = source.ending := by
  fun_induction gather source missing got with
  | case1 source got => simp
  | case2 source missing got wanted fault after turn =>
      obtain ⟨empty, ending, rfl⟩ := read_fault turn
      simp [empty, ending, wanted, Ending.stop]
  | case3 source missing got wanted piece after turn nothing =>
      obtain ⟨empty, ending, rfl⟩ := read_nothing turn nothing wanted
      simp [empty, ending, wanted, Ending.stop]
  | case4 source missing got wanted piece after turn moved ih =>
      -- the turn has moved the beginning of what is wanted, the others move the rest of it
      obtain ⟨taken, asked, within, dropped, same⟩ := read_piece turn moved
      obtain ⟨bytes, stop, rest, ending⟩ := ih
      refine ⟨?_, ?_, ?_, ending.trans same⟩
      · rw [bytes, dropped, octets_append, taken, List.append_assoc, ← List.take_add]
        congr 2
        omega
      · rw [stop, dropped, same, List.length_drop]
        congr 1
        rw [eq_iff_iff]
        omega
      · rw [rest, dropped, List.drop_drop]
        congr 1
        omega

end Source

namespace Sink

theorem write_cases (sink : Sink) (bytes : ByteArray) (position : Nat) :
    ∃ part, octets (sink.write bytes position).2.bytes = octets sink.bytes ++ part ∧
      ((sink.write bytes position).1 = .ok () ∧ part = (octets bytes).drop position ∨
        (sink.write bytes position).1 = .error .brokenPipe ∧
          ∃ unsent, unsent ≠ [] ∧ (octets bytes).drop position = part ++ unsent) := by
  fun_induction write sink bytes position with
  | case1 sink position inside count nothing =>
      refine ⟨[], (List.append_nil _).symm, .inr ⟨rfl, (octets bytes).drop position, ?_, rfl⟩⟩
      rw [ne_eq, List.drop_eq_nil_iff, length_octets]
      omega
  | case2 sink position inside count moved after ih =>
      obtain ⟨part, written, outcome⟩ := ih
      have pieces : (octets bytes).drop position =
          octets (bytes.extract position (position + count)) ++
            (octets bytes).drop (position + count) := by
        rw [octets_extract, Nat.add_sub_cancel_left, ← List.drop_drop, List.take_append_drop]
      refine ⟨octets (bytes.extract position (position + count)) ++ part, ?_, ?_⟩
      · rw [written, octets_append, List.append_assoc]
      · rcases outcome with ⟨done, rfl⟩ | ⟨broken, unsent, some_left, rest⟩
        · exact .inl ⟨done, pieces.symm⟩
        · refine .inr ⟨broken, unsent, some_left, ?_⟩
          rw [pieces, rest, List.append_assoc]
  | case3 sink position outside =>
      have nothing : (octets bytes).drop position = [] := by
        rw [List.drop_eq_nil_iff, length_octets]
        omega
      exact ⟨[], (List.append_nil _).symm, .inl ⟨rfl, nothing.symm⟩⟩

theorem write_endless {sink : Sink} (endless : sink.room = none) (bytes : ByteArray)
    (position : Nat) :
    (sink.write bytes position).1 = .ok () ∧ (sink.write bytes position).2.room = none := by
  fun_induction write sink bytes position with
  | case1 sink position inside count nothing =>
      simp only [count, nextCount, endless, Option.getD_none] at nothing
      omega
  | case2 sink position inside count moved after ih =>
      exact ih (by simp only [after, endless, Option.map_none])
  | case3 sink position outside => exact ⟨rfl, endless⟩

theorem write_eq {sink : Sink} (endless : sink.room = none) (bytes : ByteArray)
    (position : Nat) :
    (sink.write bytes position).1 = .ok () ∧
      octets (sink.write bytes position).2.bytes =
        octets sink.bytes ++ (octets bytes).drop position ∧
      (sink.write bytes position).2.room = none := by
  obtain ⟨accepted, still⟩ := write_endless endless bytes position
  obtain ⟨part, written, ⟨-, rfl⟩ | ⟨broken, -⟩⟩ := sink.write_cases bytes position
  · exact ⟨accepted, written, still⟩
  · simp [accepted] at broken

end Sink

end BuildWatch
