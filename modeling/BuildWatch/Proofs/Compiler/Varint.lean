import BuildWatch.Compiler.Varint
import Mathlib

/-!
Reading against the bytes that are left. An input is seen as the list of its unread bytes; a
number that stands in front of it is read back, in as many bytes as were counted for it.
-/

namespace BuildWatch

def octets (bytes : ByteArray) : List UInt8 :=
  bytes.data.toList

@[simp] theorem octets_empty : octets ByteArray.empty = [] := rfl

@[simp] theorem octets_append (front back : ByteArray) :
    octets (front ++ back) = octets front ++ octets back :=
  ByteArray.toList_data_append

@[simp] theorem octets_toByteArray (values : List UInt8) : octets values.toByteArray = values := by
  simp [octets]

@[simp] theorem length_octets (bytes : ByteArray) : (octets bytes).length = bytes.size := rfl

@[simp] theorem octets_extract (bytes : ByteArray) (start stop : Nat) :
    octets (bytes.extract start stop) = ((octets bytes).drop start).take (stop - start) := by
  simp [octets, List.extract_eq_take_drop]

theorem octets_inj {front back : ByteArray} (same : octets front = octets back) :
    front = back :=
  ByteArray.ext (Array.toList_inj.mp same)

namespace Input

theorem toList_eq (input : Input) : input.toList = (octets input.bytes).drop input.position := rfl

theorem remaining_eq (input : Input) : input.remaining = input.toList.length := by
  rw [toList_eq, List.length_drop, length_octets, remaining]

theorem next?_of_toList {input : Input} {byte : UInt8} {rest : List UInt8}
    (view : input.toList = byte :: rest) :
    ∃ after, input.next? = some (byte, after) ∧ after.toList = rest := by
  have inside : input.position < input.bytes.size := by
    have length := input.remaining_eq
    rw [view, remaining, List.length_cons] at length
    omega
  rw [toList_eq, List.drop_eq_getElem_cons (by simpa using inside)] at view
  obtain ⟨head, tail⟩ := List.cons.inj view
  refine ⟨⟨input.bytes, input.position + 1⟩, ?_, tail⟩
  rw [next?, dif_pos inside, ← head]
  rfl

theorem take?_of_toList {input : Input} {bytes : ByteArray} {rest : List UInt8}
    (view : input.toList = octets bytes ++ rest) :
    ∃ after, input.take? bytes.size = some (bytes, after) ∧ after.toList = rest := by
  have enough : bytes.size ≤ input.remaining := by
    rw [remaining_eq, view, List.length_append, length_octets]
    omega
  refine ⟨⟨input.bytes, input.position + bytes.size⟩, ?_, ?_⟩
  · have same : input.bytes.extract input.position (input.position + bytes.size) = bytes := by
      apply octets_inj
      rw [octets_extract, ← toList_eq, view, Nat.add_sub_cancel_left, ← length_octets,
        List.take_left]
    rw [take?, if_pos enough, same]
  · rw [toList_eq] at view
    rw [toList_eq, ← List.drop_drop, view, ← length_octets, List.drop_left]

end Input

namespace Varint

theorem encode_ne_nil (number : Nat) : encode number ≠ [] := by
  unfold encode
  split <;> exact List.cons_ne_nil _ _

theorem length_encode (number : Nat) : (encode number).length = size number := by
  fun_induction encode number with
  | case1 number small => rw [size, if_pos small, List.length_singleton]
  | case2 number large ih => rw [size, if_neg large, List.length_cons, ih]

theorem size_add_of_lt (number low : Nat) (small : low < 8) :
    size (number * 8 + low) = size (number * 8) := by
  have high : (number * 8 + low) / 128 = number * 8 / 128 := by omega
  unfold size
  by_cases short : number * 8 < 128
  · rw [if_pos short, if_pos (by omega)]
  · rw [if_neg short, if_neg (by omega), high]

theorem toNat_ofNat_of_lt {number : Nat} (small : number < 256) :
    (UInt8.ofNat number).toNat = number := by
  rw [UInt8.toNat_ofNat']
  exact Nat.mod_eq_of_lt small

theorem readWithin_encode {budget number : Nat} (fits : number < 128 ^ (budget + 1))
    {input : Input} {rest : List UInt8} (view : input.toList = encode number ++ rest) :
    ∃ after, readWithin (budget + 1) input = some (number, after) ∧ after.toList = rest := by
  fun_induction encode number generalizing budget input with
  | case1 number small =>
      obtain ⟨after, next, left⟩ := Input.next?_of_toList view
      have byte : (UInt8.ofNat number).toNat = number := toNat_ofNat_of_lt (by omega)
      have final : UInt8.ofNat number < 128 := by
        rw [UInt8.lt_iff_toNat_lt, byte]
        exact small
      refine ⟨after, ?_, left⟩
      simp only [readWithin, next, if_pos final, byte]
  | case2 number large ih =>
      obtain ⟨between, next, middle⟩ := Input.next?_of_toList view
      have byte : (UInt8.ofNat (number % 128 + 128)).toNat = number % 128 + 128 :=
        toNat_ofNat_of_lt (by omega)
      have goes : ¬ UInt8.ofNat (number % 128 + 128) < 128 := by
        rw [UInt8.lt_iff_toNat_lt, byte, Nat.not_lt]
        exact Nat.le_add_left _ _
      -- each byte that goes on takes one from the budget and seven bits from the number
      cases budget with
      | zero => exact absurd fits large
      | succ budget =>
          have high : number / 128 < 128 ^ (budget + 1) :=
            (Nat.div_lt_iff_lt_mul (by decide)).mpr fits
          obtain ⟨after, read, left⟩ := ih high middle
          refine ⟨after, ?_, left⟩
          rw [readWithin, next]
          simp only [if_neg goes, read, byte]
          congr 2
          omega

theorem read?_encode {number : Nat} (fits : number < limit) {input : Input} {rest : List UInt8}
    (view : input.toList = encode number ++ rest) :
    ∃ after, read? input = some (number, after) ∧ after.toList = rest := by
  have bounded : number < 128 ^ (9 + 1) := Nat.lt_trans fits (by decide)
  obtain ⟨after, read, left⟩ := readWithin_encode bounded view
  refine ⟨after, ?_, left⟩
  rw [read?, read]
  exact if_pos fits

end Varint

end BuildWatch
