/-!
Variable-length integers and the place in a byte string that is read next. Seven bits stand in a
byte, the lowest first, and the top bit says that more follow; a number below 2^64 takes at most
ten bytes, and the tenth is at most one.
-/

namespace BuildWatch

structure Input where
  bytes : ByteArray
  position : Nat

namespace Input

def ofBytes (bytes : ByteArray) : Input := ⟨bytes, 0⟩

def remaining (input : Input) : Nat :=
  input.bytes.size - input.position

def toList (input : Input) : List UInt8 :=
  input.bytes.data.toList.drop input.position

def next? (input : Input) : Option (UInt8 × Input) :=
  if h : input.position < input.bytes.size then
    some (input.bytes[input.position], ⟨input.bytes, input.position + 1⟩)
  else none

def take? (input : Input) (count : Nat) : Option (ByteArray × Input) :=
  if count ≤ input.remaining then
    some (input.bytes.extract input.position (input.position + count),
      ⟨input.bytes, input.position + count⟩)
  else none

end Input

namespace Varint

def limit : Nat := 0x10000000000000000

def encode (number : Nat) : List UInt8 :=
  if number < 128 then [UInt8.ofNat number]
  else UInt8.ofNat (number % 128 + 128) :: encode (number / 128)

def size (number : Nat) : Nat :=
  if number < 128 then 1 else size (number / 128) + 1

def readWithin : Nat → Input → Option (Nat × Input)
  | 0, _ => none
  | budget + 1, input =>
    match input.next? with
    | none => none
    | some (byte, rest) =>
      if byte < 128 then some (byte.toNat, rest)
      else match readWithin budget rest with
        | none => none
        | some (high, rest) => some (byte.toNat - 128 + 128 * high, rest)

def read? (input : Input) : Option (Nat × Input) :=
  match readWithin 10 input with
  | some (number, rest) => if number < limit then some (number, rest) else none
  | none => none

end Varint

end BuildWatch
