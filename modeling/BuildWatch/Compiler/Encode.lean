import BuildWatch.Compiler.Message
import BuildWatch.Compiler.Varint

/-!
How messages are written: each field as a key (its number and the form of its value) and the
value, in the order of the field numbers. A field with its default value is left out, except that
every element of a list and every chosen value of a constant is written. The written size is
computed without writing, by `Request.size` and its companions.
-/

namespace BuildWatch

inductive WireType where
  | varint
  | sixtyFourBit
  | lengthDelimited
  | startGroup
  | endGroup
  | thirtyTwoBit
  deriving DecidableEq, Repr

namespace WireType

def number : WireType → Nat
  | varint => 0
  | sixtyFourBit => 1
  | lengthDelimited => 2
  | startGroup => 3
  | endGroup => 4
  | thirtyTwoBit => 5

def ofNumber? : Nat → Option WireType
  | 0 => some varint
  | 1 => some sixtyFourBit
  | 2 => some lengthDelimited
  | 3 => some startGroup
  | 4 => some endGroup
  | 5 => some thirtyTwoBit
  | _ => none

def label : WireType → String
  | varint => "Varint"
  | sixtyFourBit => "SixtyFourBit"
  | lengthDelimited => "LengthDelimited"
  | startGroup => "StartGroup"
  | endGroup => "EndGroup"
  | thirtyTwoBit => "ThirtyTwoBit"

end WireType

namespace Field

def varint (number : Nat) : ByteArray :=
  (Varint.encode number).toByteArray

def key (field : Nat) (wire : WireType) : ByteArray :=
  varint (field * 8 + wire.number)

def keySize (field : Nat) : Nat :=
  Varint.size (field * 8)

def delimited (field : Nat) (payload : ByteArray) : ByteArray :=
  key field .lengthDelimited ++ varint payload.size ++ payload

def delimitedSize (field length : Nat) : Nat :=
  keySize field + Varint.size length + length

def number (field value : Nat) : ByteArray :=
  key field .varint ++ varint value

def numberSize (field value : Nat) : Nat :=
  keySize field + Varint.size value

def text (field : Nat) (value : String) : ByteArray :=
  delimited field value.toUTF8

def textSize (field : Nat) (value : String) : Nat :=
  delimitedSize field value.utf8ByteSize

def sixtyFour (bits : UInt64) : ByteArray :=
  ((List.range 8).map fun place => (bits >>> (8 * place).toUInt64).toUInt8).toByteArray

def optional (isDefault : Bool) (written : ByteArray) : ByteArray :=
  if isDefault then ByteArray.empty else written

def optionalSize (isDefault : Bool) (written : Nat) : Nat :=
  if isDefault then 0 else written

def each (write : α → ByteArray) (values : List α) : ByteArray :=
  values.foldl (fun bytes value => bytes ++ write value) ByteArray.empty

def sizeEach (size : α → Nat) (values : List α) : Nat :=
  values.foldr (fun value total => size value + total) 0

def word (value : Int32) : Nat :=
  (value.toInt % (Varint.limit : Int)).toNat

end Field

namespace DefineValue

def encode : DefineValue → ByteArray
  | boolean value => Field.number 2 value.toNat
  | number bits => Field.key 3 .sixtyFourBit ++ Field.sixtyFour bits
  | text value => Field.text 4 value

def size : DefineValue → Nat
  | boolean value => Field.numberSize 2 value.toNat
  | number _ => Field.keySize 3 + 8
  | text value => Field.textSize 4 value

end DefineValue

namespace Define

def encode (define : Define) : ByteArray :=
  Field.optional (define.name = "") (Field.text 1 define.name) ++
    (define.value.map DefineValue.encode).getD ByteArray.empty

def size (define : Define) : Nat :=
  Field.optionalSize (define.name = "") (Field.textSize 1 define.name) +
    (define.value.map DefineValue.size).getD 0

end Define

namespace Request

def encode (request : Request) : ByteArray :=
  Field.each (Field.text 1) request.files ++
    Field.each (Field.text 2) request.entryPoints ++
    Field.optional (request.baseDirectory = "") (Field.text 3 request.baseDirectory) ++
    Field.optional (request.sourceMapName = "") (Field.text 4 request.sourceMapName) ++
    Field.each (fun define => Field.delimited 5 define.encode) request.defines

def size (request : Request) : Nat :=
  Field.sizeEach (Field.textSize 1) request.files +
    Field.sizeEach (Field.textSize 2) request.entryPoints +
    Field.optionalSize (request.baseDirectory = "") (Field.textSize 3 request.baseDirectory) +
    Field.optionalSize (request.sourceMapName = "") (Field.textSize 4 request.sourceMapName) +
    Field.sizeEach (fun define => Field.delimitedSize 5 define.size) request.defines

end Request

namespace Finding

def encode (finding : Finding) : ByteArray :=
  Field.optional (finding.severity = 0) (Field.number 1 (Field.word finding.severity)) ++
    Field.optional (finding.file = "") (Field.text 2 finding.file) ++
    Field.optional (finding.line = 0) (Field.number 3 finding.line.toNat) ++
    Field.optional (finding.column = 0) (Field.number 4 finding.column.toNat) ++
    Field.optional (finding.message = "") (Field.text 5 finding.message)

def size (finding : Finding) : Nat :=
  Field.optionalSize (finding.severity = 0) (Field.numberSize 1 (Field.word finding.severity)) +
    Field.optionalSize (finding.file = "") (Field.textSize 2 finding.file) +
    Field.optionalSize (finding.line = 0) (Field.numberSize 3 finding.line.toNat) +
    Field.optionalSize (finding.column = 0) (Field.numberSize 4 finding.column.toNat) +
    Field.optionalSize (finding.message = "") (Field.textSize 5 finding.message)

end Finding

namespace Response

def encode (response : Response) : ByteArray :=
  Field.optional response.code.isEmpty (Field.delimited 1 response.code) ++
    Field.optional response.sourceMap.isEmpty (Field.delimited 2 response.sourceMap) ++
    Field.each (fun finding => Field.delimited 3 finding.encode) response.findings

def size (response : Response) : Nat :=
  Field.optionalSize response.code.isEmpty (Field.delimitedSize 1 response.code.size) +
    Field.optionalSize response.sourceMap.isEmpty
      (Field.delimitedSize 2 response.sourceMap.size) +
    Field.sizeEach (fun finding => Field.delimitedSize 3 finding.size) response.findings

end Response

end BuildWatch
