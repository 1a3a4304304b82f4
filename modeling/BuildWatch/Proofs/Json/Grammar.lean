import BuildWatch.Json.Text
import Mathlib

/-!
JSON values and the texts that write them. A value may be written in many ways: blanks stand
between its parts, and a character of a string stands for itself or is escaped. What a value is
shows in the first byte of its text.
-/

namespace BuildWatch.Json

/-- A value; a number is kept as it is written, an object with the order of its members. -/
inductive Value where
  | null
  | boolean (value : Bool)
  | number (literal : List UInt8)
  | text (content : String)
  | list (elements : List Value)
  | object (members : List (String × Value))

/-- A key and its value. -/
abbrev Member := String × Value

def IsBlank (bytes : List UInt8) : Prop :=
  ∀ byte ∈ bytes, byte ∈ [32, 9, 10, 13]

section Strings

def IsHexDigit (value : Nat) (byte : UInt8) : Prop :=
  byte = UInt8.ofNat value.digitChar.toNat ∨ byte = UInt8.ofNat value.digitChar.toUpper.toNat

def IsHex (number : Nat) (digits : List UInt8) : Prop :=
  number < 65536 ∧
    List.Forall₂ IsHexDigit
      [number / 4096, number / 256 % 16, number / 16 % 16, number % 16] digits

def letterEscapes : List (UInt8 × Char) :=
  [(34, '"'), (92, '\\'), (47, '/'), (98, '\x08'), (102, '\x0c'), (110, '\n'), (114, '\r'),
    (116, '\t')]

/-- A character as it may stand in a string: as its bytes, by the escape of a letter, by its
number, or, beyond 16 bits, by the numbers of two surrogates. -/
inductive Spelled : Char → List UInt8 → Prop
  | plain {char : Char} : 32 ≤ char.toNat → char ≠ '"' → char ≠ '\\' →
      Spelled char (String.utf8EncodeChar char)
  | letter {char : Char} {letter : UInt8} : (letter, char) ∈ letterEscapes →
      Spelled char [backslash, letter]
  | number {char : Char} {digits : List UInt8} : IsHex char.toNat digits →
      Spelled char (backslash :: letterU :: digits)
  | surrogates {char : Char} {high low : Nat} {first second : List UInt8} :
      char.toNat = 0x10000 + high * 1024 + low → high < 1024 → low < 1024 →
      IsHex (0xD800 + high) first → IsHex (0xDC00 + low) second →
      Spelled char (backslash :: letterU :: (first ++ backslash :: letterU :: second))

/-- A string with its quotes. -/
inductive Quoted : String → List UInt8 → Prop
  | spelled {content : String} {pieces : List (List UInt8)} :
      List.Forall₂ Spelled content.toList pieces →
      Quoted content (quoteByte :: (pieces.flatten ++ [quoteByte]))

end Strings

section Values

def digitBytes : List UInt8 := [48, 49, 50, 51, 52, 53, 54, 55, 56, 57]

def IsDigits (bytes : List UInt8) : Prop :=
  bytes ≠ [] ∧ ∀ byte ∈ bytes, byte ∈ digitBytes

/-- A number: a sign, digits without a leading zero, a fraction and an exponent. -/
inductive IsNumber : List UInt8 → Prop
  | parts {sign digits fraction exponent : List UInt8} :
      sign ∈ [[], [45]] → IsDigits digits → (digits.head? = some 48 → digits = [48]) →
      (fraction = [] ∨ ∃ places, IsDigits places ∧ fraction = 46 :: places) →
      (exponent = [] ∨ ∃ mark ∈ [101, 69], ∃ direction ∈ [[], [43], [45]], ∃ power,
        IsDigits power ∧ exponent = mark :: (direction ++ power)) →
      IsNumber (sign ++ digits ++ fraction ++ exponent)

/-- What stands in front of an item: blanks and, unless it is the first, a comma. -/
inductive Gap : Bool → List UInt8 → Prop
  | first {blank : List UInt8} : IsBlank blank → Gap true blank
  | next {before after : List UInt8} : IsBlank before → IsBlank after →
      Gap false (before ++ 44 :: after)

mutual

/-- The texts that write a value. -/
inductive Written : Value → List UInt8 → Prop
  | null : Written .null [110, 117, 108, 108]
  | yes : Written (.boolean true) [116, 114, 117, 101]
  | no : Written (.boolean false) [102, 97, 108, 115, 101]
  | number {literal : List UInt8} : IsNumber literal → Written (.number literal) literal
  | text {content : String} {bytes : List UInt8} : Quoted content bytes →
      Written (.text content) bytes
  | list {elements : List Value} {bytes : List UInt8} : WrittenElements true elements bytes →
      Written (.list elements) (91 :: (bytes ++ [93]))
  | object {members : List Member} {bytes : List UInt8} : WrittenMembers true members bytes →
      Written (.object members) (123 :: (bytes ++ [125]))

/-- The elements of a list, up to its bracket; `isFirst` says that none stands before them. -/
inductive WrittenElements : Bool → List Value → List UInt8 → Prop
  | none {isFirst : Bool} {blank : List UInt8} : IsBlank blank → WrittenElements isFirst [] blank
  | more {isFirst : Bool} {gap bytes rest : List UInt8} {value : Value} {elements : List Value} :
      Gap isFirst gap → Written value bytes → WrittenElements false elements rest →
      WrittenElements isFirst (value :: elements) (gap ++ (bytes ++ rest))

/-- The members of an object, up to its brace; `isFirst` says that none stands before them. -/
inductive WrittenMembers : Bool → List Member → List UInt8 → Prop
  | none {isFirst : Bool} {blank : List UInt8} : IsBlank blank → WrittenMembers isFirst [] blank
  | more {isFirst : Bool} {gap key before after bytes rest : List UInt8} {name : String}
      {value : Value} {members : List Member} :
      Gap isFirst gap → Quoted name key → IsBlank before → IsBlank after → Written value bytes →
      WrittenMembers false members rest →
      WrittenMembers isFirst ((name, value) :: members)
        (gap ++ (key ++ (before ++ 58 :: (after ++ (bytes ++ rest)))))

end

/-- A text that holds one value, with blanks around it. -/
inductive Document : Value → List UInt8 → Prop
  | surrounded {value : Value} {before bytes after : List UInt8} :
      IsBlank before → Written value bytes → IsBlank after →
      Document value (before ++ (bytes ++ after))

end Values

end BuildWatch.Json
