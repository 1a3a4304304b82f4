import BuildWatch.Text.Quoted
import BuildWatch.Text.Shortest
import BuildWatch.Text.Utf8

/-!
A place in a JSON text and the faults that reading can find there. A fault is reported either at
the place reached or one byte further, where the byte that was looked at ends; `Place.ofOffset`
turns an offset into a line and a column.
-/

namespace BuildWatch.Json

inductive Found where
  | null
  | boolean (value : Bool)
  | integer (value : Int)
  | float (value : Float)
  | text (value : String)
  | sequence
  | record

def Found.message : Found → String
  | null => "null"
  | boolean value => "boolean `" ++ toString value ++ "`"
  | integer value => "integer `" ++ toString value ++ "`"
  | float value => "floating point `" ++ Shortest.text value ++ "`"
  | text value => "string " ++ Quoted.quote value
  | sequence => "sequence"
  | record => "map"

inductive Fault where
  | endInList
  | endInObject
  | endInText
  | endInValue
  | expectedColon
  | expectedListComma
  | expectedObjectComma
  | expectedIdent
  | expectedValue
  | invalidEscape
  | invalidNumber
  | outOfRange
  | invalidCodePoint
  | control
  | keyNotText
  | loneSurrogate
  | trailingComma
  | trailingCharacters
  | endOfHexEscape
  | wrongType (found : Found) (expected : String)
  | unknownField (name : String) (known : List String)
  | duplicateField (name : String)

def listing : List String → String
  | [] => "there are no fields"
  | [name] => "expected `" ++ name ++ "`"
  | [first, second] => "expected `" ++ first ++ "` or `" ++ second ++ "`"
  | names => "expected one of " ++ ", ".intercalate (names.map fun name => "`" ++ name ++ "`")

def Fault.message : Fault → String
  | endInList => "EOF while parsing a list"
  | endInObject => "EOF while parsing an object"
  | endInText => "EOF while parsing a string"
  | endInValue => "EOF while parsing a value"
  | expectedColon => "expected `:`"
  | expectedListComma => "expected `,` or `]`"
  | expectedObjectComma => "expected `,` or `\x7d`"
  | expectedIdent => "expected ident"
  | expectedValue => "expected value"
  | invalidEscape => "invalid escape"
  | invalidNumber => "invalid number"
  | outOfRange => "number out of range"
  | invalidCodePoint => "invalid unicode code point"
  | control => "control character (\\u0000-\\u001F) found while parsing a string"
  | keyNotText => "key must be a string"
  | loneSurrogate => "lone leading surrogate in hex escape"
  | trailingComma => "trailing comma"
  | trailingCharacters => "trailing characters"
  | endOfHexEscape => "unexpected end of hex escape"
  | wrongType found expected => "invalid type: " ++ found.message ++ ", expected " ++ expected
  | unknownField name known => "unknown field `" ++ name ++ "`, " ++ listing known
  | duplicateField name => "duplicate field `" ++ name ++ "`"

/-- A line and a column, both from one; the column counts bytes. -/
structure Place where
  line : Nat
  column : Nat
  deriving DecidableEq, Repr

def newline : UInt8 := 10

def Place.ofOffset (bytes : List UInt8) (offset : Nat) : Place :=
  let before := bytes.take offset
  ⟨before.count newline + 1, (before.reverse.takeWhile (· ≠ newline)).length⟩

/-- A fault and the number of bytes before the place where it is reported. -/
structure Error where
  fault : Fault
  offset : Nat

structure Cursor where
  rest : List UInt8
  offset : Nat

namespace Cursor

def start (bytes : List UInt8) : Cursor := ⟨bytes, 0⟩

def peek (cursor : Cursor) : Option UInt8 :=
  cursor.rest.head?

def advance (cursor : Cursor) (count : Nat) : Cursor :=
  ⟨cursor.rest.drop count, cursor.offset + count⟩

def isBlank (byte : UInt8) : Bool :=
  byte = 32 || byte = 10 || byte = 9 || byte = 13

def skipBlanks (cursor : Cursor) : Cursor :=
  cursor.advance (cursor.rest.takeWhile isBlank).length

def failHere (cursor : Cursor) (fault : Fault) : Except Error α :=
  .error ⟨fault, cursor.offset⟩

def failNext (cursor : Cursor) (fault : Fault) : Except Error α :=
  .error ⟨fault, cursor.offset + min 1 cursor.rest.length⟩

end Cursor

abbrev Reader (α : Type) := Cursor → Except Error (α × Cursor)

end BuildWatch.Json
