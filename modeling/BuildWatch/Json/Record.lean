import BuildWatch.Json.Number
import BuildWatch.Json.Text

/-!
Records with declared fields. A record is written as an object whose keys are among the declared
names, each at most once, or as a list of values in the order of declaration; what is missing
keeps its initial value. `Json.whole?` reads a text that holds one value and nothing else.
-/

namespace BuildWatch.Json

def word (letters : List UInt8) (cursor : Cursor) : Except Error Cursor :=
  match letters with
  | [] => .ok cursor
  | letter :: letters =>
    match cursor.peek with
    | none => cursor.failHere .endInValue
    | some byte =>
      if byte = letter then word letters (cursor.advance 1)
      else (cursor.advance 1).failHere .expectedIdent

def wordRest (text : String) : List UInt8 :=
  (Utf8.bytes text).drop 1

/-- Reads what stands where another type was expected, as far as its kind shows, and refuses
it. -/
def refuse (expected : String) (first : UInt8) (cursor : Cursor) : Except Error α := do
  let refused (found : Found) (after : Cursor) : Except Error α :=
    after.failHere (.wrongType found expected)
  if first = 110 then refused .null (← word (wordRest "null") (cursor.advance 1))
  else if first = 116 then refused (.boolean true) (← word (wordRest "true") (cursor.advance 1))
  else if first = 102 then refused (.boolean false) (← word (wordRest "false") (cursor.advance 1))
  else if first = 45 then
    let (found, after) ← number false (cursor.advance 1)
    refused found after
  else if isDigit first then
    let (found, after) ← number true cursor
    refused found after
  else if first = quoteByte then
    let (text, after) ← textRest (cursor.advance 1)
    refused (.text text) after
  else if first = 91 then refused .sequence cursor
  else if first = 123 then refused .record cursor
  else cursor.failNext .expectedValue

def text : Reader String := fun cursor =>
  let cursor := cursor.skipBlanks
  match cursor.peek with
  | none => cursor.failNext .endInValue
  | some byte =>
    if byte = quoteByte then textRest (cursor.advance 1) else refuse "a string" byte cursor

def optional (read : Reader α) : Reader (Option α) := fun cursor => do
  let cursor := cursor.skipBlanks
  if cursor.peek = some 110 then
    let after ← word (wordRest "null") (cursor.advance 1)
    .ok (none, after)
  else
    let (value, after) ← read cursor
    .ok (some value, after)

structure Field (α : Type) where
  name : String
  read : α → Reader α

structure Shape (α : Type) where
  title : String
  fields : List (Field α)
  initial : α

/-- The place after the brace that may close a record; faults about its keys are reported
there. -/
def afterClosing (cursor : Cursor) : Cursor :=
  let cursor := cursor.skipBlanks
  if cursor.peek = some 125 then cursor.advance 1 else cursor

def nextKey (isFirst : Bool) (cursor : Cursor) : Except Error (Option Cursor) :=
  let cursor := cursor.skipBlanks
  match cursor.peek with
  | none => cursor.failNext .endInObject
  | some byte =>
    if byte = 125 then .ok none
    else if isFirst then if byte = quoteByte then .ok (some cursor) else cursor.failNext .keyNotText
    else if byte = 44 then
      let cursor := (cursor.advance 1).skipBlanks
      match cursor.peek with
      | none => cursor.failNext .endInValue
      | some byte =>
        if byte = quoteByte then .ok (some cursor)
        else if byte = 125 then cursor.failNext .trailingComma
        else cursor.failNext .keyNotText
    else cursor.failNext .expectedObjectComma

def colon (cursor : Cursor) : Except Error Cursor :=
  let cursor := cursor.skipBlanks
  match cursor.peek with
  | none => cursor.failNext .endInObject
  | some byte => if byte = 58 then .ok (cursor.advance 1) else cursor.failNext .expectedColon

/-- The members of an object after its brace, read into a record; `seen` holds the names that
have occurred. -/
def members (shape : Shape α) (seen : List String) (value : α) (cursor : Cursor) :
    Except Error (α × Cursor) := do
  match ← nextKey seen.isEmpty cursor with
  | none => .ok (value, cursor.skipBlanks)
  | some quote =>
    let (name, after) ← textRest (quote.advance 1)
    match shape.fields.find? fun field => field.name = name with
    | none =>
      (afterClosing after).failHere (.unknownField name (shape.fields.map Field.name))
    | some field =>
      if seen.contains name then (afterClosing after).failHere (.duplicateField name)
      else
        let (value, next) ← field.read value (← colon after)
        if next.rest.length < cursor.rest.length then members shape (name :: seen) value next
        else next.failHere .endInObject
termination_by cursor.rest.length

def endObject (cursor : Cursor) : Except Error Cursor :=
  let cursor := cursor.skipBlanks
  match cursor.peek with
  | none => cursor.failNext .endInObject
  | some byte =>
    if byte = 125 then .ok (cursor.advance 1)
    else if byte = 44 then cursor.failNext .trailingComma
    else cursor.failNext .trailingCharacters

def nextElement (isFirst : Bool) (cursor : Cursor) : Except Error (Option Cursor) :=
  let cursor := cursor.skipBlanks
  match cursor.peek with
  | none => cursor.failNext .endInList
  | some byte =>
    if byte = 93 then .ok none
    else if isFirst then .ok (some cursor)
    else if byte = 44 then
      let cursor := (cursor.advance 1).skipBlanks
      match cursor.peek with
      | none => cursor.failNext .endInValue
      | some byte => if byte = 93 then cursor.failNext .trailingComma else .ok (some cursor)
    else cursor.failNext .expectedListComma

def elements (isFirst : Bool) (fields : List (Field α)) (value : α) (cursor : Cursor) :
    Except Error (α × Cursor) :=
  match fields with
  | [] => .ok (value, cursor)
  | field :: fields => do
    match ← nextElement isFirst cursor with
    | none => .ok (value, cursor)
    | some element =>
      let (value, next) ← field.read value element
      elements false fields value next

def endList (cursor : Cursor) : Except Error Cursor :=
  let cursor := cursor.skipBlanks
  match cursor.peek with
  | none => cursor.failNext .endInList
  | some byte =>
    if byte = 93 then .ok (cursor.advance 1)
    else if byte = 44 then
      let cursor := (cursor.advance 1).skipBlanks
      if cursor.peek = some 93 then cursor.failNext .trailingComma
      else cursor.failNext .trailingCharacters
    else cursor.failNext .trailingCharacters

def record (shape : Shape α) : Reader α := fun cursor => do
  let cursor := cursor.skipBlanks
  match cursor.peek with
  | none => cursor.failNext .endInValue
  | some byte =>
    if byte = 123 then
      let (value, after) ← members shape [] shape.initial (cursor.advance 1)
      .ok (value, ← endObject after)
    else if byte = 91 then
      let (value, after) ← elements true shape.fields shape.initial (cursor.advance 1)
      .ok (value, ← endList after)
    else refuse shape.title byte cursor

def whole? (read : Reader α) (bytes : List UInt8) : Except Error α := do
  let (value, after) ← read (Cursor.start bytes)
  let after := after.skipBlanks
  match after.peek with
  | none => .ok value
  | some _ => after.failNext .trailingCharacters

end BuildWatch.Json
