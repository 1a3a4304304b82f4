import BuildWatch.Compiler.Encode

/-!
How messages are read. Fields may come in any order; of a field that holds one value the last one
counts, a list takes every value, and fields with an unknown number are skipped, groups included.
A fault tells which field was being read, the innermost message first.
-/

namespace BuildWatch

inductive DecodeFault where
  | invalidVarint
  | invalidKey (key : Nat)
  | invalidWireType (number : Nat)
  | invalidTag
  | wrongWireType (actual expected : WireType)
  | underflow
  | lengthExceeded
  | invalidText
  | strayGroupEnd
  | tooDeep
  deriving DecidableEq, Repr

def DecodeFault.message : DecodeFault → String
  | .invalidVarint => "invalid varint"
  | .invalidKey key => "invalid key value: " ++ toString key
  | .invalidWireType number => "invalid wire type value: " ++ toString number
  | .invalidTag => "invalid tag value: 0"
  | .wrongWireType actual expected =>
    "invalid wire type: " ++ actual.label ++ " (expected " ++ expected.label ++ ")"
  | .underflow => "buffer underflow"
  | .lengthExceeded => "delimited length exceeded"
  | .invalidText => "invalid string value: data is not UTF-8 encoded"
  | .strayGroupEnd => "unexpected end group tag"
  | .tooDeep => "recursion limit reached"

structure DecodeError where
  fault : DecodeFault
  path : List (String × String)
  deriving DecidableEq, Repr

namespace DecodeError

def message (error : DecodeError) : String :=
  "failed to decode Protobuf message: " ++
    String.join (error.path.map fun field => field.1 ++ "." ++ field.2 ++ ": ") ++
    error.fault.message

end DecodeError

structure FieldKey where
  tag : Nat
  wire : WireType
  deriving DecidableEq, Repr

abbrev Reader (α : Type) := Input → Except DecodeError (α × Input)

namespace Reader

def fail (fault : DecodeFault) : Except DecodeError α :=
  .error ⟨fault, []⟩

def inside (title field : String) (result : Except DecodeError α) : Except DecodeError α :=
  result.mapError fun error => { error with path := error.path ++ [(title, field)] }

def varint : Reader Nat := fun input =>
  match Varint.read? input with
  | some read => .ok read
  | none => fail .invalidVarint

def take (count : Nat) : Reader ByteArray := fun input =>
  match input.take? count with
  | some read => .ok read
  | none => fail .underflow

def key : Reader FieldKey := fun input => do
  let (number, rest) ← varint input
  if 0x100000000 ≤ number then fail (.invalidKey number)
  else match WireType.ofNumber? (number % 8) with
    | none => fail (.invalidWireType (number % 8))
    | some wire => if number / 8 = 0 then fail .invalidTag else .ok (⟨number / 8, wire⟩, rest)

def expect (expected actual : WireType) : Except DecodeError Unit :=
  if actual = expected then .ok () else fail (.wrongWireType actual expected)

def number (wire : WireType) : Reader Nat := fun input => do
  expect .varint wire
  varint input

def sixtyFour (wire : WireType) : Reader UInt64 := fun input => do
  expect .sixtyFourBit wire
  let (bytes, rest) ← take 8 input
  .ok (bytes.data.toList.foldr (fun byte bits => bits <<< 8 ||| byte.toUInt64) 0, rest)

def delimited (wire : WireType) : Reader ByteArray := fun input => do
  expect .lengthDelimited wire
  let (length, rest) ← varint input
  take length rest

def text (wire : WireType) : Reader String := fun input => do
  let (bytes, rest) ← delimited wire input
  match String.fromUTF8? bytes with
  | some text => .ok (text, rest)
  | none => fail .invalidText

/-- How deep groups may be nested in a message that stands alone. -/
def depthBudget : Nat := 100

def skipValue (wire : WireType) : Reader Unit := fun input =>
  match wire with
  | .varint => do
    let (_, rest) ← varint input
    .ok ((), rest)
  | .sixtyFourBit => do
    let (_, rest) ← take 8 input
    .ok ((), rest)
  | .thirtyTwoBit => do
    let (_, rest) ← take 4 input
    .ok ((), rest)
  | .lengthDelimited => do
    let (length, rest) ← varint input
    let (_, rest) ← take length rest
    .ok ((), rest)
  | .startGroup | .endGroup => fail .strayGroupEnd

/-- Skips to the end of the groups with the given numbers, the innermost first; fewer than
`budget` may be open around a field. -/
def skipGroups (budget : Nat) (opened : List Nat) (input : Input) :
    Except DecodeError (Unit × Input) :=
  match opened with
  | [] => .ok ((), input)
  | tag :: outer => do
    let (found, rest) ← key input
    if _ : rest.remaining < input.remaining then
      match found.wire with
      | .endGroup =>
        if found.tag = tag then skipGroups budget outer rest else fail .strayGroupEnd
      | .startGroup =>
        if budget ≤ opened.length then fail .tooDeep
        else skipGroups budget (found.tag :: opened) rest
      | wire =>
        if budget ≤ opened.length then fail .tooDeep
        else
          let (_, after) ← skipValue wire rest
          if _ : after.remaining < input.remaining then
            skipGroups budget opened after
          else fail .underflow
    else fail .underflow
termination_by input.remaining

def skip (budget : Nat) (found : FieldKey) : Reader Unit := fun input =>
  if budget = 0 then fail .tooDeep
  else match found.wire with
    | .startGroup => skipGroups budget [found.tag] input
    | wire => skipValue wire input

/-- Reads fields into a value until `left` bytes remain; a field that runs past them is a
fault. -/
def fields (merge : α → FieldKey → Reader α) (left : Nat) (value : α) (input : Input) :
    Except DecodeError (α × Input) :=
  if left < input.remaining then do
    let (found, rest) ← key input
    let (value, after) ← merge value found rest
    if _ : after.remaining < input.remaining then fields merge left value after
    else fail .underflow
  else if input.remaining = left then .ok (value, input)
  else fail .lengthExceeded
termination_by input.remaining

def nested (merge : α → FieldKey → Reader α) (initial : α) (wire : WireType) : Reader α :=
  fun input => do
    expect .lengthDelimited wire
    let (length, rest) ← varint input
    if rest.remaining < length then fail .underflow
    else fields merge (rest.remaining - length) initial rest

def whole (merge : α → FieldKey → Reader α) (initial : α) (bytes : ByteArray) :
    Except DecodeError α :=
  (fields merge 0 initial (Input.ofBytes bytes)).map (·.1)

end Reader

open Reader

namespace Define

def initial : Define := ⟨"", none⟩

def merge (budget : Nat) (define : Define) (found : FieldKey) : Reader Define := fun input =>
  match found.tag with
  | 1 => inside "Define" "name" do
    let (name, rest) ← text found.wire input
    .ok ({ define with name }, rest)
  | 2 => inside "Define" "value" do
    let (value, rest) ← number found.wire input
    .ok ({ define with value := some (.boolean (value ≠ 0)) }, rest)
  | 3 => inside "Define" "value" do
    let (bits, rest) ← sixtyFour found.wire input
    .ok ({ define with value := some (.number bits) }, rest)
  | 4 => inside "Define" "value" do
    let (value, rest) ← text found.wire input
    .ok ({ define with value := some (.text value) }, rest)
  | _ => do
    let (_, rest) ← skip budget found input
    .ok (define, rest)

def decode : ByteArray → Except DecodeError Define :=
  whole (merge depthBudget) initial

end Define

namespace Request

def initial : Request := ⟨[], [], "", "", []⟩

def merge (request : Request) (found : FieldKey) : Reader Request := fun input =>
  match found.tag with
  | 1 => inside "BuildRequest" "file" do
    let (file, rest) ← text found.wire input
    .ok ({ request with files := file :: request.files }, rest)
  | 2 => inside "BuildRequest" "entry_point" do
    let (entry, rest) ← text found.wire input
    .ok ({ request with entryPoints := entry :: request.entryPoints }, rest)
  | 3 => inside "BuildRequest" "base_directory" do
    let (baseDirectory, rest) ← text found.wire input
    .ok ({ request with baseDirectory }, rest)
  | 4 => inside "BuildRequest" "output_source_map" do
    let (sourceMapName, rest) ← text found.wire input
    .ok ({ request with sourceMapName }, rest)
  | 5 => inside "BuildRequest" "define" do
    let (define, rest) ← nested (Define.merge (depthBudget - 1)) Define.initial found.wire input
    .ok ({ request with defines := define :: request.defines }, rest)
  | _ => do
    let (_, rest) ← skip depthBudget found input
    .ok (request, rest)

def turned (request : Request) : Request :=
  { request with
    files := request.files.reverse
    entryPoints := request.entryPoints.reverse
    defines := request.defines.reverse }

def decode (bytes : ByteArray) : Except DecodeError Request :=
  (whole merge initial bytes).map turned

end Request

namespace Finding

def initial : Finding := ⟨0, "", 0, 0, ""⟩

def merge (budget : Nat) (finding : Finding) (found : FieldKey) : Reader Finding := fun input =>
  match found.tag with
  | 1 => inside "Diagnostic" "severity" do
    let (severity, rest) ← number found.wire input
    .ok ({ finding with severity := Int32.ofNat severity }, rest)
  | 2 => inside "Diagnostic" "file" do
    let (file, rest) ← text found.wire input
    .ok ({ finding with file }, rest)
  | 3 => inside "Diagnostic" "line" do
    let (line, rest) ← number found.wire input
    .ok ({ finding with line := UInt32.ofNat line }, rest)
  | 4 => inside "Diagnostic" "column" do
    let (column, rest) ← number found.wire input
    .ok ({ finding with column := UInt32.ofNat column }, rest)
  | 5 => inside "Diagnostic" "message" do
    let (message, rest) ← text found.wire input
    .ok ({ finding with message }, rest)
  | _ => do
    let (_, rest) ← skip budget found input
    .ok (finding, rest)

def decode : ByteArray → Except DecodeError Finding :=
  whole (merge depthBudget) initial

end Finding

namespace Response

def initial : Response := ⟨ByteArray.empty, ByteArray.empty, []⟩

def merge (response : Response) (found : FieldKey) : Reader Response := fun input =>
  match found.tag with
  | 1 => inside "BuildResponse" "code" do
    let (code, rest) ← delimited found.wire input
    .ok ({ response with code }, rest)
  | 2 => inside "BuildResponse" "source_map" do
    let (sourceMap, rest) ← delimited found.wire input
    .ok ({ response with sourceMap }, rest)
  | 3 => inside "BuildResponse" "diagnostic" do
    let (finding, rest) ←
      nested (Finding.merge (depthBudget - 1)) Finding.initial found.wire input
    .ok ({ response with findings := finding :: response.findings }, rest)
  | _ => do
    let (_, rest) ← skip depthBudget found input
    .ok (response, rest)

def turned (response : Response) : Response :=
  { response with findings := response.findings.reverse }

def decode (bytes : ByteArray) : Except DecodeError Response :=
  (whole merge initial bytes).map turned

end Response

class Message (α : Type) where
  size : α → Nat
  encode : α → ByteArray
  decode : ByteArray → Except DecodeError α

instance : Message Define := ⟨Define.size, Define.encode, Define.decode⟩
instance : Message Request := ⟨Request.size, Request.encode, Request.decode⟩
instance : Message Finding := ⟨Finding.size, Finding.encode, Finding.decode⟩
instance : Message Response := ⟨Response.size, Response.encode, Response.decode⟩

end BuildWatch
