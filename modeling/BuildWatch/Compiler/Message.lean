import BuildWatch.Diagnostic

/-!
The four messages that are exchanged with the compiler, as values. A finding keeps the number of
its severity as it was sent; `Finding.toDiagnostic` reads it, and any number without a meaning
counts as an error.
-/

namespace BuildWatch

/-- The value of a compile-time constant; a number is kept as its bits. -/
inductive DefineValue where
  | boolean (value : Bool)
  | number (bits : UInt64)
  | text (value : String)
  deriving DecidableEq, Repr

structure Define where
  name : String
  value : Option DefineValue
  deriving DecidableEq, Repr

/-- What the compiler is asked to build. -/
structure Request where
  files : List String
  entryPoints : List String
  baseDirectory : String
  sourceMapName : String
  defines : List Define
  deriving DecidableEq, Repr

/-- A finding as the compiler sends it. -/
structure Finding where
  severity : Int32
  file : String
  line : UInt32
  column : UInt32
  message : String
  deriving DecidableEq, Repr

-- libraries add further instances; what is derived keeps to this one
instance (priority := 2000) instDecidableEqBytes : DecidableEq ByteArray :=
  ByteArray.instDecidableEq

/-- What the compiler answers; the code is empty when compilation failed. -/
structure Response where
  code : ByteArray
  sourceMap : ByteArray
  findings : List Finding
  deriving DecidableEq

def Severity.ofNumber (number : Int32) : Severity :=
  if number = 1 then .warning
  else if number = 2 then .notice
  else .error

def Severity.number : Severity → Int32
  | .error => 0
  | .warning => 1
  | .notice => 2

def Finding.toDiagnostic (finding : Finding) : Diagnostic :=
  ⟨Severity.ofNumber finding.severity, finding.file, finding.line, finding.column,
    finding.message⟩

end BuildWatch
