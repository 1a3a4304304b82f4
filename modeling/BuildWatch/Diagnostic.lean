/-!
Findings of the compiler as observers see them. The location order puts the file first, then the
line, then the column.
-/

namespace BuildWatch

inductive Severity where
  | error
  | warning
  | notice
  deriving DecidableEq, Repr

def Severity.label : Severity → String
  | .error => "error"
  | .warning => "warning"
  | .notice => "notice"

/-- A finding; an empty file and line zero say that the place is unknown. -/
structure Diagnostic where
  severity : Severity
  file : String
  line : UInt32
  column : UInt32
  message : String
  deriving DecidableEq, Repr

namespace Diagnostic

def plainError (message : String) : Diagnostic :=
  ⟨.error, "", 0, 0, message⟩

def isError (diagnostic : Diagnostic) : Bool :=
  diagnostic.severity = .error

def locationOrder (left right : Diagnostic) : Ordering :=
  (compare left.file right.file).then
    ((compare left.line right.line).then (compare left.column right.column))

def standsBy (left right : Diagnostic) : Bool :=
  left.locationOrder right != .gt

def display (diagnostic : Diagnostic) : String :=
  if diagnostic.file = "" then diagnostic.message
  else if diagnostic.line = 0 then diagnostic.file ++ ": " ++ diagnostic.message
  else diagnostic.file ++ ":" ++ toString diagnostic.line ++ ":" ++ toString diagnostic.column ++
    ": " ++ diagnostic.message

end Diagnostic

end BuildWatch
