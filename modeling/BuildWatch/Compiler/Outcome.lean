import BuildWatch.BuildState
import BuildWatch.Terminal.Output

/-!
What a response of the compiler amounts to. Its diagnostics are put in location order and logged;
code without errors is a success, and no code at all is an error even if none was reported.
-/

namespace BuildWatch

structure Compiled where
  artifact : Artifact
  diagnostics : List Diagnostic
  deriving DecidableEq

def emptyOutputMessage : String := "Empty script output."

namespace Response

/-- The diagnostics of a response in location order, those at one place as they came. -/
def sortedDiagnostics (response : Response) : List Diagnostic :=
  (response.findings.map Finding.toDiagnostic).mergeSort Diagnostic.standsBy

/-- The diagnostics that are reported, an error about missing code included. -/
def reported (response : Response) : List Diagnostic :=
  let sorted := response.sortedDiagnostics
  if response.code.isEmpty && !sorted.any Diagnostic.isError then
    sorted ++ [.plainError emptyOutputMessage]
  else sorted

def artifact (response : Response) : Artifact where
  code := response.code
  sourceMap := if response.sourceMap.isEmpty then none else some response.sourceMap

def finish (response : Response) : Except (List Diagnostic) Compiled :=
  if response.reported.any Diagnostic.isError then .error response.reported
  else .ok ⟨response.artifact, response.reported⟩

def log (response : Response) : List LogEntry :=
  response.reported.map Diagnostic.logEntry

end Response

end BuildWatch
