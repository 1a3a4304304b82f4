import BuildWatch.Compiler.Frame
import BuildWatch.Diagnostic
import BuildWatch.ErrorChain
import BuildWatch.Program

/-!
Why a compilation has no result. Diagnostics and cancellation concern one compilation only; every
other failure leaves the compiler unusable.
-/

namespace BuildWatch

inductive CompileError where
  | cancelled
  | failed (diagnostics : List Diagnostic)
  | transport (error : WireError)
  | start (program : String) (fault : StartFault)
  | closed
  deriving DecidableEq, Repr

namespace CompileError

def isFatal : CompileError → Bool
  | transport _ | start .. | closed => true
  | cancelled | failed _ => false

def message : CompileError → String
  | cancelled => "build cancelled"
  | failed _ => "build failed"
  | transport error => String.join ["compiler transport error: ", error.message]
  | start program _ => String.join ["could not start compiler `", program, "`"]
  | closed => "compiler is closed"

def causes : CompileError → List String
  | start _ fault => [fault.message]
  | cancelled | failed _ | transport _ | closed => []

def chain (error : CompileError) : String :=
  errorChain error.message error.causes

end CompileError

end BuildWatch
