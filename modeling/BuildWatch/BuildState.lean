import BuildWatch.Compiler.Message
import BuildWatch.Project.Load

/-!
What observers see of the code build and of the music build.
-/

namespace BuildWatch

structure Artifact where
  code : ByteArray
  sourceMap : Option ByteArray
  deriving DecidableEq

inductive BuildState where
  | loading
  | failed (error : String) (diagnostics : List Diagnostic) (project : Option Project)
  | succeeded (artifact : Artifact) (diagnostics : List Diagnostic) (project : Project)
  deriving DecidableEq

namespace BuildState

def plainFailure (error : String) (project : Option Project) : BuildState :=
  failed error [] project

def isTerminal : BuildState → Bool
  | loading => false
  | _ => true

def isSuccess : BuildState → Bool
  | succeeded .. => true
  | _ => false

def diagnostics : BuildState → List Diagnostic
  | loading => []
  | failed _ diagnostics _ | succeeded _ diagnostics _ => diagnostics

def project? : BuildState → Option Project
  | loading => none
  | failed _ _ project => project
  | succeeded _ _ project => some project

def artifact? : BuildState → Option Artifact
  | succeeded artifact _ _ => some artifact
  | _ => none

def label : BuildState → String
  | loading => "loading"
  | failed .. => "failed"
  | succeeded .. => "succeeded"

end BuildState

inductive MusicState where
  | loading
  | failed (error : String)
  | ready (data : ByteArray)
  deriving DecidableEq

def MusicState.isTerminal : MusicState → Bool
  | loading => false
  | _ => true

end BuildWatch
