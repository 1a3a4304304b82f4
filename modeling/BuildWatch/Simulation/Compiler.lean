import BuildWatch.Compiler.Client
import BuildWatch.Debounce
import BuildWatch.Text.Quoted

/-!
A compiler that answers from a script, and by a rule when the script is used up. The usual rule is
that it succeeds, with the entry points of the request as its code.
-/

namespace BuildWatch.Simulation

def crashText (message : String) : String :=
  "task # panicked with message " ++ Quoted.quote message

/-- An answer of the script, the usual one if none is said, and the time it takes if it is not the
usual time. -/
structure ScriptedAnswer (α : Type) where
  answer : Option α
  duration : Option Time

structure ScriptedCompiler where
  script : List (ScriptedAnswer ClientUse)
  rule : Request → ClientUse
  duration : Time
  active : Nat
  mostActive : Nat
  closes : Nat
  made : Nat
  calls : List (Time × Request)

namespace ScriptedCompiler

def usualAnswer (request : Request) : ClientUse :=
  .answered (.ok ⟨(String.intercalate "," request.entryPoints).toUTF8, ByteArray.empty, []⟩)

def start (script : List (ScriptedAnswer ClientUse)) (duration : Time) : ScriptedCompiler :=
  ⟨script, usualAnswer, duration, 0, 0, 0, 0, []⟩

def ofRule (rule : Request → ClientUse) : ScriptedCompiler :=
  { start [] 0 with rule }

def ask (compiler : ScriptedCompiler) (now : Time) (request : Request) :
    ScriptedCompiler × ClientUse × Time :=
  let next := compiler.script.head?
  ({ compiler with
      script := compiler.script.drop 1
      active := compiler.active + 1
      mostActive := max compiler.mostActive (compiler.active + 1)
      calls := compiler.calls ++ [(now, request)] },
    (next.bind ScriptedAnswer.answer).getD (compiler.rule request),
    (next.bind ScriptedAnswer.duration).getD compiler.duration)

def leave (compiler : ScriptedCompiler) : ScriptedCompiler :=
  { compiler with active := compiler.active - 1 }

def close (compiler : ScriptedCompiler) : ScriptedCompiler :=
  { compiler with closes := compiler.closes + 1 }

def make (compiler : ScriptedCompiler) : ScriptedCompiler :=
  { compiler with made := compiler.made + 1 }

end ScriptedCompiler

end BuildWatch.Simulation
