import BuildWatch.Simulation.Shell.Counting
import BuildWatch.Simulation.Shell.Editor
import BuildWatch.Simulation.Shell.Files
import BuildWatch.Simulation.Shell.Numbers
import BuildWatch.Simulation.Shell.Search
import BuildWatch.Simulation.Shell.Sort
import BuildWatch.Simulation.Shell.Translate

/-!
The programs that every system has, by their names.
-/

namespace BuildWatch.Simulation.Shell

def giving (status : Nat) : Program := fun _ => return status

def program? (name : String) : Option Program :=
  match name with
  | "true" => some (giving 0)
  | "false" => some (giving 1)
  | "cat" => some runCat
  | "head" => some runHead
  | "tail" => some runTail
  | "tee" => some runTee
  | "dd" => some runBlocks
  | "yes" => some runYes
  | "tac" => some runTac
  | "rev" => some runRev
  | "nl" => some runNumberLines
  | "cut" => some runCut
  | "uniq" => some runUnique
  | "sort" => some runSort
  | "tr" => some runTranslate
  | "od" => some runDump
  | "wc" => some runCount
  | "grep" => some (runSearch "G")
  | "sed" => some runEditor
  | "echo" => some (runEcho false)
  | "printf" => some (runPrintf false name)
  | "test" => some (runTest false false)
  | "[" => some (runTest false true)
  | "pwd" => some fun _ => do
    print ((← get).place ++ "\n")
    return 0
  | "kill" => some runKill
  | "seq" => some runSequence
  | "sleep" => some runSleep
  | "ls" => some runList
  | "rm" => some runRemove
  | "mkdir" => some runMakeDirectory
  | "touch" => some runTouch
  | "basename" => some runBaseName
  | "dirname" => some runDirectoryName
  | _ => none

def shellNames : List String := ["sh", "dash", "bash"]

end BuildWatch.Simulation.Shell
