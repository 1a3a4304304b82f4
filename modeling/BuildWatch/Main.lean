import BuildWatch.Preview

/-!
The command line. It loads the settings and the project file, and shows them as the server does
before its first build.
-/

namespace BuildWatch

def noClock : String := "--:--:--"

def takeUp (tree : FileTree) (path : Path) : IO FileTree := do
  try return tree.write path (.file (← IO.FS.readBinFile path.display))
  catch _ => return tree

def showProject (arguments : Arguments) : IO UInt32 := do
  let tree ← takeUp FileTree.empty (Settings.filePath arguments)
  match Settings.load tree arguments with
  | .error error =>
    IO.eprintln ("Error: failed to load settings: " ++ error.message)
    return 1
  | .ok (settings, log) =>
    let tree ← takeUp tree (settings.baseDir.join settings.project)
    let preview := Preview.ofSettings tree settings noClock log arguments.verbose
    IO.print (Terminal.send preview.pieces)
    return if preview.canBuild then 0 else 1

end BuildWatch

def main (arguments : List String) : IO UInt32 := do
  match BuildWatch.CommandLine.parse arguments with
  | .ok arguments => BuildWatch.showProject arguments
  | .error error => return error.exitCode.toUInt32
