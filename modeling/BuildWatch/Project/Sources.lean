import BuildWatch.Compiler.Message
import BuildWatch.Project.Load

/-!
The sources of a project and the request that builds them. Sources are the regular files directly
in the source directory whose names are script names, in byte order.
-/

namespace BuildWatch

inductive BuildMode where
  | compo
  | standard
  deriving DecidableEq, Repr

def BuildMode.label : BuildMode → String
  | compo => "compo"
  | standard => "standard"

def BuildMode.all : List BuildMode := [compo, standard]

def BuildMode.ofLabel? (label : String) : Option BuildMode :=
  BuildMode.all.find? fun mode => mode.label = label

def trimSlashes (directory : String) : String :=
  String.ofList (directory.toList.reverse.dropWhile (· = '/')).reverse

/-- A name in a directory, as the compiler is told: the slashes at the end of the directory do not
count, and nothing stands before the name when nothing is left. -/
def joinRelative (directory name : String) : String :=
  let directory := trimSlashes directory
  if directory = "" then name else directory ++ "/" ++ name

def sourceName? (entry : FileName × Entry) : Option String :=
  match Utf8.text? entry.1 with
  | some name => if entry.2.isFile && SafeName.isSource name then some name else none
  | none => none

def sourcesAmong (directory : String) (entries : List (FileName × Entry)) : List String :=
  ((entries.filterMap sourceName?).map (joinRelative directory)).mergeSort fun left right =>
    left ≤ right

namespace Project

def listSources (project : Project) (tree : FileTree) : Except ProjectError (List String) :=
  match tree.list project.sourceDir with
  | .error cause => .error (.sources project.sourceDir cause)
  | .ok entries => .ok (sourcesAmong project.config.sourceDir entries)

def entryPoint (project : Project) : BuildMode → String
  | .compo => project.config.mainCompo
  | .standard => project.config.mainStandard

def sourceMapName : String := "main.map"

def requestFor (project : Project) (mode : BuildMode) (files : List String) : Request where
  files := files
  entryPoints := [joinRelative project.config.sourceDir (project.entryPoint mode)]
  baseDirectory := project.baseDir.display
  sourceMapName := sourceMapName
  defines := [⟨"COMPO", some (.boolean (mode = .compo))⟩]

def request (project : Project) (tree : FileTree) (mode : BuildMode) :
    Except ProjectError Request := do
  .ok (project.requestFor mode (← project.listSources tree))

end Project

end BuildWatch
