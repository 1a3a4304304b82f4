import BuildWatch.ErrorChain
import BuildWatch.FileTree
import BuildWatch.Log
import BuildWatch.Project.Config
import BuildWatch.SafeName

/-!
A project as it was when its file was read. Gaps in the file are only warned about; a file name
for the packaged game that is not a safe name is cleared.
-/

namespace BuildWatch

inductive ProjectError where
  | read (path : Path) (cause : FileError)
  | invalid (path : Path) (fault : Json.Fault) (place : Json.Place)
  | sources (directory : Path) (cause : FileError)

namespace ProjectError

def faultText (fault : Json.Fault) (place : Json.Place) : String :=
  fault.message ++ " at line " ++ toString place.line ++ " column " ++ toString place.column

def message : ProjectError → String
  | read path _ => "could not read `" ++ path.display ++ "`"
  | invalid path fault place =>
    "invalid config `" ++ path.display ++ "`: " ++ faultText fault place
  | sources directory _ => "could not list sources in `" ++ directory.display ++ "`"

def cause? : ProjectError → Option FileError
  | read _ cause | sources _ cause => some cause
  | invalid .. => none

def chain (error : ProjectError) : String :=
  errorChain error.message (error.cause?.map FileError.message).toList

end ProjectError

/-- A loaded project; it never changes, a new reading makes a new one. -/
structure Project where
  baseDir : Path
  config : ProjectConfig
  deriving DecidableEq

namespace ProjectConfig

def missing (name field value : String) : List LogEntry :=
  if value = "" then
    [.info "project" (name ++ ": missing or empty '" ++ field ++ "'")]
  else []

def hasUnsafeName (config : ProjectConfig) : Bool :=
  config.filename ≠ "" && !SafeName.isSafe config.filename

def warnings (name : String) (config : ProjectConfig) : List LogEntry :=
  missing name "title" config.title ++
    missing name "filename" config.filename ++
    (if config.hasUnsafeName then
      [.info "project" (name ++ ": invalid filename: " ++ Quoted.quote config.filename)]
    else []) ++
    missing name "main.compo" config.mainCompo ++
    missing name "main.standard" config.mainStandard ++
    missing name "srcDir" config.sourceDir

def cleared (config : ProjectConfig) : ProjectConfig :=
  if config.hasUnsafeName then { config with filename := "" } else config

end ProjectConfig

namespace Project

def load (tree : FileTree) (baseDir configName : Path) :
    Except ProjectError (Project × List LogEntry) :=
  let path := baseDir.join configName
  match tree.read path with
  | .error cause => .error (.read path cause)
  | .ok bytes =>
    let bytes := bytes.data.toList
    match ProjectConfig.parse bytes with
    | .error error => .error (.invalid path error.fault (Json.Place.ofOffset bytes error.offset))
    | .ok config => .ok (⟨baseDir, config.cleared⟩, config.warnings configName.display)

def sourceDir (project : Project) : Path :=
  project.baseDir.join (Path.ofText project.config.sourceDir)

end Project

end BuildWatch
