import BuildWatch.CommandLine
import BuildWatch.FileTree
import BuildWatch.Log
import BuildWatch.Settings.File

/-!
The settings of the build server. A settings file may set each of them once; flags on the command
line win over the file. A file that is asked for has to be there, the usual one need not be.
-/

namespace BuildWatch

structure Settings where
  baseDir : Path
  project : Path
  compiler : List String
  musicDir : Path
  musicCommand : List String
  debounce : Nat
  subscriberCapacity : Nat
  mode : BuildMode
  deriving DecidableEq, Repr

inductive SettingsError where
  | read (path : Path) (cause : FileError)
  | malformed
  deriving DecidableEq, Repr

def SettingsError.message : SettingsError → String
  | read path _ => "IO error when reading `" ++ path.display ++ "`"
  | malformed => "Settings file parsing error"

namespace Settings

def initial : Settings where
  baseDir := Path.ofText "."
  project := Path.ofText "project.json"
  compiler := ["java/compiler"]
  musicDir := Path.ofText "music"
  musicCommand := ["music", "compile", "-o", "/dev/stdout"]
  debounce := 100
  subscriberCapacity := 4
  mode := .compo

def fileName : Path := Path.ofText "devbuild.toml"

open SettingsFile (Definition Value)

def set (settings : Settings) (name : String) (value : Value) : Option Settings :=
  match name, value with
  | "project", .text text => some { settings with project := Path.ofText text }
  | "compiler", .texts compiler => some { settings with compiler }
  | "music_dir", .text text => some { settings with musicDir := Path.ofText text }
  | "music_command", .texts musicCommand => some { settings with musicCommand }
  | "debounce_ms", .number number =>
    if 0 ≤ number then some { settings with debounce := number.toNat } else none
  | "subscriber_capacity", .number number =>
    if 0 ≤ number then some { settings with subscriberCapacity := number.toNat } else none
  | _, _ => none

def isEmptyValue : Value → Bool
  | .texts [] | .choice none => true
  | _ => false

/-- The name of the mode that the definitions under its key come to: a text, or a table whose one
member is empty, however it is spelled. -/
def modeName : List Definition → Option String
  | [.value [_] (.text name)] => some name
  | [.value [_] (.choice (some name))] => some name
  | [.value [_, name] value] => if isEmptyValue value then some name else none
  | [.section [_], .value [_, name] value] => if isEmptyValue value then some name else none
  | [.section [_], .section [_, name]] => some name
  | [.section [_, name], .section [_]] => some name
  | [.section [_, name]] => some name
  | _ => none

def setMode (settings : Settings) (definitions : List Definition) : Option Settings :=
  if definitions = [] then some settings
  else (modeName definitions).bind BuildMode.ofLabel? |>.map fun mode => { settings with mode }

def define (settings : Settings × List String) : Definition → Option (Settings × List String)
  | .value [name] value =>
    if settings.2.contains name then none
    else (settings.1.set name value).map fun after => (after, name :: settings.2)
  | _ => none

def isMode (definition : Definition) : Bool :=
  definition.keys.head? = some "mode"

def normalize (settings : Settings) : Settings × List LogEntry :=
  if settings.subscriberCapacity = 0 then
    ({ settings with subscriberCapacity := 1 },
      [.info "warning" "subscriber_capacity must be at least 1, using 1"])
  else (settings, [])

def parse (content : String) : Except SettingsError (Settings × List LogEntry) :=
  let settings : Option Settings := do
    let definitions ← SettingsFile.definitions content
    let (settings, _) ← (definitions.filter fun definition => !isMode definition).foldlM define
      (initial, [])
    settings.setMode (definitions.filter isMode)
  match settings with
  | some settings => .ok settings.normalize
  | none => .error .malformed

def override (settings : Settings) (arguments : Arguments) : Settings :=
  { settings with
    baseDir := arguments.dir
    project := arguments.config.getD settings.project
    mode := arguments.mode.getD settings.mode }

def filePath (arguments : Arguments) : Path :=
  arguments.settings.getD (arguments.dir.join fileName)

def load (tree : FileTree) (arguments : Arguments) :
    Except SettingsError (Settings × List LogEntry) := do
  let path := filePath arguments
  match tree.readText path with
  | .ok content =>
    let (settings, log) ← parse content
    .ok (settings.override arguments, log)
  | .error cause =>
    if cause = .notFound ∧ arguments.settings = none then .ok (initial.override arguments, [])
    else .error (.read path cause)

def musicPath (settings : Settings) : Path :=
  settings.baseDir.join settings.musicDir

end Settings

end BuildWatch
