import BuildWatch.Change
import BuildWatch.Path
import BuildWatch.SafeName

/-!
Which build a changed path affects. Only what lies directly in the source directory or the music
directory counts, the same files that the builds read; editors' temporary files never count.
-/

namespace BuildWatch

/-- The places that matter; the source directory is known once a project has been loaded. -/
structure Classifier where
  baseDir : Path
  configFile : Path
  musicDir : Path
  sourceDir : Option Path
  deriving DecidableEq

namespace Classifier

def of (baseDir configName musicDir : Path) (sourceDir : Option Path) : Classifier :=
  ⟨baseDir, baseDir.join configName, baseDir.join musicDir, sourceDir⟩

def temporaryExtensions : List String := ["bck", "bak", "backup", "swp", "swo", "tmp"]

def textOr (bytes : Option (List UInt8)) : String :=
  (bytes.bind Utf8.text?).getD ""

/-- Is the path that of a temporary file of an editor, or hidden? -/
def isTemporary (path : Path) : Bool :=
  let name := textOr path.fileName?
  temporaryExtensions.contains (textOr path.extension?) ||
    name.toList.getLast? = some '~' || name.toList.head? = some '.'

def musicFiles : List String := ["songs.json", "code.py"]

def isMusic (path : Path) (name : String) : Bool :=
  path.extension? = some (Utf8.bytes "txt") || musicFiles.contains name

def holdsSources (classifier : Classifier) (directory : List Path.Component) : Bool :=
  match classifier.sourceDir with
  | some sourceDir => directory = (classifier.baseDir.join sourceDir).components
  | none => false

def classify (classifier : Classifier) (path : Path) : Option Change :=
  if isTemporary path then none
  else if path.same classifier.configFile then some .config
  else match path.fileName?.bind Utf8.text?, path.parent? with
    | some name, some directory =>
      if directory = classifier.musicDir.components then
        if isMusic path name then some .music else none
      else if classifier.holdsSources directory && SafeName.isSource name then some .source
      else none
    | _, _ => none

end Classifier

/-- What a notice of the file system reports; a change of metadata alone is no change of a
file. -/
inductive NoticeKind where
  | created
  | removed
  | modified
  | metadata
  | accessed
  | other
  deriving DecidableEq, Repr

def NoticeKind.isChange : NoticeKind → Bool
  | created | removed | modified => true
  | metadata | accessed | other => false

/-- A notice of the file system about some paths. -/
structure Notice where
  kind : NoticeKind
  paths : List Path

namespace Classifier

def affects (classifier : Classifier) (notice : Notice) (change : Change) : Bool :=
  notice.kind.isChange && notice.paths.any fun path => classifier.classify path = some change

def collect (classifier : Classifier) (notices : List Notice) : List Change :=
  Change.all.filter fun change => notices.any fun notice => classifier.affects notice change

end Classifier

end BuildWatch
