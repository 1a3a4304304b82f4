import BuildWatch.Text.Utf8

/-!
Paths are byte strings whose parts are separated by slashes. Two spellings denote the same place
when their components agree: repeated slashes, a trailing slash and inner single dots do not
count, a leading single dot and double dots do. `Path.join` works on the spelling, everything that
compares works on the components.
-/

namespace BuildWatch

abbrev FileName := List UInt8

/-- A path as it is spelled. -/
structure Path where
  bytes : List UInt8
  deriving DecidableEq, Inhabited, Repr

namespace Path

inductive Component where
  | root
  | current
  | parent
  | name (name : FileName)
  deriving DecidableEq, Repr

def slash : UInt8 := 47
def dot : UInt8 := 46
def tilde : UInt8 := 126

def ofText (text : String) : Path :=
  ⟨Utf8.bytes text⟩

def display (path : Path) : String :=
  Utf8.lossy path.bytes

def splitSlash : List UInt8 → List (List UInt8)
  | [] => [[]]
  | byte :: rest =>
    if byte = slash then [] :: splitSlash rest
    else match splitSlash rest with
      | [] => [[byte]]
      | piece :: pieces => (byte :: piece) :: pieces

def segments (path : Path) : List (List UInt8) :=
  splitSlash path.bytes

def isAbsolute (path : Path) : Bool :=
  path.bytes.head? == some slash

def componentOf (piece : List UInt8) : Option Component :=
  if piece = [] ∨ piece = [dot] then none
  else if piece = [dot, dot] then some .parent
  else some (.name piece)

def components (path : Path) : List Component :=
  if path.isAbsolute then .root :: path.segments.filterMap componentOf
  else match path.segments with
    | [] => []
    | first :: rest =>
      if first = [dot] then .current :: rest.filterMap componentOf
      else (first :: rest).filterMap componentOf

def same (left right : Path) : Bool :=
  left.components = right.components

/-- The place of `right` seen from `left`: an absolute path stands for itself, any other is
appended after a slash. -/
def join (left right : Path) : Path :=
  if right.isAbsolute then right
  else if left.bytes = [] ∨ left.bytes.getLast? = some slash then ⟨left.bytes ++ right.bytes⟩
  else ⟨left.bytes ++ slash :: right.bytes⟩

def fileName? (path : Path) : Option FileName :=
  match path.components.getLast? with
  | some (.name name) => some name
  | _ => none

def parent? (path : Path) : Option (List Component) :=
  match path.components.getLast? with
  | none | some .root => none
  | some _ => some path.components.dropLast

def cutLastDot : FileName → Option (FileName × FileName)
  | [] => none
  | byte :: rest =>
    match cutLastDot rest with
    | some (stem, extension) => some (byte :: stem, extension)
    | none => if byte = dot then some ([], rest) else none

def extension? (path : Path) : Option (List UInt8) :=
  match path.fileName?.bind cutLastDot with
  | some (_ :: _, extension) => some extension
  | _ => none

end Path

end BuildWatch
