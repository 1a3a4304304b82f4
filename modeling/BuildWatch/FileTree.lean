import BuildWatch.Path
import BuildWatch.SystemError

/-!
A directory tree as a value. Every entry is kept under the list of names that leads to it from the
root, which is a directory itself; a path is resolved name by name, and symbolic links are
replaced by what they spell, at most `FileTree.linkBudget` of them.
-/

namespace BuildWatch

/-- Why the file system refuses a request; `system` stands for the errors that no request of this
program meets by itself. -/
inductive FileError where
  | notFound
  | permissionDenied
  | notADirectory
  | isADirectory
  | nameTooLong
  | tooManyLinks
  | nulByte
  | invalidText
  | system (number : Nat)
  deriving DecidableEq, Repr

def FileError.number? : FileError → Option Nat
  | .notFound => some 2
  | .permissionDenied => some 13
  | .notADirectory => some 20
  | .isADirectory => some 21
  | .nameTooLong => some 36
  | .tooManyLinks => some 40
  | .system number => some number
  | .nulByte | .invalidText => none

def FileError.message (error : FileError) : String :=
  match error.number?, error with
  | some number, _ => systemErrorText number
  | none, .invalidText => "stream did not contain valid UTF-8"
  | none, _ => "file name contained an unexpected NUL byte"

/-- A device that keeps nothing of what is written to it; reading finds its end at once, or zeros
without end. -/
inductive Device where
  | null
  | zero
  deriving DecidableEq, Repr

inductive Entry where
  | file (content : ByteArray)
  | directory
  | link (target : Path)
  | device (device : Device)

def Entry.isFile : Entry → Bool
  | .file _ => true
  | _ => false

/-- Where an entry lies: the names from the root down. -/
abbrev Location := List FileName

def Location.path (location : Location) : Path :=
  if location = [] then ⟨[Path.slash]⟩ else ⟨location.flatMap fun name => Path.slash :: name⟩

structure FileTree where
  entries : List (Location × Entry)

namespace FileTree

def empty : FileTree := ⟨[]⟩

def linkBudget : Nat := 40
def longestName : Nat := 255
def longestPath : Nat := 4095

def entry? (tree : FileTree) (location : Location) : Option Entry :=
  if location = [] then some .directory
  else (tree.entries.find? fun pair => pair.1 = location).map (·.2)

/-- What a path leads to: an entry that is no link, or a free name in a directory. -/
inductive Resolved where
  | found (location : Location) (entry : Entry)
  | free (location : Location)

def walk (tree : FileTree) (links : Nat) (place : Location) (pieces : List (List UInt8)) :
    Except FileError Resolved :=
  match pieces with
  | [] => .ok (.found place .directory)
  | piece :: rest =>
    if piece = [] ∨ piece = [Path.dot] then walk tree links place rest
    else if piece = [Path.dot, Path.dot] then walk tree links place.dropLast rest
    else if longestName < piece.length then .error .nameTooLong
    else match tree.entry? (place ++ [piece]) with
      | none => if rest = [] then .ok (.free (place ++ [piece])) else .error .notFound
      | some .directory => walk tree links (place ++ [piece]) rest
      | some (.file content) =>
        if rest = [] then .ok (.found (place ++ [piece]) (.file content))
        else .error .notADirectory
      | some (.device device) =>
        if rest = [] then .ok (.found (place ++ [piece]) (.device device))
        else .error .notADirectory
      | some (.link target) =>
        match links with
        | 0 => .error .tooManyLinks
        | links + 1 =>
          if target.bytes = [] then .error .notFound
          else walk tree links (if target.isAbsolute then [] else place) (target.segments ++ rest)
termination_by (links, pieces.length)

def resolve (tree : FileTree) (path : Path) : Except FileError Resolved :=
  if path.bytes.contains 0 then .error .nulByte
  else if path.bytes = [] then .error .notFound
  else if longestPath < path.bytes.length then .error .nameTooLong
  else walk tree linkBudget [] path.segments

def read (tree : FileTree) (path : Path) : Except FileError ByteArray := do
  match ← tree.resolve path with
  | .found _ (.file content) => .ok content
  | .found _ (.device _) => .ok ByteArray.empty
  | .found _ _ => .error .isADirectory
  | .free _ => .error .notFound

def readText (tree : FileTree) (path : Path) : Except FileError String := do
  match String.fromUTF8? (← tree.read path) with
  | some text => .ok text
  | none => .error .invalidText

def childName? (directory location : Location) : Option FileName :=
  match location.getLast? with
  | some name => if location.dropLast = directory then some name else none
  | none => none

def children (tree : FileTree) (directory : Location) : List (FileName × Entry) :=
  tree.entries.filterMap fun pair =>
    (childName? directory pair.1).map fun name => (name, pair.2)

def list (tree : FileTree) (path : Path) : Except FileError (List (FileName × Entry)) := do
  match ← tree.resolve path with
  | .found place .directory => .ok (tree.children place)
  | .found _ _ => .error .notADirectory
  | .free _ => .error .notFound

def isDirectory (tree : FileTree) (path : Path) : Bool :=
  match tree.resolve path with
  | .ok (.found _ .directory) => true
  | _ => false

def put (tree : FileTree) (location : Location) (entry : Entry) : FileTree :=
  ⟨(tree.entries.filter fun pair => pair.1 ≠ location) ++ [(location, entry)]⟩

def addParents (tree : FileTree) (location : Location) : FileTree :=
  (List.range location.length).foldl
    (fun tree depth =>
      let place := location.take depth
      if (tree.entry? place).isSome then tree else tree.put place .directory)
    tree

def enter (tree : FileTree) (place : Location) (name : FileName) : Location :=
  match tree.walk linkBudget place [name] with
  | .ok (.found real .directory) => real
  | _ => place ++ [name]

/-- The location that components spell from a directory on, with links followed up to the last
name. -/
def locateFrom (tree : FileTree) (place : Location) : List Path.Component → Location
  | [] => place
  | [.name name] => place ++ [name]
  | .name name :: rest => tree.locateFrom (tree.enter place name) rest
  | .parent :: rest => tree.locateFrom place.dropLast rest
  | .root :: rest | .current :: rest => tree.locateFrom place rest

def locate (tree : FileTree) (path : Path) : Location :=
  tree.locateFrom [] path.components

/-- Writes an entry at a path and makes the directories it needs; a directory that is there
already stays, a file written through a link replaces what the link leads to, and a device takes
what is written to it. -/
def write (tree : FileTree) (path : Path) (entry : Entry) : FileTree :=
  let location := tree.locate path
  match entry, tree.entry? location with
  | .directory, some .directory | .file _, some (.device _) => tree
  | .file _, some (.link _) =>
    match tree.resolve path with
    | .ok (.found _ (.device _)) => tree
    | .ok (.found real _) => tree.put real entry
    | .ok (.free real) => tree.put real entry
    | .error _ => tree
  | _, _ => (tree.addParents location).put location entry

def remove (tree : FileTree) (path : Path) : FileTree :=
  let location := tree.locate path
  ⟨tree.entries.filter fun pair => !location.isPrefixOf pair.1⟩

def rename (tree : FileTree) (source target : Path) : FileTree :=
  let start := tree.locate source
  let goal := tree.locate target
  if (tree.entry? start).isNone then tree
  else
    let rest := tree.entries.filter fun pair =>
      !start.isPrefixOf pair.1 && !goal.isPrefixOf pair.1
    let moved := (tree.entries.filter fun pair => start.isPrefixOf pair.1).map fun pair =>
      (goal ++ pair.1.drop start.length, pair.2)
    ⟨rest ++ moved⟩

def systemDirectories : List String := [
  "/bin", "/boot", "/dev", "/etc", "/home", "/lib", "/media", "/mnt", "/opt", "/proc", "/root",
  "/run", "/sbin", "/srv", "/sys", "/tmp", "/usr/bin", "/usr/lib", "/usr/local/bin", "/usr/sbin",
  "/usr/share", "/var/log", "/var/tmp"]

def system : FileTree :=
  let directories := systemDirectories.foldl
    (fun tree place => tree.write (Path.ofText place) .directory) empty
  (directories.write (Path.ofText "/dev/null") (.device .null)).write
    (Path.ofText "/dev/zero") (.device .zero)

end FileTree

end BuildWatch
