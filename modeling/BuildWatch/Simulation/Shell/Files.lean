import BuildWatch.Simulation.Shell.Condition
import BuildWatch.Simulation.Shell.Streams

/-!
Programs about the names and the places of files: they list, remove and make them.
-/

namespace BuildWatch.Simulation.Shell

def withoutSlashes (path : String) : String :=
  let kept := path.toList.reverse.dropWhile (· = '/')
  if kept.isEmpty && path ≠ "" then "/" else String.ofList kept.reverse

def baseName (path : String) : String :=
  let path := withoutSlashes path
  if path = "/" then "/"
  else String.ofList (path.toList.reverse.takeWhile (· ≠ '/')).reverse

def withoutEnding (ending name : String) : String :=
  if ending ≠ "" && name.endsWith ending && name ≠ ending then
    taken name (name.length - ending.length)
  else name

def directoryName (path : String) : String :=
  let name := (withoutSlashes path).toList.reverse
  let parent := (name.dropWhile (· ≠ '/')).dropWhile (· = '/')
  if !parent.isEmpty then String.ofList parent.reverse
  else if path.startsWith "/" then "/" else "."

def runBaseName : Program :=
  withOptions "basename" 1 [] fun options =>
    match options.operands with
    | [] => missingOperand "basename" none
    | _ :: _ :: extra :: _ => extraOperand "basename" extra
    | name :: ending => do
      print (withoutEnding (ending.headD "") (baseName name) ++ "\n")
      return 0

def runDirectoryName : Program :=
  withOptions "dirname" 1 [] fun options => do
    if options.operands.isEmpty then return ← missingOperand "dirname" none
    print (unlines (options.operands.map directoryName))
    return 0

def Machine.ownEntryOf? (machine : Machine) (name : String) : Option Entry :=
  if name = "" then none
  else if name.endsWith "/" then (machine.entryOf? name).map Prod.snd
  else
    match machine.tree.entry? (machine.tree.locate (machine.pathOf name)) with
    | some (.link target) => some (.link target)
    | _ => (machine.entryOf? name).map Prod.snd

def Machine.absence (machine : Machine) (name : String) : FileError :=
  match machine.resolve name with
  | .error error => error
  | .ok _ => .notFound

def entryNames (machine : Machine) (location : Location) : List String :=
  (machine.tree.children location).map fun child => octets child.1.toByteArray

def within (directory name : String) : String :=
  if directory.endsWith "/" then directory ++ name else directory ++ "/" ++ name

def listDirectory (machine : Machine) (options : Options) (title : Bool) (name : String) :
    List String :=
  match machine.resolve name with
  | .ok (.found location .directory) =>
    let names := entryNames machine location
    let names := if options.has "a" then "." :: ".." :: names
      else if options.has "A" then names
      else names.filter fun name => !name.startsWith "."
    let names := names.mergeSort fun left right => left ≤ right
    (if title then [name ++ ":"] else []) ++ if options.has "r" then names.reverse else names
  | _ => []

def runList : Program :=
  withOptions "ls" 2 [flag 'a' "all", flag 'A' "almost-all", flag 'd' "directory",
      flag 'r' "reverse", flag '1' ""] fun options => do
    let machine ← get
    let operands := if options.operands.isEmpty then ["."] else options.operands
    let isThere (name : String) : Bool := (machine.ownEntryOf? name).isSome
    for name in operands do
      if !isThere name then
        complainFor "ls" ("cannot access " ++ quotedName name ++ ": " ++
          errorName (machine.absence name))
    let there := (operands.filter isThere).mergeSort fun left right => left ≤ right
    let there := if options.has "r" then there.reverse else there
    let isDirectory (name : String) : Bool :=
      !options.has "d" && machine.tree.isDirectory (machine.pathOf name)
    let files := there.filter fun name => !isDirectory name
    let blocks := (if files.isEmpty then [] else [files]) ++
      (there.filter isDirectory).map (listDirectory machine options (1 < operands.length))
    print (unlines ((blocks.intersperse [""]).flatten))
    return if operands.all isThere then 0 else 2

def putEntry (location : Location) (entry : Entry) : Action Unit :=
  modify fun machine => { machine with tree := machine.tree.put location entry }

def removeAt (name : String) : Action Unit :=
  modify fun machine => { machine with tree := machine.tree.remove (machine.pathOf name) }

def removeEntry (options : Options) : Nat → String → Action Nat
  | 0, _ => return 1
  | fuel + 1, name => do
    let machine ← get
    let isDeep := options.has "r" || options.has "R"
    let refused (error : FileError) : Action Nat :=
      refuse "rm" ("cannot remove " ++ quotedName name ++ ": " ++ errorName error)
    match machine.ownEntryOf? name with
    | none =>
      if options.has "f" && machine.absence name = .notFound then return 0
      refused (machine.absence name)
    | some .directory =>
      let children := match machine.resolve name with
        | .ok (.found location _) => entryNames machine location
        | _ => []
      let last := baseName name
      if isDeep && (last = "." || last = "..") then
        return ← refuse "rm" ("refusing to remove " ++ quotedName "." ++ " or " ++
          quotedName ".." ++
          " directory: skipping " ++ quotedName name)
      if !isDeep then return ← refused .isADirectory
      for child in children do
        discard (removeEntry options fuel (within name child))
      removeAt name
      return 0
    | some _ =>
      removeAt name
      return 0

def runRemove : Program :=
  withOptions "rm" 1 [flag 'r' "recursive", flag 'R' "", flag 'f' "force"] fun options => do
    if options.operands.isEmpty then
      if options.has "f" then return 0 else return ← missingOperand "rm" none
    forEachFile options.operands (removeEntry options 100)

def pathsTo (path : String) : List String :=
  let parts := path.splitOn "/"
  ((List.range parts.length).map fun count =>
    String.intercalate "/" (parts.take (count + 1))).filter fun path => path ≠ ""

def runMakeDirectory : Program :=
  withOptions "mkdir" 1 [flag 'p' "parents"] fun options => do
    if options.operands.isEmpty then return ← missingOperand "mkdir" none
    let make (name : String) (mayExist : Bool) : Action Nat := do
      let machine ← get
      let refused (error : FileError) : Action Nat :=
        refuse "mkdir" ("cannot create directory " ++ quotedName name ++ ": " ++ errorName error)
      match machine.resolve name with
      | .ok (.found _ .directory) => if mayExist then return 0 else refused (.system 17)
      | .ok (.found _ _) => if mayExist then refused .notADirectory else refused (.system 17)
      | .error error => refused error
      | .ok (.free location) =>
        putEntry location .directory
        return 0
    forEachFile options.operands fun name => do
      if !options.has "p" then return ← make name false
      for path in pathsTo name do
        if (← make path true) ≠ 0 then return 1
      return 0

def runTouch : Program :=
  withOptions "touch" 1 [flag 'c' "no-create"] fun options => do
    if options.operands.isEmpty then return ← misuse "touch" "missing file operand" 1
    forEachFile options.operands fun name => do
      let machine ← get
      match machine.resolve name with
      | .ok (.found _ _) => return 0
      | .ok (.free location) =>
        if !options.has "c" then putEntry location (.file ByteArray.empty)
        return 0
      | .error error =>
        refuse "touch" ("cannot touch " ++ quotedName name ++ ": " ++ errorName error)

end BuildWatch.Simulation.Shell
