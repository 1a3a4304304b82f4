import BuildWatch.FileTree
import BuildWatch.Watch.Classifier
import BuildWatch.Watch.Route

/-!
A watcher of a directory tree that somebody changes. The watcher sees every change below its base
directory at once, and stops when a change cannot be passed on.
-/

namespace BuildWatch.Simulation

inductive FileEdit where
  | write (path : Path) (entry : Entry)
  | remove (path : Path)
  | rename (source target : Path)
  | setMode (path : Path)

namespace FileEdit

def paths : FileEdit → List Path
  | write path _ | remove path | setMode path => [path]
  | rename source target => [source, target]

def apply (tree : FileTree) : FileEdit → FileTree
  | write path entry => tree.write path entry
  | remove path => tree.remove path
  | rename source target => tree.rename source target
  | setMode _ => tree

def missingParents (tree : FileTree) (location : Location) : List Location :=
  ((List.range location.length).map location.take).filter fun place => (tree.entry? place).isNone

def linkTraces (tree : FileTree) (path : Path) : List (NoticeKind × Location) :=
  match tree.resolve path with
  | .ok (.found real _) => [(.modified, real)]
  | .ok (.free real) => [(.created, real)]
  | .error _ => []

def traces (tree : FileTree) : FileEdit → List (NoticeKind × Location)
  | write path entry =>
    let location := tree.locate path
    (missingParents tree location).map (NoticeKind.created, ·) ++
      match entry, tree.entry? location with
      | .directory, some .directory => []
      | .file _, some (.link _) => linkTraces tree path
      | _, some _ => [(.modified, location)]
      | _, none => [(.created, location)]
  | remove path =>
    let location := tree.locate path
    (tree.entries.filter fun pair => location.isPrefixOf pair.1).map fun pair =>
      (.removed, pair.1)
  | rename source target =>
    if (tree.entry? (tree.locate source)).isNone || tree.locate source = tree.locate target then []
    else [(.modified, tree.locate source), (.modified, tree.locate target)]
  | setMode path => [(.metadata, tree.locate path)]

def throughLink? (tree : FileTree) (location : Location) (entry : Location × Entry) :
    Option Location :=
  match entry.2, tree.resolve entry.1.path with
  | .link _, .ok (.found place .directory) =>
    if place.isPrefixOf location && place ≠ location then
      some (entry.1 ++ location.drop place.length)
    else none
  | _, _ => none

/-- Where a watcher of a directory sees a location: at its place below the directory, or through
the links there that lead out of it. -/
def sightings (tree : FileTree) (base location : Location) : List Location :=
  if base.isPrefixOf location then [location]
  else (tree.entries.filter fun pair => base.isPrefixOf pair.1).filterMap
    (throughLink? tree location)

def notices (tree : FileTree) (base : Location) (edit : FileEdit) : List Notice :=
  (edit.traces tree).flatMap fun trace =>
    (sightings tree base trace.2).map fun place => ⟨trace.1, [place.path]⟩

end FileEdit

structure WatchRun where
  tree : FileTree
  base : Location
  classifier : Classifier
  gone : List Receiver
  hasStopped : Bool

namespace WatchRun

def start? (tree : FileTree) (baseDir configName musicDir : Path) (sourceDir : Option Path) :
    Option WatchRun :=
  match tree.resolve baseDir with
  | .ok (.found base _) =>
    some ⟨tree, base, .of base.path configName musicDir sourceDir, [], false⟩
  | .ok (.free _) | .error _ => none

def namesConfig (run : WatchRun) (edit : FileEdit) : Bool :=
  edit.paths.any fun path => (run.tree.locate path).path.same run.classifier.configFile

def edit (run : WatchRun) (edit : FileEdit) : List Change × WatchRun :=
  let after := { run with tree := edit.apply run.tree }
  if run.hasStopped then ([], after)
  else
    let delivery := route (fun receiver => !run.gone.contains receiver)
      (run.classifier.collect (edit.notices run.tree run.base))
    (delivery.delivered, { after with hasStopped := !delivery.isComplete })

def drop (run : WatchRun) (receiver : Receiver) : WatchRun :=
  { run with gone := receiver :: run.gone }

end WatchRun

end BuildWatch.Simulation
