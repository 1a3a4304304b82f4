import BuildWatch.Project.Sources
import BuildWatch.Proofs.SafeName
import Mathlib

/-!
What the compiler is told about the sources of a project. A source is told under the source
directory as the project file spells it, without the slashes at its end, and seen from the base
directory that is the file that was found there. Only a directory that is spelled by slashes
alone gets lost, for nothing is left of it.
-/

namespace BuildWatch

theorem sourceName?_iff {entry : FileName × Entry} {name : String} :
    sourceName? entry = some name ↔
      entry.1 = Utf8.bytes name ∧ entry.2.isFile = true ∧ SafeName.isSource name = true := by
  unfold sourceName?
  constructor
  · intro named
    split at named
    · rename_i text spelled
      split_ifs at named with kept
      obtain rfl := Option.some.inj named
      rw [Bool.and_eq_true] at kept
      exact ⟨(Utf8.bytes_of_text? spelled).symm, kept⟩
    · simp at named
  · rintro ⟨spelled, file, source⟩
    simp [spelled, Utf8.text?_bytes, file, source]

theorem mem_sourcesAmong {directory file : String} {entries : List (FileName × Entry)} :
    file ∈ sourcesAmong directory entries ↔
      ∃ entry ∈ entries, ∃ name, sourceName? entry = some name ∧
        file = joinRelative directory name := by
  simp only [sourcesAmong, List.mem_mergeSort, List.mem_map, List.mem_filterMap]
  constructor
  · rintro ⟨name, ⟨entry, member, named⟩, rfl⟩
    exact ⟨entry, member, name, named, rfl⟩
  · rintro ⟨entry, member, name, named, rfl⟩
    exact ⟨name, ⟨entry, member, named⟩, rfl⟩

section Slashes

variable {directory name : String}

theorem toList_trimSlashes (directory : String) :
    (trimSlashes directory).toList = directory.toList.rdropWhile (· = '/') :=
  String.toList_ofList

theorem trimSlashes_eq_empty_iff :
    trimSlashes directory = "" ↔ ∀ char ∈ directory.toList, char = '/' := by
  rw [← String.toList_eq_nil_iff, toList_trimSlashes, List.rdropWhile_eq_nil_iff]
  simp

theorem bytes_trimSlashes (directory : String) : ∃ count,
    Utf8.bytes directory =
      Utf8.bytes (trimSlashes directory) ++ List.replicate count Path.slash := by
  let slashes := directory.toList.rtakeWhile (· = '/')
  have only : slashes = List.replicate slashes.length '/' :=
    List.eq_replicate_of_mem fun char member => by simpa using List.mem_rtakeWhile_imp member
  have whole : directory.toList = (trimSlashes directory).toList ++ slashes := by
    rw [toList_trimSlashes, List.rdropWhile_append_rtakeWhile]
  have encoded : String.utf8EncodeChar '/' = [Path.slash] := by decide
  refine ⟨slashes.length, ?_⟩
  rw [Utf8.bytes_eq, whole, List.flatMap_append, ← Utf8.bytes_eq]
  conv => enter [1, 2, 2]; rw [only]
  rw [List.flatMap_replicate, encoded, List.flatten_replicate_singleton]

theorem bytes_joinRelative (some : trimSlashes directory ≠ "") :
    Utf8.bytes (joinRelative directory name) =
      Utf8.bytes (trimSlashes directory) ++ Path.slash :: Utf8.bytes name := by
  have separator : Utf8.bytes "/" = [Path.slash] := by decide
  rw [joinRelative, if_neg some, Utf8.bytes_append, Utf8.bytes_append, separator,
    List.append_assoc, List.singleton_append]

variable {base : Path}

theorem components_joinRelative (source : SafeName.isSource name = true)
    (some : trimSlashes directory ≠ "") :
    (base.join (Path.ofText (joinRelative directory name))).components =
      (base.join (Path.ofText directory)).components ++ [.name (Utf8.bytes name)] := by
  obtain ⟨count, spelled⟩ := bytes_trimSlashes directory
  have kept : Utf8.bytes (trimSlashes directory) ≠ [] := fun empty =>
    some (Utf8.bytes_inj.mp empty)
  rw [Path.ofText, Path.ofText, bytes_joinRelative some, spelled,
    Path.components_join_append kept, Path.components_join_slashes kept,
    (SafeName.isPlain_of_source source).pieces]

theorem joinRelative_of_slashes (none : trimSlashes directory = "") :
    joinRelative directory name = name := by
  rw [joinRelative, if_pos none]

end Slashes

/-- The source directory is spelled by slashes alone, and so it is the root. -/
def ProjectConfig.SourcesAtRoot (config : ProjectConfig) : Prop :=
  config.sourceDir ≠ "" ∧ ∀ char ∈ config.sourceDir.toList, char = '/'

namespace Project

variable {project : Project} {tree : FileTree}

theorem components_sourceDir (root : project.config.SourcesAtRoot) :
    project.sourceDir.components = [.root] := by
  obtain ⟨some, slashes⟩ := root
  obtain ⟨count, spelled⟩ := bytes_trimSlashes project.config.sourceDir
  rw [trimSlashes_eq_empty_iff.mpr slashes] at spelled
  cases count with
  | zero => exact absurd (Utf8.bytes_inj.mp spelled) some
  | succ count =>
      have absolute : project.sourceDir = ⟨Path.slash :: List.replicate count Path.slash⟩ := by
        rw [sourceDir, Path.ofText, spelled]
        rfl
      rw [absolute]
      exact Path.components_slashes (List.cons_ne_nil Path.slash []) count

theorem told_iff {name : String} (source : SafeName.isSource name = true) :
    (project.baseDir.join (Path.ofText (joinRelative project.config.sourceDir name))).components =
        (project.sourceDir.join (Path.ofText name)).components ↔
      ¬project.config.SourcesAtRoot ∨ project.baseDir.components = [.root] := by
  have plain := SafeName.isPlain_of_source source
  have found : (project.sourceDir.join (Path.ofText name)).components =
      project.sourceDir.components ++ [.name (Utf8.bytes name)] := Path.components_join _ plain
  rw [found]
  by_cases root : project.config.SourcesAtRoot
  · have alone := trimSlashes_eq_empty_iff.mpr root.2
    have told : (project.baseDir.join (Path.ofText name)).components =
        project.baseDir.components ++ [.name (Utf8.bytes name)] := Path.components_join _ plain
    rw [joinRelative_of_slashes alone, told, components_sourceDir root, List.append_left_inj]
    simp [root]
  · simp only [root, not_false_eq_true, true_or, iff_true]
    by_cases none : trimSlashes project.config.sourceDir = ""
    · -- nothing is left of a directory that is no slash only if it was empty
      have empty : project.config.sourceDir = "" := by
        by_contra some
        exact root ⟨some, trimSlashes_eq_empty_iff.mp none⟩
      have here : project.sourceDir.components = project.baseDir.components := by
        rw [sourceDir, empty]
        exact Path.components_join_nil project.baseDir
      rw [joinRelative_of_slashes none, here]
      exact Path.components_join _ plain
    · exact components_joinRelative source none

theorem listSources_of_list {entries : List (FileName × Entry)}
    (found : tree.list project.sourceDir = .ok entries) :
    project.listSources tree = .ok (sourcesAmong project.config.sourceDir entries) := by
  rw [listSources, found]

/-- The sources that are listed are the regular files of the source directory with the name of a
source, and each is told as a path that leads to it from the base directory, unless the directory
is the root and the base directory is another one. -/
theorem listed_denotes {files : List String} (listed : project.listSources tree = .ok files) :
    ∃ entries, tree.list project.sourceDir = .ok entries ∧
      (∀ file, file ∈ files ↔ ∃ entry ∈ entries, ∃ name, sourceName? entry = some name ∧
        file = joinRelative project.config.sourceDir name) ∧
      ∀ entry ∈ entries, ∀ name, sourceName? entry = some name →
        ((project.baseDir.join
            (Path.ofText (joinRelative project.config.sourceDir name))).components =
              (project.sourceDir.join ⟨entry.1⟩).components ↔
          ¬project.config.SourcesAtRoot ∨ project.baseDir.components = [.root]) := by
  unfold listSources at listed
  split at listed
  · simp at listed
  · rename_i entries found
    obtain rfl := Except.ok.inj listed
    refine ⟨entries, found, fun file => mem_sourcesAmong, ?_⟩
    intro entry member name named
    obtain ⟨spelled, -, source⟩ := sourceName?_iff.mp named
    rw [spelled]
    exact told_iff source

def withSources (sourceDir : String) : Project :=
  ⟨.ofText "/game", { ProjectConfig.initial with sourceDir }⟩

def sourceTree : FileTree :=
  ⟨[([Utf8.bytes "main.js"], .file ByteArray.empty), ([Utf8.bytes "game"], .directory),
    ([Utf8.bytes "game", Utf8.bytes "src"], .directory),
    ([Utf8.bytes "game", Utf8.bytes "src", Utf8.bytes "main.test.js"], .file ByteArray.empty),
    ([Utf8.bytes "game", Utf8.bytes "src", Utf8.bytes "main.js"], .file ByteArray.empty)]⟩

theorem sourceName?_main : sourceName? (Utf8.bytes "main.js", .file ByteArray.empty) =
    some "main.js" :=
  sourceName?_iff.mpr ⟨rfl, rfl, by decide⟩

theorem listed_denotes_loosely : ∃ files entry name,
    let project := withSources ".//src///"
    project.listSources sourceTree = .ok files ∧ sourceName? entry = some name ∧
      ".//src/main.js" ∈ files ∧
      (project.baseDir.join (Path.ofText ".//src/main.js")).components =
        (project.sourceDir.join ⟨entry.1⟩).components := by
  have found : sourceTree.list (withSources ".//src///").sourceDir =
      .ok [(Utf8.bytes "main.test.js", .file ByteArray.empty),
        (Utf8.bytes "main.js", .file ByteArray.empty)] := by cbv
  have listed := listSources_of_list found
  obtain ⟨entries, same, told, denotes⟩ := listed_denotes listed
  have member : (Utf8.bytes "main.js", Entry.file ByteArray.empty) ∈ entries := by
    simp [← Except.ok.inj (found.symm.trans same)]
  have spelled : joinRelative ".//src///" "main.js" = ".//src/main.js" := by cbv
  have below : ¬(withSources ".//src///").config.SourcesAtRoot := by
    rintro ⟨-, slashes⟩
    exact absurd (slashes '.' (by decide)) (by decide)
  refine ⟨_, _, "main.js", listed, sourceName?_main, ?_, ?_⟩
  · exact (told _).mpr ⟨_, member, "main.js", sourceName?_main, spelled.symm⟩
  · rw [← spelled]
    exact (denotes _ member "main.js" sourceName?_main).mpr (.inl below)

theorem listed_lost :
    ¬∀ (project : Project) (tree : FileTree) (files : List String)
      (entries : List (FileName × Entry)), project.listSources tree = .ok files →
      tree.list project.sourceDir = .ok entries →
      ∀ entry ∈ entries, ∀ name, sourceName? entry = some name →
        (project.baseDir.join
          (Path.ofText (joinRelative project.config.sourceDir name))).components =
            (project.sourceDir.join ⟨entry.1⟩).components := by
  intro denotes
  have found : sourceTree.list (withSources "/").sourceDir =
      .ok [(Utf8.bytes "main.js", .file ByteArray.empty), (Utf8.bytes "game", .directory)] := by
    cbv
  have same := denotes _ _ _ _ (listSources_of_list found) found _ (List.mem_cons_self ..)
    "main.js" sourceName?_main
  revert same
  decide

end Project

end BuildWatch
