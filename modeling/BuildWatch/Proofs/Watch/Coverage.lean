import BuildWatch.Proofs.Project.Sources
import BuildWatch.Proofs.Watch.Classifier

/-!
The watcher and the build mean the same files. What a build lists in the source directory is what
the watcher takes for a source there, and the project file that is loaded is the one whose changes
it reports. Two kinds of names stand in the way: scripts in the music directory belong to the
songs, and a project file with the name of a temporary file is passed over.
-/

namespace BuildWatch

def Project.classifier (project : Project) (configName musicDir : Path) : Classifier :=
  .of project.baseDir configName musicDir (some (Path.ofText project.config.sourceDir))

theorem Project.mem_listSources {project : Project} {tree : FileTree} {name : String}
    {entries : List (FileName × Entry)} {content : ByteArray}
    (source : SafeName.isSource name = true) (found : tree.list project.sourceDir = .ok entries)
    (member : (Utf8.bytes name, .file content) ∈ entries) :
    ∃ files, project.listSources tree = .ok files ∧
      joinRelative project.config.sourceDir name ∈ files := by
  refine ⟨_, listSources_of_list found, mem_sourcesAmong.mpr ⟨_, member, name, ?_, rfl⟩⟩
  exact sourceName?_iff.mpr ⟨rfl, rfl, source⟩

theorem Project.load_congr {tree other : FileTree} {baseDir configName : Path}
    (same : tree.read (baseDir.join configName) = other.read (baseDir.join configName)) :
    Project.load tree baseDir configName = Project.load other baseDir configName := by
  simp only [load, same]

namespace Classifier

variable {project : Project} {configName musicDir : Path}

theorem holdsSources_iff {directory : List Path.Component} :
    (project.classifier configName musicDir).holdsSources directory = true ↔
      directory = project.sourceDir.components :=
  decide_eq_true_iff

/-- A file with the name of a source, in the source directory, is handed to the compiler, and the
watcher takes it for a source, unless it is the project file or the source directory is that of
the music. Nothing else is taken for a source. -/
theorem sources_watched (project : Project) (configName musicDir : Path) {name : String}
    (source : SafeName.isSource name = true) :
    let classifier := project.classifier configName musicDir
    let path := project.sourceDir.join (Path.ofText name)
    (∀ tree entries content, tree.list project.sourceDir = .ok entries →
      (Utf8.bytes name, .file content) ∈ entries →
        ∃ files, project.listSources tree = .ok files ∧
          joinRelative project.config.sourceDir name ∈ files) ∧
      classifier.classify path =
        (if path.components = (project.baseDir.join configName).components then some .config
        else if project.sourceDir.components = (project.baseDir.join musicDir).components then none
        else some .source) ∧
      ∀ changed, classifier.classify changed = some .source →
        ∃ name, changed.components = project.sourceDir.components ++ [.name (Utf8.bytes name)] ∧
          SafeName.isSource name = true := by
  intro classifier path
  refine ⟨fun _ _ _ => Project.mem_listSources source, ?_, ?_⟩
  · have inside : path.components = project.sourceDir.components ++ [.name (Utf8.bytes name)] :=
      Path.components_join _ (SafeName.isPlain_of_source source)
    rw [classify_eq_of_source inside source, if_pos (holdsSources_iff.mpr rfl)]
    simp [Path.same, classifier, Project.classifier, of]
  · intro changed classified
    obtain ⟨directory, name, holds, inside, source⟩ := source_of_classify classified
    obtain rfl := holdsSources_iff.mp holds
    exact ⟨name, inside, source⟩

theorem sources_watched_loosely :
    let project := Project.withSources ".//src///"
    SafeName.isSource "main.js" = true ∧
      (∃ files, project.listSources Project.sourceTree = .ok files ∧ ".//src/main.js" ∈ files) ∧
      (project.classifier (.ofText "src/project.json") (.ofText "src/music")).classify
        (project.sourceDir.join (.ofText "main.js")) = some .source := by
  intro project
  have source : SafeName.isSource "main.js" = true := by decide
  obtain ⟨handed, classified, -⟩ :=
    sources_watched project (.ofText "src/project.json") (.ofText "src/music") source
  have found : Project.sourceTree.list project.sourceDir =
      .ok [(Utf8.bytes "main.test.js", .file ByteArray.empty),
        (Utf8.bytes "main.js", .file ByteArray.empty)] := by cbv
  have spelled : joinRelative ".//src///" "main.js" = ".//src/main.js" := by cbv
  refine ⟨source, ?_, ?_⟩
  · rw [← spelled]
    exact handed _ _ ByteArray.empty found (by simp)
  · rw [classified, if_neg (by decide), if_neg (by decide)]

theorem shared_directory_unwatched :
    ¬∀ (project : Project) (configName musicDir : Path) (name : String),
      SafeName.isSource name = true →
      let classifier := project.classifier configName musicDir
      let path := project.sourceDir.join (Path.ofText name)
      classifier.classify path = some .source ∨
        path.components = (project.baseDir.join configName).components ∧
          classifier.classify path = some .config := by
  intro watched
  have missed := watched (.withSources "music") (.ofText "project.json") (.ofText "music") "main.js"
    (by decide)
  revert missed
  decide

/-- The project file is noticed under every spelling, unless it has the name of a temporary file;
no other path is taken for it, and what is loaded depends on it alone. -/
theorem config_edits_noticed (baseDir configName musicDir : Path) (sourceDir : Option Path)
    (lasting : isTemporary (baseDir.join configName) = false) :
    let classifier := Classifier.of baseDir configName musicDir sourceDir
    let file := baseDir.join configName
    (∀ path, classifier.classify path = some .config ↔ path.components = file.components) ∧
      (∀ notices, .config ∈ classifier.collect notices ↔ ∃ notice ∈ notices,
        notice.kind.isChange = true ∧ ∃ path ∈ notice.paths, path.components = file.components) ∧
      ∀ tree other,
        (∀ path, classifier.classify path = some .config → tree.read path = other.read path) →
        Project.load tree baseDir configName = Project.load other baseDir configName := by
  intro classifier file
  have config path : classifier.classify path = some .config ↔
      path.components = file.components :=
    classify_config_iff.trans (and_iff_left lasting)
  refine ⟨config, fun notices => ?_, fun tree other same => ?_⟩
  · simp only [mem_collect, affects_iff, config]
  · exact Project.load_congr (same file ((config file).mpr rfl))

theorem config_edits_noticed_among_sources :
    isTemporary ((Path.ofText "/game/.").join (.ofText "src//config.v2.js")) = false ∧
      (Classifier.of (.ofText "/game/.") (.ofText "src//config.v2.js") (.ofText "src")
        (some (.ofText "src"))).classify (.ofText "/game/src/config.v2.js") = some .config := by
  have lasting :
      isTemporary ((Path.ofText "/game/.").join (.ofText "src//config.v2.js")) = false := by decide
  refine ⟨lasting, ?_⟩
  exact ((config_edits_noticed _ _ (.ofText "src") (some (.ofText "src")) lasting).1 _).mpr
    (by decide)

theorem hidden_config_unnoticed :
    ¬∀ (baseDir configName musicDir : Path) (sourceDir : Option Path) (path : Path),
      path.components = (baseDir.join configName).components →
        (Classifier.of baseDir configName musicDir sourceDir).classify path = some .config := by
  intro noticed
  have missed := noticed (.ofText "/game") (.ofText ".project.json") (.ofText "music") none
    (.ofText "/game/.project.json") (by decide)
  revert missed
  decide

end Classifier

end BuildWatch
