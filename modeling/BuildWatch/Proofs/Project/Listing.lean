import BuildWatch.Proofs.Project.Sources

/-!
The list of sources as a function of what a directory holds. The sources are listed in the strict
order of their bytes, so that the order in which the file system names the entries of the directory
does not show, and the compiler is asked for the same build whatever that order is.
-/

namespace BuildWatch

theorem joinRelative_injective (directory : String) :
    Function.Injective (joinRelative directory) := by
  intro left right same
  by_cases none : trimSlashes directory = ""
  · rwa [joinRelative_of_slashes none, joinRelative_of_slashes none] at same
  · rw [joinRelative, joinRelative, if_neg none, if_neg none] at same
    exact (String.append_right_inj _).mp same

variable {directory : String} {entries : List (FileName × Entry)}

theorem mem_sourcesAmong_iff {file : String} :
    file ∈ sourcesAmong directory entries ↔ ∃ name content,
      (Utf8.bytes name, .file content) ∈ entries ∧ SafeName.isSource name = true ∧
        file = joinRelative directory name := by
  rw [mem_sourcesAmong]
  constructor
  · rintro ⟨⟨spelled, entry⟩, member, name, named, rfl⟩
    obtain ⟨rfl, regular, source⟩ := sourceName?_iff.mp named
    cases entry with
    | file content => exact ⟨name, content, member, source, rfl⟩
    | directory | link | device => simp [Entry.isFile] at regular
  · rintro ⟨name, content, member, source, rfl⟩
    exact ⟨_, member, name, sourceName?_iff.mpr ⟨rfl, rfl, source⟩, rfl⟩

theorem nodup_sourceNames (distinct : (entries.map Prod.fst).Nodup) :
    (entries.filterMap sourceName?).Nodup := by
  rw [List.Nodup, List.pairwise_filterMap]
  refine (List.pairwise_map.mp distinct).imp ?_
  intro left right other name named rival also same
  -- entries that are read as one name are spelled in the same way
  have spelled := (sourceName?_iff.mp named).1
  rw [same, ← (sourceName?_iff.mp also).1] at spelled
  exact other spelled

theorem pairwise_sourcesAmong (directory : String) (entries : List (FileName × Entry)) :
    (sourcesAmong directory entries).Pairwise (· ≤ ·) :=
  List.pairwise_mergeSort' (fun left right : String => left ≤ right) _

theorem sourcesAmong_perm (directory : String) (entries : List (FileName × Entry)) :
    (sourcesAmong directory entries).Perm
      ((entries.filterMap sourceName?).map (joinRelative directory)) :=
  List.mergeSort_perm ..

theorem sourcesAmong_increasing (distinct : (entries.map Prod.fst).Nodup) :
    (sourcesAmong directory entries).Pairwise fun left right =>
      Utf8.bytes left < Utf8.bytes right := by
  have once : (sourcesAmong directory entries).Nodup := by
    rw [(sourcesAmong_perm directory entries).nodup_iff]
    exact (nodup_sourceNames distinct).map (joinRelative_injective directory)
  refine ((pairwise_sourcesAmong directory entries).and once).imp ?_
  rintro left right ⟨below, other⟩
  exact Utf8.bytes_lt_iff.mpr (lt_of_le_of_ne below other)

theorem sourcesAmong_congr {shuffled : List (FileName × Entry)} (same : shuffled.Perm entries) :
    sourcesAmong directory shuffled = sourcesAmong directory entries := by
  apply List.Perm.eq_of_pairwise (fun _ _ _ _ => le_antisymm)
    (pairwise_sourcesAmong directory shuffled) (pairwise_sourcesAmong directory entries)
  have names := (same.filterMap sourceName?).map (joinRelative directory)
  exact (sourcesAmong_perm directory shuffled).trans
    (names.trans (sourcesAmong_perm directory entries).symm)

namespace Project

variable {project : Project} {tree : FileTree}

theorem request_of_list (found : tree.list project.sourceDir = .ok entries) (mode : BuildMode) :
    project.request tree mode =
      .ok (project.requestFor mode (sourcesAmong project.config.sourceDir entries)) := by
  rw [request, listSources_of_list found]
  rfl

/-- The sources are the regular files of the source directory with the name of a source, in the
strict order of their bytes. In whatever order the entries of the directory are found, the list is
the same, and so is what the compiler is asked for. -/
theorem listed_canonically (found : tree.list project.sourceDir = .ok entries)
    (distinct : (entries.map Prod.fst).Nodup) :
    ∃ files, project.listSources tree = .ok files ∧
      files.Pairwise (fun left right => Utf8.bytes left < Utf8.bytes right) ∧
      (∀ file, file ∈ files ↔ ∃ name content, (Utf8.bytes name, .file content) ∈ entries ∧
        SafeName.isSource name = true ∧ file = joinRelative project.config.sourceDir name) ∧
      ∀ other shuffled, FileTree.list other project.sourceDir = .ok shuffled →
        shuffled.Perm entries → ∀ mode,
          project.request other mode = .ok (project.requestFor mode files) ∧
            project.request other mode = project.request tree mode := by
  refine ⟨_, listSources_of_list found, sourcesAmong_increasing distinct,
    fun file => mem_sourcesAmong_iff, ?_⟩
  intro other shuffled again same mode
  rw [request_of_list again, request_of_list found, sourcesAmong_congr same]
  exact ⟨rfl, rfl⟩

/-- Two sources, a test, a directory and a link with names of sources, and a name that is no
text. -/
def mixedEntries : List (FileName × Entry) :=
  [(Utf8.bytes "main.js", .file ByteArray.empty),
    (Utf8.bytes "main.test.js", .file ByteArray.empty), (Utf8.bytes "parts.js", .directory),
    (Utf8.bytes "latest.js", .link (.ofText "main.js")),
    ([0xff, 46, 106, 115], .file ByteArray.empty), (Utf8.bytes "Z-1.js", .file ByteArray.empty)]

def sourcesTree (entries : List (FileName × Entry)) : FileTree :=
  ⟨([Utf8.bytes "game"], .directory) :: ([Utf8.bytes "game", Utf8.bytes "src"], .directory) ::
    entries.map fun (name, entry) => ([Utf8.bytes "game", Utf8.bytes "src", name], entry)⟩

theorem listed_canonically_shuffled : ∃ files,
    let project := withSources "src/"
    (mixedEntries.map Prod.fst).Nodup ∧
      project.listSources (sourcesTree mixedEntries) = .ok files ∧
      "src/main.js" ∈ files ∧ "src/Z-1.js" ∈ files ∧
      files.Pairwise (fun left right => Utf8.bytes left < Utf8.bytes right) ∧
      project.request (sourcesTree mixedEntries.reverse) .compo =
        project.request (sourcesTree mixedEntries) .compo := by
  have found : (sourcesTree mixedEntries).list (withSources "src/").sourceDir =
      .ok mixedEntries := by cbv
  have again : (sourcesTree mixedEntries.reverse).list (withSources "src/").sourceDir =
      .ok mixedEntries.reverse := by cbv
  have distinct : (mixedEntries.map Prod.fst).Nodup := by decide
  obtain ⟨files, listed, increasing, members, canonical⟩ := listed_canonically found distinct
  have among (name : String) (entry : (Utf8.bytes name, .file ByteArray.empty) ∈ mixedEntries)
      (source : SafeName.isSource name = true) : joinRelative "src/" name ∈ files :=
    (members _).mpr ⟨name, ByteArray.empty, entry, source, rfl⟩
  refine ⟨files, distinct, listed, ?_, ?_, increasing, ?_⟩
  · have spelled : joinRelative "src/" "main.js" = "src/main.js" := by cbv
    exact spelled ▸ among "main.js" (by simp [mixedEntries]) (by decide)
  · have spelled : joinRelative "src/" "Z-1.js" = "src/Z-1.js" := by cbv
    exact spelled ▸ among "Z-1.js" (by simp [mixedEntries]) (by decide)
  · exact (canonical _ _ again (List.reverse_perm _) .compo).2

end Project

end BuildWatch
