import BuildWatch.Proofs.SafeName
import BuildWatch.Watch.Classifier
import BuildWatch.Watch.Route
import Mathlib

/-!
What the watcher makes of a notice about a source. The name of a source is not that of a temporary
file, so a file with such a name in the source directory affects the code.
-/

namespace BuildWatch

/-- The notice is about a change of a file with the name of a source, directly in a directory. -/
def Notice.TouchesSource (notice : Notice) (directory : Path) : Prop :=
  notice.kind.isChange = true ∧ ∃ path ∈ notice.paths, ∃ name,
    path.components = directory.components ++ [.name (Utf8.bytes name)] ∧
      SafeName.isSource name = true

namespace Classifier

variable {classifier : Classifier} {path : Path} {name : String}

theorem textOr_bytes (text : String) : textOr (some (Utf8.bytes text)) = text := by
  simp [textOr, Utf8.text?_bytes]

theorem extension_of_source (named : path.fileName? = some (Utf8.bytes name))
    (source : SafeName.isSource name = true) :
    textOr path.extension? = "js" ∨ textOr path.extension? = "" := by
  obtain ⟨first, stem, -, whole⟩ := SafeName.source_eq source
  have split : name = String.ofList (first :: stem) ++ ".js" := by
    rw [← String.ofList_toList (s := name), whole, String.ofList_append]
    rfl
  have ending : Utf8.bytes ".js" = Path.dot :: Utf8.bytes "js" := by decide
  have cut : path.fileName?.bind Path.cutLastDot =
      some (Utf8.bytes (String.ofList (first :: stem)), Utf8.bytes "js") := by
    rw [named, split, Utf8.bytes_append, ending]
    exact Path.cutLastDot_append _ (by decide)
  unfold Path.extension?
  rw [cut]
  cases Utf8.bytes (String.ofList (first :: stem)) with
  | nil => exact .inr rfl
  | cons => exact .inl (textOr_bytes "js")

theorem isTemporary_of_source (named : path.fileName? = some (Utf8.bytes name))
    (source : SafeName.isSource name = true) : isTemporary path = false := by
  obtain ⟨first, stem, word, whole⟩ := SafeName.source_eq source
  have last : name.toList.getLast? = some 's' := by
    rw [whole, List.getLast?_append]
    rfl
  have visible : name.toList.head? ≠ some '.' := by
    simp only [whole, List.cons_append, List.head?_cons, ne_eq, Option.some.injEq]
    rintro rfl
    simp [SafeName.isWord] at word
  have lasting : temporaryExtensions.contains (textOr path.extension?) = false := by
    rcases extension_of_source named source with same | same <;> rw [same] <;> decide
  simp only [isTemporary, named, textOr_bytes, lasting, last, visible]
  decide

theorem isMusic_of_source (named : path.fileName? = some (Utf8.bytes name))
    (source : SafeName.isSource name = true) : isMusic path name = false := by
  have notes : path.extension? ≠ some (Utf8.bytes "txt") := by
    intro same
    have text := textOr_bytes "txt"
    rw [← same] at text
    rcases extension_of_source named source with script | none
    · exact absurd (script.symm.trans text) (by decide)
    · exact absurd (none.symm.trans text) (by decide)
  have other {file : String} (refused : SafeName.isSource file = false) : name ≠ file := by
    rintro rfl
    simp [refused] at source
  have songs : name ≠ "songs.json" := other (by decide)
  have synth : name ≠ "code.py" := other (by decide)
  simp [isMusic, musicFiles, notes, songs, synth]

theorem classify_eq_of_source {directory : List Path.Component}
    (inside : path.components = directory ++ [.name (Utf8.bytes name)])
    (source : SafeName.isSource name = true) :
    classifier.classify path =
      if path.same classifier.configFile then some .config
      else if directory = classifier.musicDir.components then none
      else if classifier.holdsSources directory then some .source
      else none := by
  have named := Path.fileName?_of_components inside
  unfold classify
  rw [isTemporary_of_source named source, named, Path.parent?_of_components inside,
    Option.bind_some, Utf8.text?_bytes]
  simp [isMusic_of_source named source, source]

theorem classify_source {directory : List Path.Component}
    (inside : path.components = directory ++ [.name (Utf8.bytes name)])
    (source : SafeName.isSource name = true) (holds : classifier.holdsSources directory = true)
    (other : directory ≠ classifier.musicDir.components) :
    classifier.classify path = some .config ∨ classifier.classify path = some .source := by
  rw [classify_eq_of_source inside source, if_neg other, if_pos holds]
  split_ifs
  · exact .inl rfl
  · exact .inr rfl

theorem source_of_classify (classified : classifier.classify path = some .source) :
    ∃ directory name, classifier.holdsSources directory = true ∧
      path.components = directory ++ [.name (Utf8.bytes name)] ∧
        SafeName.isSource name = true := by
  unfold classify at classified
  split at classified
  · simp at classified
  split at classified
  · simp at classified
  split at classified
  · rename_i name directory spelled parent
    obtain ⟨bytes, named, text⟩ := Option.bind_eq_some_iff.mp spelled
    split at classified
    · split at classified <;> simp at classified
    · split at classified
      · rename_i found
        rw [Bool.and_eq_true] at found
        obtain rfl := Utf8.bytes_of_text? text
        exact ⟨directory, name, found.1, Path.components_of_parts named parent, found.2⟩
      · simp at classified
  · simp at classified

theorem isTemporary_congr {other : Path} (same : path.components = other.components) :
    isTemporary path = isTemporary other := by
  have named : path.fileName? = other.fileName? := by rw [Path.fileName?, Path.fileName?, same]
  have extension : path.extension? = other.extension? := by
    rw [Path.extension?, Path.extension?, named]
  rw [isTemporary, isTemporary, named, extension]

theorem classify_config_iff :
    classifier.classify path = some .config ↔
      path.components = classifier.configFile.components ∧
        isTemporary classifier.configFile = false := by
  unfold classify
  constructor
  · intro classified
    split at classified
    · simp at classified
    · rename_i lasting
      split at classified
      · rename_i same
        rw [Path.same, decide_eq_true_eq] at same
        rw [Bool.not_eq_true, isTemporary_congr same] at lasting
        exact ⟨same, lasting⟩
      · split at classified
        · split at classified
          · split at classified <;> simp at classified
          · split at classified <;> simp at classified
        · simp at classified
  · rintro ⟨same, lasting⟩
    rw [isTemporary_congr same, lasting]
    simp [Path.same, same]

theorem affects_iff {notice : Notice} {change : Change} :
    classifier.affects notice change = true ↔
      notice.kind.isChange = true ∧
        ∃ path ∈ notice.paths, classifier.classify path = some change := by
  simp [affects]

theorem mem_collect {notices : List Notice} {change : Change} :
    change ∈ classifier.collect notices ↔
      ∃ notice ∈ notices, classifier.affects notice change = true := by
  have every : change ∈ Change.all := by cases change <;> decide
  simp [collect, every]

end Classifier

end BuildWatch
