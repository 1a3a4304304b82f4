import BuildWatch.Project.Load
import BuildWatch.Proofs.SafeName.Pattern

/-!
The names that a project lets through. The file name of a loaded project is the one in its file if
that is a safe name, and empty otherwise; a source has a safe name too. So neither can lead out of
the directory it is meant for, hide there, or be taken for an option.
-/

namespace BuildWatch

namespace SafeName

/-- A name that means nothing but an entry of a directory: it leads into no other directory, shows
in a listing and is no option of a command. -/
structure IsHarmless (text : String) : Prop where
  inside : '/' ∉ text.toList
  level : ¬['.', '.'] <:+: text.toList
  shown : text.toList.head? ≠ some '.'
  operand : text.toList.head? ≠ some '-'

theorem isHarmless_of_isSafe {text : String} (safe : isSafe text = true) : IsHarmless text := by
  obtain ⟨-, alphabet, first, -, apart⟩ := isJoined_iff_isWellFormed.mp safe
  constructor
  · intro inside
    exact absurd (alphabet _ inside) (by decide)
  · intro level
    have dotted := List.IsChain.infix apart level
    simp at dotted
  · intro hidden
    exact absurd (first _ hidden) (by decide)
  · intro option
    exact absurd (first _ option) (by decide)

theorem isHarmless_empty : IsHarmless "" := by
  constructor <;> simp

end SafeName

theorem ProjectConfig.cleared_eq (config : ProjectConfig) :
    config.cleared = { config with
      filename := if SafeName.isSafe config.filename = true then config.filename else "" } := by
  rw [cleared]
  by_cases safe : SafeName.isSafe config.filename = true
  · rw [if_pos safe, if_neg (by simp [hasUnsafeName, safe])]
  · rw [if_neg safe]
    split_ifs with refused
    · rfl
    · have empty : config.filename = "" := by simpa [hasUnsafeName, safe] using refused
      rw [← empty]

namespace Project

variable {tree : FileTree} {baseDir configName : Path} {content : ByteArray}

theorem load_of_parse {config : ProjectConfig}
    (found : tree.read (baseDir.join configName) = .ok content)
    (parsed : ProjectConfig.parse content.data.toList = .ok config) :
    load tree baseDir configName =
      .ok (⟨baseDir, config.cleared⟩, config.warnings configName.display) := by
  simp only [load, found, parsed]

theorem load_eq_ok {project : Project} {entries : List LogEntry}
    (loaded : load tree baseDir configName = .ok (project, entries)) :
    ∃ content config, tree.read (baseDir.join configName) = .ok content ∧
      ProjectConfig.parse content.data.toList = .ok config ∧
      project = ⟨baseDir, config.cleared⟩ ∧ entries = config.warnings configName.display := by
  unfold load at loaded
  dsimp only at loaded
  split at loaded
  · simp at loaded
  · rename_i content found
    split at loaded
    · simp at loaded
    · rename_i config parsed
      obtain ⟨rfl, rfl⟩ := Prod.mk.inj (Except.ok.inj loaded)
      exact ⟨content, config, found, parsed, rfl, rfl⟩

/-- A name is accepted if it is made of letters, digits and single separators between them, which
a regular expression says too, and a source is an accepted name with the ending of a script. The
file name of a loaded project is that of its file if it is accepted, and empty otherwise. Nothing
that is accepted leads into another directory, hides or is an option. -/
theorem accepted_names (text : String) (tree : FileTree) (baseDir configName : Path) :
    (SafeName.isSafe text = true ↔ SafeName.IsWellFormed text.toList) ∧
      (SafeName.isSafe text = true ↔ text.toList ∈ SafeName.safePattern.matches') ∧
      (SafeName.isSource text = true ↔ SafeName.isSafe text = true ∧
        ['.', 'j', 's'] <:+ text.toList ∧
          ¬['.', 't', 'e', 's', 't', '.', 'j', 's'] <:+ text.toList) ∧
      (SafeName.isSource text = true ↔ text.toList ∈ SafeName.sourcePattern.matches' ∧
        ¬['.', 't', 'e', 's', 't', '.', 'j', 's'] <:+ text.toList) ∧
      (SafeName.isSource text = true → SafeName.IsHarmless text) ∧
      ∀ project entries, load tree baseDir configName = .ok (project, entries) →
        (∃ content config, tree.read (baseDir.join configName) = .ok content ∧
          ProjectConfig.parse content.data.toList = .ok config ∧
          project.config.filename =
            if SafeName.isSafe config.filename = true then config.filename else "") ∧
        (project.config.filename = "" ∨ SafeName.isSafe project.config.filename = true) ∧
        SafeName.IsHarmless project.config.filename := by
  refine ⟨SafeName.isJoined_iff_isWellFormed, SafeName.isSafe_iff_mem, SafeName.isSource_iff,
    SafeName.isSource_iff_mem, fun source => ?_, fun project entries loaded => ?_⟩
  · exact SafeName.isHarmless_of_isSafe (SafeName.isSource_iff.mp source).1
  · obtain ⟨content, config, found, parsed, rfl, -⟩ := load_eq_ok loaded
    have kept : config.cleared.filename =
        if SafeName.isSafe config.filename = true then config.filename else "" := by
      rw [config.cleared_eq]
    refine ⟨⟨content, config, found, parsed, kept⟩, ?_⟩
    rw [kept]
    split_ifs with safe
    · exact ⟨.inr safe, SafeName.isHarmless_of_isSafe safe⟩
    · exact ⟨.inl rfl, SafeName.isHarmless_empty⟩

def fileTree (text : String) : FileTree :=
  ⟨[([Utf8.bytes "game"], .directory),
    ([Utf8.bytes "game", Utf8.bytes "project.json"], .file text.toUTF8)]⟩

theorem accepted_names_cleared : ∃ project entries,
    load (fileTree "\x7b\"filename\":\"../evil\"\x7d") (.ofText "/game")
        (.ofText "project.json") = .ok (project, entries) ∧
      project.config.filename = "" ∧ SafeName.IsHarmless project.config.filename ∧
      SafeName.isSource "entity.box-2.js" = true ∧ SafeName.IsHarmless "entity.box-2.js" := by
  let tree := fileTree "\x7b\"filename\":\"../evil\"\x7d"
  obtain ⟨-, -, -, -, harmless, checked⟩ :=
    accepted_names "entity.box-2.js" tree (.ofText "/game") (.ofText "project.json")
  have source : SafeName.isSource "entity.box-2.js" = true := by decide
  have found : tree.read ((Path.ofText "/game").join (.ofText "project.json")) =
      .ok "\x7b\"filename\":\"../evil\"\x7d".toUTF8 := by cbv
  have parsed : ProjectConfig.parse "\x7b\"filename\":\"../evil\"\x7d".toUTF8.data.toList =
      .ok { ProjectConfig.initial with filename := "../evil" } := by cbv
  have loaded := load_of_parse found parsed
  have refused : SafeName.isSafe "../evil" = false := by decide
  refine ⟨_, _, loaded, ?_, (checked _ _ loaded).2.2, source, harmless source⟩
  simp [ProjectConfig.cleared_eq, refused]

end Project

end BuildWatch
