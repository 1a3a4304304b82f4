import BuildWatch.Proofs.Diagnostic
import BuildWatch.Terminal.Render

/-!
What a reader is told of the states of both builds, and that this is what is sent when they are
shown. The last thing that is sent is the line that tells of the state; nothing comes after it.
-/

namespace BuildWatch

/-- The name under which a build of a project is reported. -/
inductive Project.BuiltAs (project : Project) : String → Prop
  | named (known : project.config.filename ≠ "") : BuiltAs project project.config.filename
  | unnamed (unknown : project.config.filename = "") : BuiltAs project "script"

/-- What is told below the summary of a failure; an empty text gets no line of its own. -/
inductive Diagnostic.ToldBelow (diagnostic : Diagnostic) : String → Prop
  | nothing : diagnostic.ReadAs "" → ToldBelow diagnostic ""
  | line {text} : diagnostic.ReadAs text → text ≠ "" → ToldBelow diagnostic ("\n" ++ text)

/-- What is told of a code build. -/
inductive BuildState.ToldAs : BuildState → String → Prop
  | loading : ToldAs .loading "\x1b[2mloading project...\x1b[0m"
  | failed {error diagnostics project} : diagnostics.filter Diagnostic.isError = [] →
      ToldAs (.failed error diagnostics project) error
  | failedOnce {error diagnostics project first below} :
      diagnostics.filter Diagnostic.isError = [first] → first.ToldBelow below →
      ToldAs (.failed error diagnostics project) (error ++ ": 1 error" ++ below)
  | failedOften {error diagnostics project first rest below} :
      diagnostics.filter Diagnostic.isError = first :: rest → rest ≠ [] → first.ToldBelow below →
      ToldAs (.failed error diagnostics project)
        (error ++ ": " ++ toString (rest.length + 1) ++ " errors" ++ below)
  | succeeded {artifact project name} : project.BuiltAs name →
      ToldAs (.succeeded artifact [] project)
        ("built " ++ name ++ " (" ++ toString artifact.code.size ++ " bytes)")
  | warnedOnce {artifact warning project name} : project.BuiltAs name →
      ToldAs (.succeeded artifact [warning] project)
        ("built " ++ name ++ " (" ++ toString artifact.code.size ++ " bytes)" ++
          ", 1 warning")
  | warnedOften {artifact warnings project name} : project.BuiltAs name → 2 ≤ warnings.length →
      ToldAs (.succeeded artifact warnings project)
        ("built " ++ name ++ " (" ++ toString artifact.code.size ++ " bytes)" ++
          ", " ++ toString warnings.length ++ " warnings")

/-- What is told of a music build. -/
inductive MusicState.ToldAs : MusicState → String → Prop
  | loading : ToldAs .loading "compiling songs"
  | failed {error} : ToldAs (.failed error) ("build failed: " ++ error)
  | ready {data} : ToldAs (.ready data) ("compiled (" ++ toString data.size ++ " bytes)")

def Terminal.Tells (told : String → Prop) (pieces : List Piece) : Prop :=
  ∃ orders mark text, pieces = orders ++ [.text (mark ++ text ++ "\n")] ∧ told text

theorem Terminal.Tells.nonempty {told : String → Prop} {pieces : List Piece}
    (tells : Tells told pieces) : pieces ≠ [] := by
  obtain ⟨orders, mark, text, rfl, -⟩ := tells
  simp

namespace BuildState

end BuildState

namespace MusicState

end MusicState

end BuildWatch
